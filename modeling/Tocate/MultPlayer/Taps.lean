import Tocate.MultPlayer.Steps

/-!
# Taps and the two scores

A tap stores both scores, each from a counter.  Under the opening order a tap on
the image of the other player ends in a branch that refreshes neither counter,
so that the score of the other player is stored from whatever his counter holds.
-/

namespace Tocate.MultPlayer

open Cloud

/-- The user has one of the two seats of the match, and not both. -/
def EnUnAsiento (uid : String) (j : Jugada) : Prop :=
  j.jugadorUnoID = uid ↔ j.jugadorDosID ≠ uid

instance (uid : String) (j : Jugada) : Decidable (EnUnAsiento uid j) :=
  inferInstanceAs (Decidable (_ ↔ _))

/-- Both scores of a match, first seat first. -/
def tantos (j : Jugada) : ℤ × ℤ := (j.puntosjugadorUnoID, j.puntosjugadorDosID)

/-- The part of a pair of scores that belongs to the user. -/
def propios (uid : String) (j : Jugada) (x : ℤ × ℤ) : ℤ :=
  if j.jugadorUnoID = uid then x.1 else x.2

/-- The part that belongs to the other player. -/
def ajenos (uid : String) (j : Jugada) (x : ℤ × ℤ) : ℤ :=
  if j.jugadorUnoID = uid then x.2 else x.1

/-- The image of the user. -/
def imagenPropia (uid : String) (j : Jugada) : Imagen :=
  if j.jugadorUnoID = uid then .IvjUno else .IvjDos

/-- The branch of the click handlers that runs refreshes the counter of the
other player. -/
def Refresca (m : MultPlayer) (imagen : Imagen) (j : Jugada) : Prop :=
  m.n = 1 ∨ m.n = 2 ∨ (m.n = 0 ∧ imagen = imagenPropia m.uid j)

instance (m : MultPlayer) (imagen : Imagen) (j : Jugada) :
    Decidable (Refresca m imagen j) :=
  inferInstanceAs (Decidable (_ ∨ _ ∨ _))

/-! ## What a tap makes of the counters -/

section Cuenta

variable {m : MultPlayer} {j : Jugada}

/-- The counter of the other player after a tap. -/
theorem cuenta_ajenos (hj : EnUnAsiento m.uid j) (imagen : Imagen) :
    ajenos m.uid j (m.cuenta imagen j) =
      if Refresca m imagen j then ajenos m.uid j (tantos j)
      else ajenos m.uid j (m.cont1, m.cont2) := by
  by_cases huno : j.jugadorUnoID = m.uid
  · have hdos : j.jugadorDosID ≠ m.uid := hj.mp huno
    cases imagen with
    | IvjUno =>
        rcases orden_cases m.n with h | h | h | ⟨k, h⟩ <;>
          simp [cuenta, contadores, contadoresIvjUno, ajenos, Refresca, tantos,
            imagenPropia, h, huno, hdos]
    | IvjDos =>
        rcases orden_cases m.n with h | h | h | ⟨k, h⟩ <;>
          simp [cuenta, contadores, contadoresIvjDos, ajenos, Refresca, tantos,
            imagenPropia, h, huno, hdos]
  · have hdos : j.jugadorDosID = m.uid := not_not.mp (mt hj.mpr huno)
    cases imagen with
    | IvjUno =>
        rcases orden_cases m.n with h | h | h | ⟨k, h⟩ <;>
          simp [cuenta, contadores, contadoresIvjUno, ajenos, Refresca, tantos,
            imagenPropia, h, huno, hdos]
    | IvjDos =>
        rcases orden_cases m.n with h | h | h | ⟨k, h⟩ <;>
          simp [cuenta, contadores, contadoresIvjDos, ajenos, Refresca, tantos,
            imagenPropia, h, huno, hdos]

end Cuenta

/-! ## What a step makes of the match on the screen -/

/-- The seats of a match. -/
def asientos (j : Jugada) : String × String := (j.jugadorUnoID, j.jugadorDosID)

/-- After a step the screen has a match with the seats it had before, or the
match of a server snapshot. -/
theorem avanza_asientos {m m' : MultPlayer} {a : Paso}
    (h : avanza m a = some m') :
    m'.uid = m.uid ∧ ∀ j', m'.jugada = some j' →
      (∃ j, m.jugada = some j ∧ asientos j' = asientos j) ∨
        a = .entrega false (some j') := by
  cases a with
  | evento vista e =>
      obtain ⟨⟨x, ws⟩, hr, rfl⟩ := Option.map_eq_some_iff.mp h
      rcases react_efecto hr with ⟨imagen, aleatorio, j, rfl, ht⟩ |
        ⟨-, j, hj, ht⟩ | ⟨-, hq⟩
      · refine ⟨ht.uid, fun j' hj' => Or.inl ⟨j, ht.antes, ?_⟩⟩
        rw [ht.jugada] at hj'
        cases hj'
        rfl
      · refine ⟨ht.base.afin.uid.trans (m.alLlamar_uid e), fun j' hj' =>
          Or.inl ?_⟩
        rw [ht.jugada] at hj'
        cases hj'
        obtain ⟨k, hk, hsame⟩ := m.alLlamar_jugada e hj
        refine ⟨k, hk, ?_⟩
        rcases hsame with rfl | ⟨-, rfl⟩
        · rfl
        · rfl
      · refine ⟨hq.uid, fun j' hj' => Or.inl ⟨j', ?_, rfl⟩⟩
        rw [← hq.jugada]
        exact hj'
  | entrega pend snap =>
      obtain ⟨-, -, rfl⟩ := avanza_entrega h
      cases snap with
      | none => exact ⟨rfl, fun j' hj' => Or.inl ⟨j', hj', rfl⟩⟩
      | some j =>
          cases pend with
          | true => exact ⟨rfl, fun j' hj' => Or.inl ⟨j', hj', rfl⟩⟩
          | false =>
              obtain ⟨-, hrec⟩ := onEvent_recibe m j
              refine ⟨hrec.afin.uid, fun j' hj' => Or.inr ?_⟩
              rw [← Option.some.inj (hrec.jugada.symm.trans hj')]

/-- The match in a snapshot. -/
def Paso.entregada? : Paso → Option Jugada
  | .entrega _ Snapshot => Snapshot
  | _ => none

/-- The image that is tapped. -/
def Paso.toca? : Paso → Option Imagen
  | .evento _ (.clic imagen _) => some imagen
  | _ => none

/-- The snapshots are of a match in which the user plays. -/
def DelJugador (uid : String) (a : Paso) : Prop :=
  ∀ j ∈ a.entregada?, EnUnAsiento uid j

instance (uid : String) (a : Paso) : Decidable (DelJugador uid a) :=
  inferInstanceAs (Decidable (∀ j ∈ a.entregada?, _))

/-- The screen of a player, with his match on it. -/
structure DeJugador (uid : String) (m : MultPlayer) : Prop where
  propio : m.uid = uid
  jugada : ∀ j, m.jugada = some j → EnUnAsiento uid j

theorem deJugador_creada (uid jugadaId : String) :
    DeJugador uid (creada uid jugadaId) := ⟨rfl, nofun⟩

theorem DeJugador.paso {uid : String} {m m' : MultPlayer} {a : Paso}
    (h : DeJugador uid m) (ha : DelJugador uid a)
    (hstep : avanza m a = some m') : DeJugador uid m' := by
  obtain ⟨huid, hjug⟩ := avanza_asientos hstep
  refine ⟨huid.trans h.propio, fun j' hj' => ?_⟩
  rcases hjug j' hj' with ⟨j, hj, hsame⟩ | rfl
  · obtain ⟨huno, hdos⟩ := Prod.mk.inj hsame
    have hasiento := h.jugada j hj
    unfold EnUnAsiento at hasiento ⊢
    rw [huno, hdos]
    exact hasiento
  · exact ha j' rfl

/-! ## A tap stores its own score only -/

/-- `j'` is `j` with another order and another score of the user's own. -/
structure SoloPropios (uid : String) (j j' : Jugada) : Prop where
  ajenos : ajenos uid j (tantos j') = ajenos uid j (tantos j)
  resto :
    { j' with
      tocate := j.tocate
      puntosjugadorUnoID := j.puntosjugadorUnoID
      puntosjugadorDosID := j.puntosjugadorDosID } = j

/-- A tap stores the match it finds, the order and the own score apart. -/
def TocaLoSuyo (m : MultPlayer) : Paso → Prop
  | .evento vista (.clic imagen aleatorio) =>
      ∀ j m' ws, m.jugada = some j →
        react vista m (.clic imagen aleatorio) = some (m', ws) →
        ∃ j', ws = [.setJugada m.jugadaId j'] ∧ SoloPropios m.uid j j'
  | _ => True

/-- A tap refreshes the counter of the other player or finds it up to date. -/
def AlDia (m : MultPlayer) (a : Paso) : Prop :=
  ∀ imagen ∈ a.toca?, ∀ j ∈ m.jugada, Refresca m imagen j ∨
    ajenos m.uid j (m.cont1, m.cont2) = ajenos m.uid j (tantos j)

instance (m : MultPlayer) (a : Paso) : Decidable (AlDia m a) :=
  inferInstanceAs (Decidable (∀ imagen ∈ a.toca?, ∀ j ∈ m.jugada, _ ∨ _))

theorem soloPropios_tocada {m : MultPlayer} {j : Jugada}
    (hj : EnUnAsiento m.uid j) (imagen : Imagen) (aleatorio : Fin 3) :
    SoloPropios m.uid j (tocada j (m.cuenta imagen j) aleatorio) ↔
      Refresca m imagen j ∨
        ajenos m.uid j (m.cont1, m.cont2) = ajenos m.uid j (tantos j) := by
  have hajenos : ajenos m.uid j (tantos (tocada j (m.cuenta imagen j)
      aleatorio)) = ajenos m.uid j (m.cuenta imagen j) := rfl
  constructor
  · intro h
    have hsame := hajenos.symm.trans h.ajenos
    rw [cuenta_ajenos hj] at hsame
    by_cases href : Refresca m imagen j
    · exact Or.inl href
    · rw [if_neg href] at hsame
      exact Or.inr hsame
  · intro h
    refine ⟨?_, rfl⟩
    rw [hajenos, cuenta_ajenos hj]
    split
    · rfl
    next href => exact h.resolve_left href

/-- One step of a player's screen. -/
theorem DeJugador.tocaLoSuyo_iff {uid : String} {m m' : MultPlayer} {a : Paso}
    (h : DeJugador uid m) (hstep : avanza m a = some m') :
    TocaLoSuyo m a ↔ AlDia m a := by
  cases a with
  | entrega pend snap => exact iff_of_true trivial nofun
  | evento vista e =>
      cases e with
      | clic imagen aleatorio =>
          obtain ⟨⟨x, ws⟩, hr, rfl⟩ := Option.map_eq_some_iff.mp hstep
          obtain ⟨-, -, ⟨hno, -⟩ | ⟨j, ht⟩⟩ := react_clic hr
          · refine iff_of_true (fun j m' ws hj => ?_) fun imagen _ j hj => ?_
            · rw [hno] at hj
              cases hj
            · rw [hno] at hj
              cases hj
          · have hasiento : EnUnAsiento m.uid j := h.propio ▸ h.jugada j ht.antes
            have hiff := soloPropios_tocada hasiento imagen aleatorio
            constructor
            · rintro htoca imagen ⟨⟩ k hk
              obtain ⟨j', hws, hsolo⟩ := htoca j x ws ht.antes hr
              rw [ht.writes] at hws
              cases hws
              rw [ht.antes] at hk
              cases hk
              exact hiff.mp hsolo
            · intro hdia k m' ws' hk hr'
              rw [hr] at hr'
              cases hr'
              rw [ht.antes] at hk
              cases hk
              exact ⟨_, ht.writes, hiff.mpr (hdia imagen rfl j ht.antes)⟩
      | _ =>
          refine iff_of_true trivial ?_
          rintro imagen ⟨⟩

/-- In every run of a player's match screen each tap stores the match it finds,
its own score and the order apart, exactly when each tap refreshes the counter
of the other player or finds it up to date. -/
theorem toca_lo_suyo_iff (uid jugadaId : String) {pasos : List Paso}
    {m : MultPlayer}
    (hrun : Runs.run avanza (creada uid jugadaId) pasos = some m)
    (hsnap : ∀ a ∈ pasos, DelJugador uid a) :
    Runs.Along avanza TocaLoSuyo (creada uid jugadaId) pasos ↔
      Runs.Along avanza AlDia (creada uid jugadaId) pasos :=
  Runs.Along.iff_of_invariant (I := DeJugador uid)
    (fun _ _ _ h ha _ hstep => h.paso ha hstep)
    (fun _ _ _ h _ hstep => h.tocaLoSuyo_iff hstep)
    (deJugador_creada uid jugadaId) (Runs.Along.of_mem hsnap) hrun

/-- The match of Ana and Blas, at two points to one. -/
def dosAUno : Jugada :=
  { Jugada.nueva "a" "" with
    jugadorDosID := "b"
    puntosjugadorUnoID := 2
    puntosjugadorDosID := 1 }

/-- Blas is shown the match and taps his own image. -/
def tocaSuImagen : List Paso :=
  [.evento .vacia .onStart, .entrega false (some dosAUno),
    .evento .vacia (.clic .IvjDos (sale 1))]

theorem toca_lo_suyo_blas :
    (Runs.run avanza (creada "b" "g") tocaSuImagen).isSome = true ∧
      Runs.Along avanza TocaLoSuyo (creada "b" "g") tocaSuImagen := by
  refine ⟨rfl, (toca_lo_suyo_iff "b" "g"
    (show Runs.run avanza (creada "b" "g") tocaSuImagen = some _ from rfl)
    (by decide)).mpr (by decide)⟩

/-- Blas has just been shown the match and taps the image of Ana under the
opening order: her two points are gone. -/
theorem toca_lo_ajeno :
    ∃ m m' j', Runs.run avanza (creada "b" "g")
        [.evento .vacia .onStart, .entrega false (some dosAUno)] = some m ∧
      m.jugada = some dosAUno ∧
      react .vacia m (.clic .IvjUno (sale 0)) =
        some (m', [.setJugada "g" j']) ∧
      j'.puntosjugadorUnoID = 0 ∧
      ¬TocaLoSuyo m (.evento .vacia (.clic .IvjUno (sale 0))) := by
  refine ⟨_, _, _, rfl, rfl, rfl, rfl, fun h => ?_⟩
  obtain ⟨j', hws, hsolo⟩ := h dosAUno _ _ rfl rfl
  cases hws
  exact absurd hsolo.ajenos (by decide)

end Tocate.MultPlayer

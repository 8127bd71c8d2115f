import Tocate.MultPlayer.Taps

/-!
# The order on the screen

The order stands in three places: the field `n`, by which taps are scored, the
local match, and the label.  Every server snapshot replaces the match and
changes the label, but `n` follows only while a name is missing.

The rule of the game stands in two places, in `EtTocate` and in the click
handlers.  They agree for the player who has created the match; for the other
one two of the three orders are scored the wrong way round.  Both players score
from a counter of their own, which is never read from the match.
-/

namespace Tocate.MultPlayer

open Cloud

/-! ## Which order is shown -/

instance (m : MultPlayer) : Decidable m.Anonima :=
  inferInstanceAs (Decidable (_ ∨ _))

instance (j : Jugada) : Decidable (SinAsiento j) :=
  inferInstanceAs (Decidable (_ ∨ _))

/-- The orders that a step passes to `EtTocate`, first call first. -/
def llamadas (m : MultPlayer) : Paso → List ℕ
  | .evento _ (.clic _ aleatorio) =>
      if m.jugada = none then [] else [m.n, aleatorio, aleatorio]
  | .entrega false (some j) =>
      -- the request for an empty seat is refused before any call
      if m.Anonima ∧ SinAsiento j then []
      else
        (if m.Anonima then [j.tocate] else []) ++
          if j.abandonoID = "" then [j.tocate] else []
  | _ => []

/-- What `EtTocate` makes of the label `o`. -/
def rotula (m : MultPlayer) (j : Jugada) (o : Option Orden) (varTocate : ℕ) :
    Option Orden :=
  (EtTocate { m with tvOrden := o } varTocate j.jugadorUnoID j.jugadorDosID
    m.uid).tvOrden

/-- The order last passed to `EtTocate`, carried along a run. -/
def mostrada (m : MultPlayer) (a : Paso) (o : Option ℕ) : Option ℕ :=
  (llamadas m a).getLast?.or o

abbrev avanzaMostrada : MultPlayer × Option ℕ → Paso →
    Option (MultPlayer × Option ℕ) :=
  Runs.ghost avanza mostrada

/-- The next tap is scored by the order of the match, which is the one
shown. -/
def OrdenVista (p : MultPlayer × Option ℕ) : Prop :=
  p.1.caida = false → ∀ j, p.1.jugada = some j →
    p.1.n = j.tocate ∧ p.2 = some j.tocate

/-- A server snapshot comes while a name is missing, or with the order by which
taps are scored already. -/
def MismaOrden (m : MultPlayer) (a : Paso) : Prop :=
  ∀ j ∈ a.delServidor, m.Anonima ∨ j.tocate = m.n

instance (m : MultPlayer) (a : Paso) : Decidable (MismaOrden m a) :=
  inferInstanceAs (Decidable (∀ j ∈ a.delServidor, _ ∨ _))

/-! ## What each step does to the order -/

/-- The order by which taps are scored, the label and the order of the match. -/
def rotulo (m : MultPlayer) : ℕ × Option Orden × Option ℕ :=
  (m.n, m.tvOrden, m.jugada.map Jugada.tocate)

section Rotulo

variable (m : MultPlayer) (j : Jugada) (u : Leido) (e : Suceso)

@[simp] theorem conPropio_rotulo : (m.conPropio j u).rotulo = m.rotulo := by
  unfold conPropio
  split <;> rfl

@[simp] theorem alLlamar_rotulo : (m.alLlamar e).rotulo = m.rotulo := by
  cases e with
  | onBackPressed =>
      unfold rotulo
      simp only [alLlamar, Option.map_map]
      rfl
  | _ => rfl

/-- Neither clocks nor dialogs have to do with the order. -/
@[simp] theorem despues_rotulo : (cierra (despues e m)).1.rotulo = m.rotulo := by
  have hcancela : ∀ x : MultPlayer,
      (cancelaCountDownTimer x).state.rotulo = x.rotulo := by
    intro x
    unfold cancelaCountDownTimer
    split <;> rfl
  cases e with
  | onFinish t =>
      show (cierra (dialogo_Gameover true m)).1.rotulo = m.rotulo
      unfold dialogo_Gameover
      split
      · rfl
      · split <;> rfl
  | onBackPressed =>
      simp only [despues]
      cases hreloj : m.countDownTimer with
      | none =>
          simp only [cancelaCountDownTimer, hreloj, falla,
            Outcome.andThen_mk_true]
          rfl
      | some t =>
          rw [cancelaCountDownTimer_eq hreloj]
          rfl
  | _ => exact hcancela m

theorem alRecibir_n :
    (alRecibir j m).n = if m.Anonima then j.tocate else m.n := by
  unfold alRecibir
  split
  next hnom =>
    rw [if_pos (show m.Anonima from hnom)]
    rfl
  next hnom => rw [if_neg (show ¬m.Anonima from hnom)]

theorem alRecibir_tvOrden :
    (alRecibir j m).tvOrden =
      if m.Anonima then rotula m j m.tvOrden j.tocate else m.tvOrden := by
  unfold alRecibir
  split
  next hnom =>
    rw [if_pos (show m.Anonima from hnom)]
    rfl
  next hnom => rw [if_neg (show ¬m.Anonima from hnom)]

/-- What `EtTocate` makes of the label depends on the names. -/
theorem EtTocate_tvOrden {x : MultPlayer} (hjuno : x.nombreJuno = m.nombreJuno)
    (hjdos : x.nombreJdos = m.nombreJdos) (varTocate : ℕ) :
    (EtTocate x varTocate j.jugadorUnoID j.jugadorDosID m.uid).tvOrden =
      rotula m j x.tvOrden varTocate := by
  simp only [rotula, EtTocate, hjuno, hjdos]

theorem alSeguir_tvOrden :
    (alSeguir j m).tvOrden = rotula m j (alRecibir j m).tvOrden j.tocate := by
  refine EtTocate_tvOrden m j ?_ ?_ j.tocate
  · show (alRecibir j m).nombreJuno = m.nombreJuno
    unfold alRecibir
    split <;> rfl
  · show (alRecibir j m).nombreJdos = m.nombreJdos
    unfold alRecibir
    split <;> rfl

end Rotulo

/-- What a step does that neither taps an image nor brings a server snapshot:
nothing to the order, and nothing to what is shown. -/
theorem avanza_rotulo {m m' : MultPlayer} {a : Paso}
    (h : avanza m a = some m') (hviva : m'.caida = false)
    (hclic : ∀ vista imagen aleatorio, a ≠ .evento vista (.clic imagen aleatorio))
    (hsnap : ∀ j, a ≠ .entrega false (some j)) :
    llamadas m a = [] ∧ m'.rotulo = m.rotulo := by
  have hcorta : ¬Cortada m m' := not_cortada hviva
  cases a with
  | entrega pend snap =>
      obtain ⟨-, -, rfl⟩ := avanza_entrega h
      cases snap with
      | none => exact ⟨by cases pend <;> rfl, rfl⟩
      | some j =>
          cases pend with
          | true => exact ⟨rfl, rfl⟩
          | false => exact absurd rfl (hsnap j)
  | evento vista e =>
      rcases e.clases with ⟨imagen, aleatorio, rfl⟩ | hgame | hcallado
      · exact absurd rfl (hclic vista imagen aleatorio)
      · rcases avanza_gameover hgame h with ⟨-, hc⟩ | ⟨j, u, hj, -, rfl⟩
        · exact absurd hc hcorta
        · refine ⟨?_, ?_⟩
          · obtain ⟨t, rfl⟩ | rfl | rfl := Suceso.esGameover_cases hgame <;> rfl
          · rw [despues_rotulo, conPropio_rotulo, ← m.alLlamar_rotulo e]
            unfold rotulo
            rw [hj]
            rfl
      · cases e using Suceso.casos with
        | user p =>
            obtain ⟨-, hc | ⟨resto, u, nombre, rfl⟩⟩ := avanza_user h
            · exact absurd hc hcorta
            · cases p <;> exact ⟨rfl, rfl⟩
        | onStart =>
            obtain ⟨-, rfl⟩ := avanza_onStart h
            exact ⟨rfl, rfl⟩
        | botonDialogo d =>
            obtain ⟨t, -, ht, rfl⟩ := avanza_evento h
            obtain ⟨-, ⟨⟩⟩ := Option.ite_none_right_eq_some.mp ht
            obtain ⟨-, relojes, abiertos, terminada, hstate⟩ :=
              botonDialogo_eq d m
            refine ⟨rfl, ?_⟩
            unfold cierra
            rw [hstate]
            rfl
        | onFinishDial d =>
            obtain ⟨t, -, ht, rfl⟩ := avanza_evento h
            obtain ⟨-, ⟨⟩⟩ := Option.ite_none_right_eq_some.mp ht
            exact ⟨rfl, rfl⟩
        | clic _ _ => cases hcallado
        | onFinish _ => cases hcallado
        | onStop => cases hcallado
        | onBackPressed => cases hcallado

/-- What a server snapshot does to the order. -/
theorem avanza_entrega_rotulo {m m' : MultPlayer} {j : Jugada} (hs : Sana m)
    (h : avanza m (.entrega false (some j)) = some m')
    (hviva : m'.caida = false) :
    ¬(m.Anonima ∧ SinAsiento j) ∧ m'.jugada = some j ∧
      m'.n = (if m.Anonima then j.tocate else m.n) ∧
      m'.tvOrden = (llamadas m (.entrega false (some j))).foldl (rotula m j)
        m.tvOrden := by
  have hlis := (avanza_entrega h).2.1
  rcases avanza_entrega_cases (hs.oye hlis) hs.alRecibir_reloj h with
    ⟨hpasa, -⟩ | ⟨k, -, hk, ⟨-, -, hc⟩ | ⟨hno, hab, rfl⟩ |
      ⟨hno, hab, t, -, rfl⟩⟩
  · rcases hpasa with hpend | hsnap
    · cases hpend
    · cases hsnap
  · exact absurd hc (not_cortada hviva)
  · cases hk
    refine ⟨hno, alRecibir_jugada m j, alRecibir_n m j, ?_⟩
    have hllama : llamadas m (.entrega false (some j)) =
        (if m.Anonima then [j.tocate] else []) ++ [j.tocate] := by
      simp only [llamadas, if_neg hno, if_pos hab]
    rw [hllama, List.foldl_append]
    rw [alSeguir_tvOrden, alRecibir_tvOrden]
    split <;> rfl
  · cases hk
    refine ⟨hno, alRecibir_jugada m j, alRecibir_n m j, ?_⟩
    have hllama : llamadas m (.entrega false (some j)) =
        if m.Anonima then [j.tocate] else [] := by
      simp only [llamadas, if_neg hno, if_neg hab, List.append_nil]
    rw [hllama]
    apply (alRecibir_tvOrden m j).trans
    split <;> rfl

theorem onClick_tvOrden {m : MultPlayer} {j : Jugada} (hj : m.jugada = some j)
    (imagen : Imagen) (aleatorio : Fin 3) :
    (onClick imagen aleatorio m).state.tvOrden =
      [m.n, ↑aleatorio, ↑aleatorio].foldl (rotula m j) m.tvOrden := by
  simp only [onClick, hj, EtTocate, actualizarDBjugada, sigue,
    Outcome.andThen_mk_false]
  rfl

/-- What a tap on the match `j` does to the order. -/
theorem avanza_clic_rotulo {m m' : MultPlayer} {vista : BaseDatos}
    {imagen : Imagen} {aleatorio : Fin 3}
    (h : avanza m (.evento vista (.clic imagen aleatorio)) = some m')
    (hviva : m'.caida = false) :
    ∃ j, m.jugada = some j ∧ m'.n = aleatorio ∧
      m'.jugada = some (tocada j (m.cuenta imagen j) aleatorio) ∧
      m'.tvOrden =
        [m.n, ↑aleatorio, ↑aleatorio].foldl (rotula m j) m.tvOrden := by
  rcases avanza_clic h with ⟨-, hc⟩ | ⟨j, o, hj, rfl⟩
  · exact absurd hc (not_cortada hviva)
  · refine ⟨j, hj, rfl, rfl, ?_⟩
    obtain ⟨t, -, ht, hstate⟩ := avanza_evento h
    obtain ⟨-, ⟨⟩⟩ := Option.ite_none_right_eq_some.mp ht
    rw [hstate, ← onClick_tvOrden hj imagen aleatorio]
    rfl

/-- The calls of `EtTocate` are all that becomes of the label. -/
theorem avanza_tvOrden {m m' : MultPlayer} {a : Paso} (hs : Sana m)
    (h : avanza m a = some m') (hviva : m'.caida = false) :
    (llamadas m a = [] ∧ m'.tvOrden = m.tvOrden) ∨
      ∃ j, (m.jugada = some j ∨ m'.jugada = some j) ∧
        m'.tvOrden = (llamadas m a).foldl (rotula m j) m.tvOrden := by
  by_cases hclic : ∃ vista imagen aleatorio,
      a = .evento vista (.clic imagen aleatorio)
  · obtain ⟨vista, imagen, aleatorio, rfl⟩ := hclic
    obtain ⟨j, hj, -, -, htv⟩ := avanza_clic_rotulo h hviva
    refine Or.inr ⟨j, Or.inl hj, ?_⟩
    simp only [llamadas, hj, reduceCtorEq, if_false]
    exact htv
  · by_cases hsnap : ∃ j, a = .entrega false (some j)
    · obtain ⟨j, rfl⟩ := hsnap
      obtain ⟨-, hj, -, htv⟩ := avanza_entrega_rotulo hs h hviva
      exact Or.inr ⟨j, Or.inr hj, htv⟩
    · obtain ⟨hllama, hrot⟩ := avanza_rotulo h hviva
        (fun vista imagen aleatorio ha => hclic ⟨vista, imagen, aleatorio, ha⟩)
        (fun j ha => hsnap ⟨j, ha⟩)
      exact Or.inl ⟨hllama, congrArg (fun r => r.2.1) hrot⟩

/-! ## The scored order is the shown order -/

/-- A server snapshot that the app survives. -/
theorem OrdenVista.entrega {m m' : MultPlayer} {o : Option ℕ} {j : Jugada}
    (h : OrdenVista (m, o)) (hs : Sana m)
    (hstep : avanza m (.entrega false (some j)) = some m')
    (hviva : m'.caida = false) :
    OrdenVista (m', mostrada m (.entrega false (some j)) o) ↔
      m.Anonima ∨ j.tocate = m.n := by
  obtain ⟨hno, hj, hn, -⟩ := avanza_entrega_rotulo hs hstep hviva
  have hvista : OrdenVista (m', mostrada m (.entrega false (some j)) o) ↔
      m'.n = j.tocate ∧
        mostrada m (.entrega false (some j)) o = some j.tocate := by
    constructor
    · exact fun hv => hv hviva j hj
    · intro hv _ k hk
      rw [← Option.some.inj (hj.symm.trans hk)]
      exact hv
  rw [hvista, hn]
  by_cases hnom : m.Anonima
  · refine iff_of_true ⟨if_pos hnom, ?_⟩ (Or.inl hnom)
    simp only [mostrada, llamadas, if_neg hno, if_pos hnom]
    split <;> rfl
  · rw [if_neg hnom, or_iff_right hnom]
    -- the names have come with a match, whose order is shown
    obtain ⟨k, hk⟩ := Option.ne_none_iff_exists'.mp fun hnone =>
      hnom (Or.inl (hs.virgen hnone).1)
    obtain ⟨hnk, hok⟩ := h (caida_of_avanza hstep) k hk
    have hmostrada : mostrada m (.entrega false (some j)) o =
        some j.tocate ∨ mostrada m (.entrega false (some j)) o = some m.n := by
      simp only [mostrada, llamadas, if_neg hno, if_neg hnom, List.nil_append]
      split
      · exact Or.inl rfl
      · right
        rw [hnk]
        exact hok
    constructor
    · exact fun hv => hv.1.symm
    · intro hsame
      refine ⟨hsame.symm, ?_⟩
      rcases hmostrada with hshown | hshown
      · exact hshown
      · rw [hshown, hsame]

theorem OrdenVista.paso {p q : MultPlayer × Option ℕ} {a : Paso}
    (h : OrdenVista p) (hs : Sana p.1)
    (hstep : avanzaMostrada p a = some q) :
    OrdenVista q ↔ MismaOrden p.1 a := by
  obtain ⟨m, o⟩ := p
  obtain ⟨m', o'⟩ := q
  obtain ⟨hpaso, ho⟩ := Runs.ghost_eq_some hstep
  simp only at hpaso hs ho ⊢
  subst ho
  by_cases hsnap : ∃ j, a = .entrega false (some j)
  · obtain ⟨j, rfl⟩ := hsnap
    have hsola : MismaOrden m (.entrega false (some j)) ↔
        m.Anonima ∨ j.tocate = m.n := by
      simp [MismaOrden, Paso.delServidor]
    rw [hsola]
    by_cases hviva : m'.caida = false
    · exact h.entrega hs hpaso hviva
    · -- only a snapshot with an empty seat takes the app down
      apply iff_of_true fun hv => absurd hv hviva
      obtain ⟨hm, hlis, -⟩ := avanza_entrega hpaso
      have hrecibe : (alRecibir j m).caida = false :=
        (alRecibir_caida m j).trans hm
      rcases avanza_entrega_cases (hs.oye hlis) hs.alRecibir_reloj hpaso with
        ⟨-, rfl⟩ | ⟨k, -, hk, ⟨hnom, -⟩ | ⟨-, -, rfl⟩ | ⟨-, -, t, -, rfl⟩⟩
      · exact absurd hm hviva
      · exact Or.inl hnom
      · cases hk
        exact absurd hrecibe hviva
      · cases hk
        exact absurd hrecibe hviva
  · have hok : MismaOrden m a := by
      intro j hj
      cases a with
      | evento vista e => cases hj
      | entrega pend snap =>
          cases pend with
          | true => cases hj
          | false =>
              obtain rfl : snap = some j := hj
              exact absurd ⟨j, rfl⟩ hsnap
    refine iff_of_true (fun hviva j hj => ?_) hok
    by_cases hclic : ∃ vista imagen aleatorio,
        a = .evento vista (.clic imagen aleatorio)
    · obtain ⟨vista, imagen, aleatorio, rfl⟩ := hclic
      obtain ⟨k, hk, hn, hj', -⟩ := avanza_clic_rotulo hpaso hviva
      rw [hj'] at hj
      cases hj
      refine ⟨hn, ?_⟩
      simp only [mostrada, llamadas, hk, reduceCtorEq, if_false]
      rfl
    · obtain ⟨hllama, hrot⟩ := avanza_rotulo hpaso hviva
        (fun vista imagen aleatorio ha => hclic ⟨vista, imagen, aleatorio, ha⟩)
        (fun j ha => hsnap ⟨j, ha⟩)
      have hn : m'.n = m.n := congrArg (fun r => r.1) hrot
      have htoc : m'.jugada.map Jugada.tocate = m.jugada.map Jugada.tocate :=
        congrArg (fun r => r.2.2) hrot
      rw [hj] at htoc
      obtain ⟨k, hk, hsame⟩ := Option.map_eq_some_iff.mp htoc.symm
      obtain ⟨hnk, hok'⟩ := h (caida_of_avanza hpaso) k hk
      simp only [mostrada, hllama]
      exact ⟨hn.trans (hnk.trans hsame), hok'.trans (congrArg some hsame)⟩

theorem orden_vista_iff (uid jugadaId : String) {pasos : List Paso}
    {p : MultPlayer × Option ℕ}
    (hrun : Runs.run avanzaMostrada (creada uid jugadaId, none) pasos =
      some p) :
    (∀ xs ys q, pasos = xs ++ ys →
        Runs.run avanzaMostrada (creada uid jugadaId, none) xs = some q →
        OrdenVista q) ↔
      Runs.Along avanzaMostrada (fun p => MismaOrden p.1)
        (creada uid jugadaId, none) pasos := by
  refine Runs.reached_iff_along_of_step
    (I := fun p => p.1.caida = false → Sana p.1) ?_
    (fun _ => sana_creada uid jugadaId) (fun _ => nofun) hrun
  intro p a q hI hp hstep
  obtain ⟨hpaso, -⟩ := Runs.ghost_eq_some hstep
  have hs := hI (caida_of_avanza hpaso)
  exact ⟨hp.paso hs hstep, fun _ hviva => hs.paso hpaso hviva⟩

/-- The match as Ana's first tap leaves it, with another order. -/
def trasToque : Jugada :=
  { dosAUno with
    puntosjugadorUnoID := 3
    tocate := 2 }

/-- Blas is shown the match of Ana twice before the names arrive. -/
def sinNombres : List Paso :=
  [.evento .vacia .onStart, .entrega false (some dosAUno),
    .entrega false (some trasToque)]

theorem orden_vista_sinNombres :
    ∃ p, Runs.run avanzaMostrada (creada "b" "g", none) sinNombres = some p ∧
      p.2 = some 2 ∧ OrdenVista p := by
  have hvista := (orden_vista_iff "b" "g"
    (show Runs.run avanzaMostrada (creada "b" "g", none) sinNombres = some _
      from rfl)).mpr (by decide)
  exact ⟨_, rfl, rfl,
    hvista sinNombres [] _ (List.append_nil sinNombres).symm rfl⟩

/-- The users of the match. -/
def anaYBlas : BaseDatos :=
  (BaseDatos.vacia.conUser "a" (User.nuevo "Ana" 0 0 "")).conUser "b"
    (User.nuevo "Blas" 0 0 "")

/-- The names have arrived when Ana's tap does: order 2 is shown, and the next
tap is scored by order 0. -/
theorem orden_atrasada :
    ∃ p, Runs.run avanzaMostrada (creada "b" "g", none)
        [.evento anaYBlas .onStart, .entrega false (some dosAUno),
          .evento anaYBlas .userUno, .evento anaYBlas .userDos,
          .entrega false (some trasToque)] = some p ∧
      p.1.n = 0 ∧ p.2 = some 2 ∧ p.1.tvOrden = some (.Toca "Ana") ∧
      ¬OrdenVista p := by
  refine ⟨_, rfl, rfl, rfl, rfl, fun h => ?_⟩
  exact absurd (h rfl trasToque rfl).1 (by decide)

/-! ## Obeying the order -/

def otraImagen : Imagen → Imagen
  | .IvjUno => .IvjDos
  | .IvjDos => .IvjUno

/-- The text that `EtTocate` puts on the label for the order `n`. -/
def texto (m : MultPlayer) (j : Jugada) : Option Orden := rotula m j none m.n

/-- The name that belongs to an image. -/
def nombreDe (m : MultPlayer) : Imagen → String
  | .IvjUno => m.nombreJuno
  | .IvjDos => m.nombreJdos

/-- The image that the text tells the user to touch. -/
def pedida (uid : String) (j : Jugada) : Orden → Imagen
  | .SetTocate | .SetTocateAti => imagenPropia uid j
  | .Toca _ => otraImagen (imagenPropia uid j)

/-- The texts for the player who has created the match. -/
theorem texto_uno {m : MultPlayer} {j : Jugada}
    (huno : j.jugadorUnoID = m.uid) (hdos : j.jugadorDosID ≠ m.uid) :
    texto m j =
      match m.n with
      | 0 => some .SetTocate
      | 1 => some (.Toca m.nombreJdos)
      | 2 => some .SetTocateAti
      | _ => none := by
  rcases orden_cases m.n with hn | hn | hn | ⟨k, hn⟩ <;>
    simp [texto, rotula, EtTocate, hn, huno, hdos]

/-- The texts for the player who has joined it. -/
theorem texto_dos {m : MultPlayer} {j : Jugada}
    (huno : j.jugadorUnoID ≠ m.uid) (hdos : j.jugadorDosID = m.uid) :
    texto m j =
      match m.n with
      | 0 => some .SetTocate
      | 1 => some .SetTocateAti
      | 2 => some (.Toca m.nombreJuno)
      | _ => none := by
  rcases orden_cases m.n with hn | hn | hn | ⟨k, hn⟩ <;>
    simp [texto, rotula, EtTocate, hn, huno, hdos]

/-- Whom the text names is the other player. -/
theorem nombrado_of_texto {m : MultPlayer} {j : Jugada} {nombre : String}
    (hj : EnUnAsiento m.uid j) (h : texto m j = some (.Toca nombre)) :
    nombre = nombreDe m (pedida m.uid j (.Toca nombre)) := by
  by_cases huno : j.jugadorUnoID = m.uid
  · rw [texto_uno huno (hj.mp huno)] at h
    rcases orden_cases m.n with hn | hn | hn | ⟨k, hn⟩ <;> rw [hn] at h <;>
      cases h
    simp only [pedida, imagenPropia, huno, if_true, otraImagen, nombreDe]
  · rw [texto_dos huno (not_not.mp (mt hj.mpr huno))] at h
    rcases orden_cases m.n with hn | hn | hn | ⟨k, hn⟩ <;> rw [hn] at h <;>
      cases h
    simp only [pedida, imagenPropia, huno, if_false, otraImagen, nombreDe]

/-- The image that is worth a point under the order `n`. -/
def premiada (uid : String) (j : Jugada) : ℕ → Option Imagen
  | 0 => some (imagenPropia uid j)
  | 1 => some (otraImagen (imagenPropia uid j))
  | 2 => some (imagenPropia uid j)
  | _ => none

/-- What a tap is worth. -/
theorem cuenta_propios {m : MultPlayer} {j : Jugada}
    (hj : EnUnAsiento m.uid j) (imagen : Imagen) :
    (premiada m.uid j m.n = some imagen ∧
      propios m.uid j (m.cuenta imagen j) =
        propios m.uid j (m.cont1, m.cont2) + 1) ∨
    (premiada m.uid j m.n ≠ some imagen ∧
      propios m.uid j (m.cuenta imagen j) ≤
        propios m.uid j (m.cont1, m.cont2)) := by
  have hresta : ∀ c : ℤ, c - 1 ≤ c := fun c => by omega
  by_cases huno : j.jugadorUnoID = m.uid
  · have hdos : j.jugadorDosID ≠ m.uid := hj.mp huno
    cases imagen with
    | IvjUno =>
        rcases orden_cases m.n with hn | hn | hn | ⟨k, hn⟩ <;>
          simp [premiada, imagenPropia, otraImagen, propios, cuenta, contadores,
            contadoresIvjUno, hn, huno, hdos, hresta]
    | IvjDos =>
        rcases orden_cases m.n with hn | hn | hn | ⟨k, hn⟩ <;>
          simp [premiada, imagenPropia, otraImagen, propios, cuenta, contadores,
            contadoresIvjDos, hn, huno, hdos]
        split <;> omega
  · have hdos : j.jugadorDosID = m.uid := not_not.mp (mt hj.mpr huno)
    cases imagen with
    | IvjUno =>
        rcases orden_cases m.n with hn | hn | hn | ⟨k, hn⟩ <;>
          simp [premiada, imagenPropia, otraImagen, propios, cuenta, contadores,
            contadoresIvjUno, hn, huno, hdos, hresta]
    | IvjDos =>
        rcases orden_cases m.n with hn | hn | hn | ⟨k, hn⟩ <;>
          simp [premiada, imagenPropia, otraImagen, propios, cuenta, contadores,
            contadoresIvjDos, hn, huno, hdos]
        split <;> omega

/-- A text is shown under the three orders of the game. -/
theorem texto_eq_none_iff {m : MultPlayer} {j : Jugada}
    (hj : EnUnAsiento m.uid j) : texto m j = none ↔ 2 < m.n := by
  by_cases huno : j.jugadorUnoID = m.uid
  · rw [texto_uno huno (hj.mp huno)]
    rcases orden_cases m.n with hn | hn | hn | ⟨k, hn⟩ <;> simp [hn]
  · rw [texto_dos huno (not_not.mp (mt hj.mpr huno))]
    rcases orden_cases m.n with hn | hn | hn | ⟨k, hn⟩ <;> simp [hn]

/-- The image that the text asks for is the one worth a point, except for the
second player under orders 1 and 2. -/
theorem pedida_premiada_iff {m : MultPlayer} {j : Jugada} {o : Orden}
    (hj : EnUnAsiento m.uid j) (ho : texto m j = some o) :
    premiada m.uid j m.n = some (pedida m.uid j o) ↔
      j.jugadorUnoID = m.uid ∨ m.n = 0 := by
  by_cases huno : j.jugadorUnoID = m.uid
  · rw [texto_uno huno (hj.mp huno)] at ho
    refine iff_of_true ?_ (Or.inl huno)
    rcases orden_cases m.n with hn | hn | hn | ⟨k, hn⟩ <;> rw [hn] at ho ⊢ <;>
      cases ho <;> rfl
  · rw [texto_dos huno (not_not.mp (mt hj.mpr huno))] at ho
    rw [or_iff_right huno]
    rcases orden_cases m.n with hn | hn | hn | ⟨k, hn⟩ <;> rw [hn] at ho ⊢ <;>
      cases ho <;> simp [premiada, pedida, imagenPropia, huno, otraImagen]

/-- Where a text is shown one of the two images is worth a point. -/
theorem premiada_pedida_or {m : MultPlayer} {j : Jugada} {o : Orden}
    (hj : EnUnAsiento m.uid j) (ho : texto m j = some o) :
    premiada m.uid j m.n = some (pedida m.uid j o) ∨
      premiada m.uid j m.n = some (otraImagen (pedida m.uid j o)) := by
  have hn : ¬2 < m.n := by
    rw [← texto_eq_none_iff hj, ho]
    exact Option.some_ne_none o
  obtain ⟨imagen, himagen⟩ : ∃ imagen, premiada m.uid j m.n = some imagen := by
    rcases orden_cases m.n with h | h | h | ⟨k, h⟩
    · exact ⟨_, by rw [h]; rfl⟩
    · exact ⟨_, by rw [h]; rfl⟩
    · exact ⟨_, by rw [h]; rfl⟩
    · omega
  rw [himagen]
  cases imagen <;> cases pedida m.uid j o <;> simp [otraImagen]

/-- After a tap the user's own score is `x`, on the screen and in the match that
is stored. -/
def Deja (m : MultPlayer) (j : Jugada) (imagen : Imagen) (aleatorio : Fin 3)
    (x : ℤ) : Prop :=
  let t := onClick imagen aleatorio m
  propios m.uid j (t.state.cont1, t.state.cont2) = x ∧
    ∃ j', t.writes = [.setJugada m.jugadaId j'] ∧
      propios m.uid j (tantos j') = x

/-- The image that the text asks for raises the user's own score of the match by
one, the other one does not raise it. -/
structure ObedecerPaga (m : MultPlayer) (j : Jugada) : Prop where
  obedece : ∀ o aleatorio, texto m j = some o →
    Deja m j (pedida m.uid j o) aleatorio (propios m.uid j (tantos j) + 1)
  desobedece : ∀ o aleatorio, texto m j = some o →
    ∃ x ≤ propios m.uid j (tantos j),
      Deja m j (otraImagen (pedida m.uid j o)) aleatorio x

theorem deja_iff {m : MultPlayer} {j : Jugada} (hj : m.jugada = some j)
    (imagen : Imagen) (aleatorio : Fin 3) (x : ℤ) :
    Deja m j imagen aleatorio x ↔
      propios m.uid j (m.cuenta imagen j) = x := by
  obtain ⟨o, ho⟩ := onClick_eq hj imagen aleatorio
  unfold Deja
  rw [ho]
  constructor
  · exact fun h => h.1
  · exact fun h => ⟨h, _, rfl, h⟩

/-- Where a text is shown, obeying it is worth a point and disobeying it is
worth none exactly when the user has created the match or the order is 0, and
his counter is his score of the match. -/
theorem obedecer_paga_iff {m : MultPlayer} {j : Jugada}
    (hj : m.jugada = some j) (hasiento : EnUnAsiento m.uid j) :
    ObedecerPaga m j ↔
      2 < m.n ∨
        ((j.jugadorUnoID = m.uid ∨ m.n = 0) ∧
          propios m.uid j (m.cont1, m.cont2) = propios m.uid j (tantos j)) := by
  constructor
  · intro h
    cases ho : texto m j with
    | none => exact Or.inl ((texto_eq_none_iff hasiento).mp ho)
    | some o =>
        have hsube := (deja_iff hj _ _ _).mp (h.obedece o 0 ho)
        obtain ⟨x, hx, hdeja⟩ := h.desobedece o 0 ho
        have hbaja := (deja_iff hj _ _ _).mp hdeja
        have hpremio := premiada_pedida_or hasiento ho
        rcases cuenta_propios hasiento (pedida m.uid j o) with
          ⟨hp, hmas⟩ | ⟨hno, hle⟩
        · exact Or.inr ⟨(pedida_premiada_iff hasiento ho).mp hp, by omega⟩
        · -- then the other image is worth a point, on top of what is there
          rcases cuenta_propios hasiento (otraImagen (pedida m.uid j o)) with
            ⟨-, hmas⟩ | ⟨hno', -⟩
          · omega
          · exact absurd hpremio (not_or.mpr ⟨hno, hno'⟩)
  · rintro (hn | ⟨hpaga, hsame⟩)
    · have hnone := (texto_eq_none_iff hasiento).mpr hn
      refine ⟨fun o _ ho => ?_, fun o _ ho => ?_⟩
      · rw [hnone] at ho
        cases ho
      · rw [hnone] at ho
        cases ho
    · refine ⟨fun o aleatorio ho => (deja_iff hj _ _ _).mpr ?_,
        fun o aleatorio ho => ⟨_, ?_, (deja_iff hj _ _ _).mpr rfl⟩⟩
      · have hpedida := (pedida_premiada_iff hasiento ho).mpr hpaga
        rcases cuenta_propios hasiento (pedida m.uid j o) with
          ⟨-, hsube⟩ | ⟨hno, -⟩
        · rw [hsube, hsame]
        · exact absurd hpedida hno
      · have hpedida := (pedida_premiada_iff hasiento ho).mpr hpaga
        rcases cuenta_propios hasiento (otraImagen (pedida m.uid j o)) with
          ⟨hp, -⟩ | ⟨-, hle⟩
        · -- only one image is worth a point
          have himg := Option.some.inj (hp.symm.trans hpedida)
          cases h : pedida m.uid j o <;> rw [h] at himg <;> cases himg
        · rw [← hsame]
          exact hle

/-- The screen of `uid` under the order `n`, with the match of Ana and Blas. -/
def enPartida (uid : String) (n : ℕ) : MultPlayer :=
  { creada uid "g" with
    jugada := some { dosAUno with tocate := n }
    n := n
    cont1 := 2
    cont2 := 1 }

/-- Ana is told to touch Blas. -/
theorem obedecer_paga_ana :
    ObedecerPaga (enPartida "a" 1) { dosAUno with tocate := 1 } :=
  (obedecer_paga_iff rfl (by decide)).mpr (Or.inr ⟨Or.inl rfl, rfl⟩)

/-- Blas is told to touch himself; his own image costs him his point and Ana's
is worth one. -/
theorem obedecer_cuesta :
    texto (enPartida "b" 1) { dosAUno with tocate := 1 } =
        some .SetTocateAti ∧
      Deja (enPartida "b" 1) { dosAUno with tocate := 1 } .IvjDos 0 0 ∧
      Deja (enPartida "b" 1) { dosAUno with tocate := 1 } .IvjUno 0 2 ∧
      ¬ObedecerPaga (enPartida "b" 1) { dosAUno with tocate := 1 } := by
  refine ⟨rfl, ⟨rfl, _, rfl, rfl⟩, ⟨rfl, _, rfl, rfl⟩, fun h => ?_⟩
  have hsube := (h.obedece .SetTocateAti 0 rfl).1
  exact absurd hsube (by decide)

end Tocate.MultPlayer

import Tocate.Partida.Credit
import Tocate.Partida.Result

/-!
# No score below zero

A tap against the order costs a point.  The click handlers charge it in four
places, and only the two of `IvjDos` look whether there is a point to take.

A score below zero would be taken off the stored points of the player at the
end of the match.  The last sections show that this is the only way in which a
match could lower them.
-/

namespace Tocate.Partida

open Cloud

/-! ## The condition -/

/-- Neither score of the match is below zero. -/
def SinDeuda (j : Jugada) : Prop :=
  0 ≤ j.puntosjugadorUnoID ∧ 0 ≤ j.puntosjugadorDosID

/-- No counter and no score of the document is below zero. -/
def SinDeudas (p : Partida) (s : Estado) : Prop :=
  (∀ l, 0 ≤ (s.client l).cont1 ∧ 0 ≤ (s.client l).cont2) ∧
    ∀ j, s.server.jugadas p.jugadaId = some j → SinDeuda j

/-- A tap on `IvjUno` that costs a point finds one to take. -/
def Solvente (m : MultPlayer) (imagen : Imagen) (j : Jugada) : Prop :=
  imagen = .IvjUno →
    (m.n = 1 → j.jugadorDosID ≠ m.uid → 0 < m.cont1) ∧
      (m.n = 2 → j.jugadorUnoID ≠ m.uid → 0 < m.cont2)

instance (m : MultPlayer) (imagen : Imagen) (j : Jugada) :
    Decidable (Solvente m imagen j) :=
  inferInstanceAs (Decidable (_ → _ ∧ _))

def Paga (s : Estado) (a : Paso) : Prop :=
  ∀ x ∈ toca? a, ∀ j ∈ (s.client x.1).jugada, Solvente (s.client x.1) x.2 j

instance (s : Estado) (a : Paso) : Decidable (Paga s a) :=
  inferInstanceAs (Decidable (∀ x ∈ toca? a, ∀ j ∈ (s.client x.1).jugada, _))

section Cuenta

variable {m : MultPlayer} {j : Jugada}

/-- The two penalties of `IvjUno` are not guarded. -/
theorem contadoresIvjUno_nonneg_iff (hj : SinDeuda j) (h1 : 0 ≤ m.cont1)
    (h2 : 0 ≤ m.cont2) :
    (0 ≤ (m.cuenta .IvjUno j).1 ∧ 0 ≤ (m.cuenta .IvjUno j).2) ↔
      (m.n = 1 → j.jugadorDosID ≠ m.uid → 0 < m.cont1) ∧
        (m.n = 2 → j.jugadorUnoID ≠ m.uid → 0 < m.cont2) := by
  obtain ⟨huno, hdos⟩ := hj
  unfold MultPlayer.cuenta
  have hsuma1 : 0 ≤ m.cont1 + 1 := by omega
  have hsuma2 : 0 ≤ m.cont2 + 1 := by omega
  rcases MultPlayer.orden_cases m.n with h | h | h | ⟨k, h⟩
  · simp only [MultPlayer.contadores, MultPlayer.contadoresIvjUno, h]
    split
    · simp [hsuma1, hdos]
    · simp [h1, h2]
  · simp only [MultPlayer.contadores, MultPlayer.contadoresIvjUno, h]
    split
    next hyo => simp [hyo, huno, hsuma2]
    next hyo =>
      simp [hyo, hdos]
      omega
  · simp only [MultPlayer.contadores, MultPlayer.contadoresIvjUno, h]
    split
    next hyo => simp [hyo, hdos, hsuma1]
    next hyo =>
      simp [hyo, huno]
      omega
  · simp [MultPlayer.contadores, MultPlayer.contadoresIvjUno, h, h1, h2]

/-- Those of `IvjDos` are. -/
theorem contadoresIvjDos_nonneg (hj : SinDeuda j) (h1 : 0 ≤ m.cont1)
    (h2 : 0 ≤ m.cont2) :
    0 ≤ (m.cuenta .IvjDos j).1 ∧ 0 ≤ (m.cuenta .IvjDos j).2 := by
  have hguarda : ∀ c : ℤ, 0 ≤ c → 0 ≤ if c > 0 then c - 1 else c := by
    intro c hc
    split <;> omega
  obtain ⟨huno, hdos⟩ := hj
  unfold MultPlayer.cuenta
  rcases MultPlayer.orden_cases m.n with h | h | h | ⟨k, h⟩
  · simp only [MultPlayer.contadores, MultPlayer.contadoresIvjDos, h]
    split
    · exact ⟨huno, by omega⟩
    · exact ⟨h1, h2⟩
  · simp only [MultPlayer.contadores, MultPlayer.contadoresIvjDos, h]
    split
    · exact ⟨by omega, hdos⟩
    · exact ⟨huno, hguarda _ h2⟩
  · simp only [MultPlayer.contadores, MultPlayer.contadoresIvjDos, h]
    split
    · exact ⟨huno, by omega⟩
    · exact ⟨hguarda _ h1, hdos⟩
  · simp only [MultPlayer.contadores, MultPlayer.contadoresIvjDos, h]
    exact ⟨h1, h2⟩

/-- What a tap makes of two counters that are not below zero. -/
theorem cuenta_nonneg_iff (hj : SinDeuda j) (h1 : 0 ≤ m.cont1)
    (h2 : 0 ≤ m.cont2) (imagen : Imagen) :
    (0 ≤ (m.cuenta imagen j).1 ∧ 0 ≤ (m.cuenta imagen j).2) ↔
      Solvente m imagen j := by
  cases imagen with
  | IvjUno =>
      rw [contadoresIvjUno_nonneg_iff hj h1 h2]
      exact ⟨fun h _ => h, fun h => h rfl⟩
  | IvjDos => exact iff_of_true (contadoresIvjDos_nonneg hj h1 h2) nofun

end Cuenta

/-! ## Both screens and the document -/

/-- Counters and copy of a screen are not below zero. -/
structure Saneado (m : MultPlayer) : Prop where
  cont1 : 0 ≤ m.cont1
  cont2 : 0 ≤ m.cont2
  jugada : ∀ j, m.jugada = some j → SinDeuda j

/-- No score below zero, part by part. -/
def suelo (p : Partida) : Parts Lado BaseDatos Escritura MultPlayer Unit where
  know := fun _ => ()
  le := fun _ _ => True
  doc := fun _ db => ∀ j, db.jugadas p.jugadaId = some j → SinDeuda j
  write := fun _ _ w => ∀ j, entera w = some j → SinDeuda j
  ack := fun _ _ _ => True
  shot := fun _ _ db => ∀ j, db.jugadas p.jugadaId = some j → SinDeuda j
  client := fun _ _ m => Saneado m

/-- A write that stores no score below zero brings none into the document. -/
theorem sinDeuda_aplicar {p : Partida} {l : Lado} {db : BaseDatos}
    {w : Escritura} (hw : p.Permitida l w)
    (hent : ∀ j, entera w = some j → SinDeuda j)
    (hdb : ∀ j, db.jugadas p.jugadaId = some j → SinDeuda j) :
    ∀ j, (db.aplicar w).1.jugadas p.jugadaId = some j → SinDeuda j := by
  intro j hj
  rw [hw.aplicar db] at hj
  cases w with
  | addJugada id k => exact hent j hj
  | setJugada id k => exact hent j hj
  | reclamar id k => exact hent j hj
  | unirse id uid =>
      obtain ⟨k, hk, rfl⟩ := Option.map_eq_some_iff.mp hj
      exact hdb k hk
  | rechazar id uid =>
      obtain ⟨k, hk, rfl⟩ := Option.map_eq_some_iff.mp hj
      exact hdb k hk
  | deleteJugada id => cases hj
  | setUser uid u => exact hdb j hj

section Handlers

variable {m m' : MultPlayer} {ws : List Escritura}

/-- A tap keeps counters and copy in order exactly when it can be paid. -/
theorem Saneado.toque_iff (h : Saneado m) {imagen : Imagen}
    {aleatorio : Fin 3} {j : Jugada}
    (ht : MultPlayer.Toque m imagen aleatorio j m' ws) :
    (0 ≤ m'.cont1 ∧ 0 ≤ m'.cont2) ↔ Solvente m imagen j := by
  rw [ht.cont1, ht.cont2]
  exact cuenta_nonneg_iff (h.jugada j ht.antes) h.cont1 h.cont2 imagen

theorem Saneado.toque (h : Saneado m) {imagen : Imagen} {aleatorio : Fin 3}
    {j : Jugada} (ht : MultPlayer.Toque m imagen aleatorio j m' ws)
    (hok : Solvente m imagen j) :
    Saneado m' ∧ ∀ w ∈ ws, ∀ k, entera w = some k → SinDeuda k := by
  obtain ⟨h1, h2⟩ := (h.toque_iff ht).mpr hok
  have htocada : SinDeuda
      (MultPlayer.tocada j (m.cuenta imagen j) aleatorio) :=
    (cuenta_nonneg_iff (h.jugada j ht.antes) h.cont1 h.cont2 imagen).mpr hok
  refine ⟨⟨h1, h2, fun k hk => ?_⟩, ?_⟩
  · rw [ht.jugada] at hk
    cases hk
    exact htocada
  · rw [ht.writes, List.forall_mem_singleton]
    rintro k ⟨⟩
    exact htocada

/-- The match that `funcionGameover` is called with has the scores of the
copy. -/
theorem Saneado.alLlamar (h : Saneado m) {e : MultPlayer.Suceso} {j : Jugada}
    (hj : (m.alLlamar e).jugada = some j) : SinDeuda j := by
  obtain ⟨k, hk, rfl | ⟨-, rfl⟩⟩ := m.alLlamar_jugada e hj
  · exact h.jugada j hk
  · exact h.jugada k hk

theorem Saneado.termina (h : Saneado m) {e : MultPlayer.Suceso} {j : Jugada}
    (hj : (m.alLlamar e).jugada = some j)
    (ht : MultPlayer.Termina (m.alLlamar e) j m' ws) :
    Saneado m' ∧ ∀ w ∈ ws, ∀ k, entera w = some k → SinDeuda k := by
  have hcopia : SinDeuda j := h.alLlamar hj
  have hcoronada : SinDeuda (MultPlayer.coronada j) := hcopia
  refine ⟨⟨?_, ?_, fun k hk => ?_⟩, ?_⟩
  · rw [ht.base.afin.cont1, MultPlayer.alLlamar_cont1]
    exact h.cont1
  · rw [ht.base.afin.cont2, MultPlayer.alLlamar_cont2]
    exact h.cont2
  · rw [ht.jugada] at hk
    cases hk
    exact hcoronada
  · refine ht.guarda.forall_mem ?_ fun _ => nofun
    rintro k ⟨⟩
    exact hcoronada

theorem Saneado.quieta (h : Saneado m) (hq : MultPlayer.Quieta m m' ws) :
    Saneado m' := by
  refine ⟨?_, ?_, ?_⟩
  · rw [hq.cont1]
    exact h.cont1
  · rw [hq.cont2]
    exact h.cont2
  · rw [hq.jugada]
    exact h.jugada

theorem Saneado.recibe (h : Saneado m) {j : Jugada} (hj : SinDeuda j)
    (hrec : MultPlayer.Recibe m j m') : Saneado m' := by
  refine ⟨?_, ?_, fun k hk => ?_⟩
  · rw [hrec.afin.cont1]
    exact h.cont1
  · rw [hrec.afin.cont2]
    exact h.cont2
  · rw [hrec.jugada] at hk
    cases hk
    exact hj

end Handlers

/-- What a device does keeps its screen in order, and its writes store no score
below zero, as long as its taps can be paid. -/
theorem saneado_event {p : Partida} {s : Estado} {l : Lado} {e : Suceso}
    {m' : MultPlayer} {ws : List Escritura} (h : (suelo p).Holds s)
    (hseats : (asientos p).Holds s) (hok : Paga s (.event l e))
    (hreact : react s.server (programa.view s l) (s.client l) e =
      some (m', ws)) :
    Saneado m' ∧ ∀ w ∈ ws, ∀ k, entera w = some k → SinDeuda k := by
  have hcli : Saneado (s.client l) := h.clients l
  rcases react_efecto hreact with ⟨imagen, aleatorio, j, rfl, ht⟩ |
    ⟨e', j, rfl, -, hj, ht⟩ | ⟨e', rfl, -, hq⟩ | ⟨rfl, j, w, hj, -, rfl, hw⟩
  · exact hcli.toque ht (hok (l, imagen) rfl j ht.antes)
  · exact hcli.termina hj ht
  · refine ⟨hcli.quieta hq, ?_⟩
    rw [hq.writes]
    exact List.forall_mem_nil _
  · refine ⟨hcli, ?_⟩
    rw [List.forall_mem_singleton]
    rcases hw with ⟨-, rfl⟩ | ⟨-, -, rfl⟩ | ⟨-, rfl⟩
    · exact nofun
    · -- the game is claimed as it stands on the server
      rintro k ⟨⟩
      rw [(hseats.clients l).1.jugadaId] at hj
      exact h.server j hj
    · exact nofun

/-- Guarded steps keep all scores above zero. -/
theorem suelo_kept (p : Partida) :
    (suelo p).Kept programa (fun s a => (asientos p).Holds s ∧ Paga s a) where
  grows := fun _ _ _ _ _ _ => trivial
  doc_mono := fun _ h => h
  write_mono := fun _ h => h
  ack_mono := fun _ h => h
  shot_mono := fun _ h => h
  client_mono := fun _ h => h
  receive := by
    rintro s l w ws h ⟨hseats, -⟩ hbox
    have hdb := sinDeuda_aplicar (hseats.outbox l w (mem_of_eq_cons hbox))
      (h.outbox l w (mem_of_eq_cons hbox)) h.server
    exact ⟨hdb, trivial, fun _ _ => hdb⟩
  react := by
    rintro s l e ⟨m', ws⟩ h ⟨hseats, hok⟩ hreact
    obtain ⟨hcli, hws⟩ := saneado_event h hseats hok hreact
    exact ⟨hcli, hws, fun _ => h.server⟩
  confirm := fun s l _ _ _ _ h _ _ _ =>
    ⟨h.clients l, List.forall_mem_nil _, fun _ => h.server⟩
  deliver := by
    rintro s l d rest s' h ⟨hseats, -⟩ hbox -
    have hcli : Saneado (s.client l) := h.clients l
    rcases MultPlayer.snapshot_cases (s.outbox l) d (s.client l) with hsame |
      ⟨-, -, j, m', hj, hsnap, hrec⟩
    · simp only [programa, hsame]
      exact ⟨hcli, List.forall_mem_nil _, fun _ => h.server⟩
    · simp only [programa, hsnap]
      rw [(hseats.clients l).1.jugadaId] at hj
      have hd := h.inbox l d (mem_of_eq_cons hbox) j hj
      exact ⟨hcli.recibe hd hrec, List.forall_mem_nil _, fun _ => h.server⟩

/-! ## The stored points -/

/-- The points of `uid` are no lower in `db'` than in `db`. -/
def SinBaja (uid : String) (db db' : BaseDatos) : Prop :=
  ∀ u, db.users uid = some u →
    ∃ u', db'.users uid = some u' ∧ u.points ≤ u'.points

/-- None of the writes, applied in turn, lowers the points of `uid`. -/
def Suben (uid : String) : BaseDatos → List Escritura → Prop :=
  Runs.Along (fun db w => some (db.aplicar w).1)
    fun db w => SinBaja uid db (db.aplicar w).1

theorem sinBaja_of_eq {uid : String} {db db' : BaseDatos}
    (h : db'.users uid = db.users uid) : SinBaja uid db db' :=
  fun u hu => ⟨u, h.trans hu, Int.le_refl _⟩

theorem suben_append {uid : String} {db : BaseDatos}
    {ws ws' : List Escritura} :
    Suben uid db (ws ++ ws') ↔ Suben uid db ws ∧
      Suben uid (ws.foldl (fun d w => (d.aplicar w).1) db) ws' := by
  have hrun := Runs.run_total (fun d w => (BaseDatos.aplicar d w).1) db ws
  constructor
  · intro h
    obtain ⟨hws, hws'⟩ := Runs.along_append_iff.mp h
    exact ⟨hws, hws' _ hrun⟩
  · rintro ⟨hws, hws'⟩
    refine Runs.along_append_iff.mpr ⟨hws, fun t ht => ?_⟩
    rw [← Option.some.inj (hrun.symm.trans ht)]
    exact hws'

/-- Only the record of `uid` matters. -/
theorem suben_congr {uid : String} {db db' : BaseDatos} {ws : List Escritura}
    (h : db.users uid = db'.users uid) (hws : Suben uid db ws) :
    Suben uid db' ws := by
  induction ws generalizing db db' with
  | nil => trivial
  | cons w ws ih =>
      have hw : (db.aplicar w).1.users uid = (db'.aplicar w).1.users uid :=
        foldl_users_congr [w] h
      refine ⟨?_, ?_⟩
      · intro u hu
        rw [← hw]
        exact hws.1 u (h.trans hu)
      · rintro t ⟨⟩
        exact ih hw (hws.2 _ rfl)

/-- The player's copy of his record is what his device sees, and his writes on
their way do not lower his points. -/
structure AlCorriente (p : Partida) (l : Lado) (s : Estado) : Prop where
  credito : ∃ u₀ n, p.Credito l u₀ s n
  suben : Suben (p.uid l) s.server (s.outbox l)

/-- The copy of the own record on a running screen is what the device sees. -/
theorem Credito.copia {p : Partida} {l : Lado} {u₀ : User} {s : Estado} {n : ℕ}
    (h : p.Credito l u₀ s n) (hviva : (s.client l).caida = false) {v : Leido}
    (hv : registro l (s.client l) = some v) :
    (programa.view s l).users (p.uid l) = some v.user := by
  rcases h.cuenta.cuenta with ⟨hcaida, -⟩ | ⟨u, hu, hbien⟩
  · rw [hviva] at hcaida
    cases hcaida
  · rw [hbien.copia v hv]
    exact hu

/-- A score that is not below zero does not lower the points it is added to. -/
theorem sinBaja_acredita {uid : String} {db : BaseDatos} {v : Leido} {k : ℤ}
    (hv : db.users uid = some v.user) (hk : 0 ≤ k) :
    SinBaja uid db (db.aplicar (.setUser uid (v.acredita k))).1 := by
  intro u hu
  rw [hv] at hu
  cases hu
  refine ⟨_, BaseDatos.aplicar_setUser db uid _, ?_⟩
  rw [Leido.acredita_points]
  omega

/-- What a device writes does not lower the points of its player, as long as
its copy of the match has no score below zero. -/
theorem suben_event {p : Partida} {s : Estado} {l : Lado} {e : Suceso}
    {m' : MultPlayer} {ws : List Escritura} {u₀ : User} {n : ℕ}
    (h : p.Credito l u₀ s n) (hcli : Saneado (s.client l))
    (hreact : react s.server (programa.view s l) (s.client l) e =
      some (m', ws)) :
    Suben (p.uid l) (programa.view s l) ws := by
  have hjug := (h.asientos.clients l).1
  have hsolo : ∀ w, (∀ v, w ≠ .setUser (p.uid l) v) →
      Suben (p.uid l) (programa.view s l) [w] := by
    intro w hw
    refine ⟨sinBaja_of_eq (BaseDatos.aplicar_users_of_ne _ hw), ?_⟩
    exact fun _ _ => trivial
  rcases react_cases hreact with ⟨e', rfl, hmult, -⟩ |
    ⟨rfl, j, w, -, -, rfl, hw⟩
  · rcases MultPlayer.react_efecto hmult with ⟨imagen, aleatorio, j, rfl, ht⟩ |
      ⟨-, j, hj, ht⟩ | ⟨-, hq⟩
    · rw [ht.writes]
      exact hsolo _ nofun
    · rcases ht.credito with ⟨-, hws, -⟩ | ⟨v, hv, hws, -⟩
      · rw [hws]
        exact hsolo _ nofun
      · rw [MultPlayer.alLlamar_propio,
          hjug.propio_registro (hjug.alLlamar hj)] at hv
        have hview := h.copia (MultPlayer.react_eq_some hmult).1 hv
        have hpuntos : 0 ≤ MultPlayer.puntosDe j (p.uid l) := by
          obtain ⟨huno, hdos⟩ := hcli.alLlamar hj
          unfold MultPlayer.puntosDe
          split
          · exact huno
          · exact hdos
        rw [MultPlayer.alLlamar_uid, hjug.uid] at hws
        rw [hws]
        -- the match is stored first and leaves the record alone
        refine ⟨sinBaja_of_eq (BaseDatos.aplicar_users_of_ne _ nofun), ?_⟩
        rintro db ⟨⟩
        exact ⟨sinBaja_acredita hview hpuntos, fun _ _ => trivial⟩
    · rw [hq.writes]
      trivial
  · apply hsolo
    rcases hw with ⟨-, rfl⟩ | ⟨-, -, rfl⟩ | ⟨-, rfl⟩ <;> exact nofun

/-- No step of the match lowers the stored points. -/
theorem AlCorriente.step {p : Partida} {l : Lado} {s s' : Estado} {a : Paso}
    (h : p.AlCorriente l s) (hsuelo : (suelo p).Holds s)
    (hstep : programa.step s a = some s') :
    p.AlCorriente l s' ∧ SinBaja (p.uid l) s.server s'.server := by
  obtain ⟨⟨u₀, n, hcred⟩, hsuben⟩ := h
  suffices hsube : Suben (p.uid l) s'.server (s'.outbox l) ∧
      SinBaja (p.uid l) s.server s'.server from
    ⟨⟨⟨u₀, _, hcred.step hstep⟩, hsube.1⟩, hsube.2⟩
  have hmisma : ∀ {db : BaseDatos}, SinBaja (p.uid l) db db :=
    sinBaja_of_eq rfl
  cases a with
  | event k e =>
      obtain ⟨⟨m', ws⟩, hreact, rfl⟩ := Program.step_event hstep
      refine ⟨?_, hmisma⟩
      by_cases hk : l = k
      · subst hk
        rw [Program.settle_outbox_self]
        exact suben_append.mpr
          ⟨hsuben, suben_event hcred (hsuelo.clients l) hreact⟩
      · rw [Program.settle_outbox_ne _ hk]
        exact hsuben
  | arrive k =>
      obtain ⟨w, ws, hbox, rfl⟩ := Program.step_arrive hstep
      by_cases hk : l = k
      · subst hk
        rw [hbox] at hsuben
        rw [Program.receive_outbox_self]
        exact ⟨hsuben.2 _ rfl, hsuben.1⟩
      · -- the other player does not write this record
        have hne : ∀ v, w ≠ .setUser (p.uid l) v := by
          rintro v rfl
          exact hk (p.uid_injective
            (hcred.asientos.outbox k _ (mem_of_eq_cons hbox)))
        have husers := BaseDatos.aplicar_users_of_ne s.server hne
        rw [Program.receive_outbox_ne w ws hk]
        exact ⟨suben_congr husers.symm hsuben, sinBaja_of_eq husers⟩
  | confirm k =>
      obtain ⟨w, b, rest, -, rfl⟩ := Program.step_confirm hstep
      refine ⟨?_, hmisma⟩
      by_cases hk : l = k
      · subst hk
        rw [Program.settle_outbox_self]
        exact suben_append.mpr ⟨hsuben, trivial⟩
      · rw [Program.settle_outbox_ne _ hk]
        exact hsuben
  | deliver k =>
      obtain ⟨d, rest, hbox, rfl⟩ := Program.step_deliver hstep
      refine ⟨?_, hmisma⟩
      by_cases hk : l = k
      · subst hk
        have hnada := issues_deliver s l
        simp only [Program.issues, hbox] at hnada
        rw [Program.settle_outbox_self, hnada]
        exact suben_append.mpr ⟨hsuben, trivial⟩
      · rw [Program.settle_outbox_ne _ hk]
        exact hsuben
  | skip k =>
      obtain ⟨d, rest, -, rfl⟩ := Program.step_skip hstep
      exact ⟨hsuben, hmisma⟩

/-! ## Runs of a match -/

/-- No step of the run lowers the points of a player who has a record. -/
def PuntosGuardados (p : Partida) (s : Estado) (acts : List Paso) : Prop :=
  ∀ l, s.server.users (p.uid l) ≠ none →
    Runs.Along programa.step
      (fun s a => ∀ s', programa.step s a = some s' →
        SinBaja (p.uid l) s.server s'.server) s acts

/-- What a run keeps whose taps can all be paid. -/
structure Solvencia (p : Partida) (s : Estado) : Prop where
  asientos : (asientos p).Holds s
  suelo : (suelo p).Holds s

theorem Solvencia.sinDeudas {p : Partida} {s : Estado} (h : p.Solvencia s) :
    p.SinDeudas s :=
  ⟨fun l => ⟨(h.suelo.clients l).cont1, (h.suelo.clients l).cont2⟩,
    h.suelo.server⟩

theorem Solvencia.step {p : Partida} {s s' : Estado} {a : Paso}
    (h : p.Solvencia s) (hok : Paga s a)
    (hstep : programa.step s a = some s') : p.Solvencia s' :=
  ⟨asientos_step h.asientos hstep,
    p.suelo_kept.step h.suelo ⟨h.asientos, hok⟩ hstep⟩

/-- A step brings a score below zero exactly when it is a tap that cannot be
paid. -/
theorem Solvencia.sinDeudas_iff {p : Partida} {s s' : Estado} {a : Paso}
    (h : p.Solvencia s) (hstep : programa.step s a = some s') :
    p.SinDeudas s' ↔ Paga s a := by
  refine ⟨fun hsin => ?_, fun hok => (h.step hok hstep).sinDeudas⟩
  rintro ⟨l, imagen⟩ hx j hj
  obtain ⟨aleatorio, rfl⟩ := toca?_eq_some hx
  obtain ⟨⟨m', ws⟩, hreact, rfl⟩ := Program.step_event hstep
  have hcli : Saneado (s.client l) := h.suelo.clients l
  have hmult : MultPlayer.react (programa.view s l) (s.client l)
      (.clic imagen aleatorio) = some (m', ws) := hreact
  obtain ⟨-, -, ⟨hno, -⟩ | ⟨k, ht⟩⟩ := MultPlayer.react_clic hmult
  · rw [hno] at hj
    cases hj
  · rw [ht.antes] at hj
    cases hj
    have hnuevo := hsin.1 l
    rw [Program.settle_client_self] at hnuevo
    exact (hcli.toque_iff ht).mp hnuevo

theorem solvencia_inicial {p : Partida} {db : BaseDatos} {invitacionID : String}
    (hdb : db.jugadas p.jugadaId =
      some (Jugada.nueva p.uno invitacionID)) :
    p.Solvencia (p.inicial db) := by
  refine ⟨asientos_inicial ⟨_, hdb, rfl, Or.inl rfl⟩, ?_, nofun, nofun, nofun,
    fun _ => ⟨Int.le_refl _, Int.le_refl _, nofun⟩⟩
  intro j hj
  rw [show (p.inicial db).server.jugadas p.jugadaId = _ from hdb] at hj
  cases hj
  exact ⟨Int.le_refl _, Int.le_refl _⟩

/-- In every run of a match from its new document the counters and scores stay
at zero or above, and no stored points are lowered, exactly when every tap on
`IvjUno` that costs a point finds one to take. -/
theorem sin_deudas_iff {p : Partida} {db : BaseDatos} {invitacionID : String}
    {acts : List Paso} {t : Estado}
    (hdb : db.jugadas p.jugadaId = some (Jugada.nueva p.uno invitacionID))
    (hrun : Runs.run programa.step (p.inicial db) acts = some t) :
    ((∀ xs ys s, acts = xs ++ ys →
        Runs.run programa.step (p.inicial db) xs = some s → p.SinDeudas s) ∧
      p.PuntosGuardados (p.inicial db) acts) ↔
      Runs.Along programa.step Paga (p.inicial db) acts := by
  have hinit := solvencia_inicial hdb
  have hiff := Runs.reached_iff_along_of_step
    (fun s a s' (h : p.Solvencia s) _ hstep =>
      ⟨h.sinDeudas_iff hstep, fun hok => h.step hok hstep⟩)
    hinit hinit.sinDeudas hrun
  refine ⟨fun h => hiff.mp h.1, fun hok => ⟨hiff.mpr hok, fun l hl => ?_⟩⟩
  obtain ⟨u₀, hu₀⟩ := Option.ne_none_iff_exists'.mp hl
  refine Runs.Along.of_invariant
    (I := fun s => p.Solvencia s ∧ p.AlCorriente l s) ?_ ?_ ⟨hinit, ?_⟩ hok
  · rintro s a s' ⟨h, hal⟩ hok hstep
    exact ⟨h.step hok hstep, (hal.step h.suelo hstep).1⟩
  · rintro s a ⟨h, hal⟩ - s' hstep
    exact (hal.step h.suelo hstep).2
  · exact ⟨⟨u₀, 0, credito_inicial hinit.asientos.server hu₀⟩, trivial⟩

/-- Ana has opened a game; both players have five points. -/
def baseNueva : BaseDatos :=
  ((BaseDatos.vacia.conJugada "j" (some (Jugada.nueva "a" ""))).conUser "a"
    (User.nuevo "Ana" 5 0 "")).conUser "b" (User.nuevo "Blas" 5 0 "")

/-- Blas joins, and Ana's screen comes up. -/
def empiezaAna : List Paso :=
  [.event .dos .buscarJugadaLibre, .arrive .dos] ++ entra .uno

/-- Ana obeys twice and then disobeys once, at a point. -/
def pagaAna : List Paso :=
  empiezaAna ++
    [.event .uno (.mult (.clic .IvjUno (sale 2))),
      .event .uno (.mult (.clic .IvjUno (sale 1))),
      .event .uno (.mult (.clic .IvjUno (sale 0)))]

theorem sin_deudas_ana :
    (Runs.run programa.step (deAyB.inicial baseNueva) pagaAna).isSome = true ∧
      deAyB.PuntosGuardados (deAyB.inicial baseNueva) pagaAna := by
  obtain ⟨s, hrun⟩ := Option.isSome_iff_exists.mp
    (show (Runs.run programa.step (deAyB.inicial baseNueva) pagaAna).isSome =
      true by decide)
  have hnueva : baseNueva.jugadas deAyB.jugadaId =
      some (Jugada.nueva deAyB.uno "") := rfl
  refine ⟨?_, ((sin_deudas_iff hnueva hrun).mpr (by decide)).2⟩
  rw [hrun]
  rfl

/-- Ana disobeys without a point, and the countdown ends. -/
def debeAna : List Paso :=
  empiezaAna ++
    [.event .uno (.mult (.clic .IvjDos (sale 1))),
      .event .uno (.mult (.clic .IvjUno (sale 0))),
      .event .uno (.mult (.onFinish 0)),
      .arrive .uno, .arrive .uno, .arrive .uno, .arrive .uno]

/-- Her counter and her score are below zero, and one of her five points is
gone. -/
theorem ana_debe :
    ∃ s, Runs.run programa.step (deAyB.inicial baseNueva) debeAna = some s ∧
      (s.client .uno).cont1 = -1 ∧ ¬deAyB.SinDeudas s ∧
      (s.server.users "a").map User.points = some 4 := by
  have hfin : (Runs.run programa.step (deAyB.inicial baseNueva) debeAna).map
      (fun s => ((s.client .uno).cont1,
        (s.server.users "a").map User.points)) = some (-1, some 4) := by
    decide
  obtain ⟨s, hrun, h⟩ := Option.map_eq_some_iff.mp hfin
  obtain ⟨hcont, hpoints⟩ := Prod.mk.inj h
  refine ⟨s, hrun, hcont, fun hsin => ?_, hpoints⟩
  have hcero := (hsin.1 .uno).1
  rw [hcont] at hcero
  exact absurd hcero (by decide)

end Tocate.Partida

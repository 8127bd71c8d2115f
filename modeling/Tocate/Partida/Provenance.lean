import Tocate.Partida.Scores

/-!
# Where the scores come from

Scores are copied from screen to database and back, always both at a time, and
many are lost on the way.  None is made up: whatever score of a player is found
anywhere, in the database, in a write or a snapshot on its way, or on either
screen, the match began with it or the player's own screen has counted it.  No
score is therefore higher than the number of taps with which its player has
scored.
-/

namespace Tocate

open Cloud

namespace MultPlayer

/-- A tap counts at most one point for the user. -/
theorem cuenta_propios_le {m : MultPlayer} {j : Jugada}
    (hj : EnUnAsiento m.uid j) (imagen : Imagen) :
    propios m.uid j (m.cuenta imagen j) ≤
      propios m.uid j (m.cont1, m.cont2) + 1 := by
  have hpaga : ∀ c : ℤ, (if 0 < c then c - 1 else c) ≤ c + 1 := by
    intro c
    split <;> omega
  have hsigue : ∀ c : ℤ, c ≤ c + 1 := fun c => by omega
  have hbaja : ∀ c : ℤ, c - 1 ≤ c + 1 := fun c => by omega
  by_cases huno : j.jugadorUnoID = m.uid
  · have hdos : j.jugadorDosID ≠ m.uid := hj.mp huno
    cases imagen with
    | IvjUno =>
        rcases orden_cases m.n with h | h | h | ⟨k, h⟩ <;>
          simp [cuenta, contadores, contadoresIvjUno, propios, h, huno, hdos,
            hsigue, hbaja]
    | IvjDos =>
        rcases orden_cases m.n with h | h | h | ⟨k, h⟩ <;>
          simp [cuenta, contadores, contadoresIvjDos, propios, h, huno, hdos,
            hsigue, hpaga]
  · have hdos : j.jugadorDosID = m.uid := not_not.mp (mt hj.mpr huno)
    cases imagen with
    | IvjUno =>
        rcases orden_cases m.n with h | h | h | ⟨k, h⟩ <;>
          simp [cuenta, contadores, contadoresIvjUno, propios, h, huno, hdos,
            hsigue, hbaja]
    | IvjDos =>
        rcases orden_cases m.n with h | h | h | ⟨k, h⟩ <;>
          simp [cuenta, contadores, contadoresIvjDos, propios, h, huno, hdos,
            hsigue, hpaga]

end MultPlayer

namespace Partida

/-! ## Scores out of given sets of values -/

/-- The score of each player is one of his values. -/
def Procede (V : Lado → ℤ → Prop) (j : Jugada) : Prop := ∀ l, V l (puntos l j)

/-- So are the counters and the copy of a screen. -/
structure DeOrigen (V : Lado → ℤ → Prop) (m : MultPlayer) : Prop where
  contador : ∀ l, V l (contador l m)
  jugada : ∀ j, m.jugada = some j → Procede V j

/-- The scores, part by part. -/
def origen (p : Partida) (V : Lado → ℤ → Prop) :
    Parts Lado BaseDatos Escritura MultPlayer Unit where
  know := fun _ => ()
  le := fun _ _ => True
  doc := fun _ db => ∀ j, db.jugadas p.jugadaId = some j → Procede V j
  write := fun _ _ w => ∀ j, entera w = some j → Procede V j
  ack := fun _ _ _ => True
  shot := fun _ _ db => ∀ j, db.jugadas p.jugadaId = some j → Procede V j
  client := fun _ _ m => DeOrigen V m

/-- A write leaves the scores of the document or brings its own. -/
theorem procede_aplicar {p : Partida} {V : Lado → ℤ → Prop} {l : Lado}
    {db : BaseDatos} {w : Escritura} (hw : p.Permitida l w)
    (hent : ∀ j, entera w = some j → Procede V j)
    (hdb : ∀ j, db.jugadas p.jugadaId = some j → Procede V j) :
    ∀ j, (db.aplicar w).1.jugadas p.jugadaId = some j → Procede V j := by
  intro j hj
  rw [hw.aplicar db] at hj
  cases w with
  | addJugada id k => exact hent j hj
  | setJugada id k => exact hent j hj
  | reclamar id k => exact hent j hj
  | unirse id uid =>
      obtain ⟨k, hk, rfl⟩ := Option.map_eq_some_iff.mp hj
      exact hdb k hk
  | rechazar id uid =>
      obtain ⟨k, hk, rfl⟩ := Option.map_eq_some_iff.mp hj
      exact hdb k hk
  | deleteJugada id => cases hj
  | setUser uid u => exact hdb j hj

section Handlers

variable {p : Partida} {V : Lado → ℤ → Prop} {l : Lado} {m m' : MultPlayer}
  {ws : List Escritura}

/-- A tap stores a new value of the player's own counter, and for the other
player a score that the screen has had before. -/
theorem DeOrigen.toque (h : DeOrigen V m) (hm : p.Jugador l m)
    {imagen : Imagen} {aleatorio : Fin 3} {j : Jugada}
    (ht : MultPlayer.Toque m imagen aleatorio j m' ws)
    (hpropio : V l (Partida.contador l m')) :
    DeOrigen V m' ∧ ∀ w ∈ ws, ∀ k, entera w = some k → Procede V k := by
  have hcuenta : ∀ k, Partida.contador k m' = lado k (m.cuenta imagen j) := by
    intro k
    unfold Partida.contador
    rw [ht.cont1, ht.cont2]
  have hajeno : V l.otro (lado l.otro (m.cuenta imagen j)) := by
    rw [cuenta_otro hm.uid (hm.jugada j ht.antes)]
    unfold puntosAjenos
    split
    · exact h.jugada j ht.antes l.otro
    · exact h.contador l.otro
  have htocada :
      Procede V (MultPlayer.tocada j (m.cuenta imagen j) aleatorio) := by
    intro k
    rcases l.eq_or_eq_otro k with rfl | rfl
    · rw [hcuenta] at hpropio
      exact hpropio
    · exact hajeno
  refine ⟨⟨fun k => ?_, fun k hk => ?_⟩, ?_⟩
  · rw [hcuenta]
    exact htocada k
  · rw [ht.jugada] at hk
    cases hk
    exact htocada
  · rw [ht.writes, List.forall_mem_singleton]
    rintro k ⟨⟩
    exact htocada

theorem contador_of_afin {x y : MultPlayer} (h : MultPlayer.Afin x y)
    (k : Lado) : Partida.contador k y = Partida.contador k x := by
  unfold Partida.contador
  rw [h.cont1, h.cont2]

/-- A call of `funcionGameover` stores the scores of the copy. -/
theorem DeOrigen.termina (h : DeOrigen V m) {e : MultPlayer.Suceso}
    {j : Jugada} (hj : (m.alLlamar e).jugada = some j)
    (ht : MultPlayer.Termina (m.alLlamar e) j m' ws) :
    DeOrigen V m' ∧ ∀ w ∈ ws, ∀ k, entera w = some k → Procede V k := by
  have hcoronada : Procede V (MultPlayer.coronada j) := by
    obtain ⟨k, hk, rfl | ⟨-, rfl⟩⟩ := m.alLlamar_jugada e hj
    · exact h.jugada j hk
    · exact h.jugada k hk
  refine ⟨⟨fun k => ?_, fun k hk => ?_⟩, ?_⟩
  · rw [contador_of_afin ht.base.afin]
    unfold Partida.contador
    rw [MultPlayer.alLlamar_cont1, MultPlayer.alLlamar_cont2]
    exact h.contador k
  · rw [ht.jugada] at hk
    cases hk
    exact hcoronada
  · refine ht.guarda.forall_mem ?_ fun _ => nofun
    rintro k ⟨⟩
    exact hcoronada

theorem DeOrigen.quieta (h : DeOrigen V m)
    (hq : MultPlayer.Quieta m m' ws) : DeOrigen V m' := by
  refine ⟨fun k => ?_, ?_⟩
  · unfold Partida.contador
    rw [hq.cont1, hq.cont2]
    exact h.contador k
  · rw [hq.jugada]
    exact h.jugada

theorem DeOrigen.recibe (h : DeOrigen V m) {j : Jugada} (hj : Procede V j)
    (hrec : MultPlayer.Recibe m j m') : DeOrigen V m' := by
  refine ⟨fun k => ?_, fun k hk => ?_⟩
  · rw [contador_of_afin hrec.afin]
    exact h.contador k
  · rw [hrec.jugada] at hk
    cases hk
    exact hj

end Handlers

/-- After the step the counter of each player on his own screen is one of his
values. -/
def Anota (V : Lado → ℤ → Prop) (s : Estado) (a : Paso) : Prop :=
  ∀ s', programa.step s a = some s' → ∀ l, V l (contador l (s'.client l))

/-- What a device does keeps its scores and those it writes among the
values. -/
theorem deOrigen_event {p : Partida} {V : Lado → ℤ → Prop} {s : Estado}
    {l : Lado} {e : Suceso} {m' : MultPlayer} {ws : List Escritura}
    (h : (p.origen V).Holds s) (hseats : (asientos p).Holds s)
    (hanota : V l (contador l m'))
    (hreact : react s.server (programa.view s l) (s.client l) e =
      some (m', ws)) :
    DeOrigen V m' ∧ ∀ w ∈ ws, ∀ k, entera w = some k → Procede V k := by
  have hcli : DeOrigen V (s.client l) := h.clients l
  obtain ⟨hjug, -⟩ := hseats.clients l
  rcases react_efecto hreact with ⟨imagen, aleatorio, j, rfl, ht⟩ |
    ⟨e', j, rfl, -, hj, ht⟩ | ⟨e', rfl, -, hq⟩ | ⟨rfl, j, w, hj, -, rfl, hw⟩
  · exact hcli.toque hjug ht hanota
  · exact hcli.termina hj ht
  · refine ⟨hcli.quieta hq, ?_⟩
    rw [hq.writes]
    exact List.forall_mem_nil _
  · refine ⟨hcli, ?_⟩
    rw [List.forall_mem_singleton]
    rcases hw with ⟨-, rfl⟩ | ⟨-, -, rfl⟩ | ⟨-, rfl⟩
    · exact nofun
    · -- the game is claimed with the scores that the server has
      rintro k ⟨⟩
      rw [hjug.jugadaId] at hj
      exact h.server j hj
    · exact nofun

theorem origen_kept (p : Partida) (V : Lado → ℤ → Prop) :
    (p.origen V).Kept programa
      (fun s a => (asientos p).Holds s ∧ Anota V s a) where
  grows := fun _ _ _ _ _ _ => trivial
  doc_mono := fun _ h => h
  write_mono := fun _ h => h
  ack_mono := fun _ h => h
  shot_mono := fun _ h => h
  client_mono := fun _ h => h
  receive := by
    rintro s l w ws h ⟨hseats, -⟩ hbox
    have hw : w ∈ s.outbox l := mem_of_eq_cons hbox
    have hdb := procede_aplicar (hseats.outbox l w hw) (h.outbox l w hw)
      h.server
    exact ⟨hdb, trivial, fun _ _ => hdb⟩
  react := by
    rintro s l e ⟨m', ws⟩ h ⟨hseats, hanota⟩ hreact
    have hstep : programa.step s (.event l e) =
        some (programa.settle s l (m', ws)) :=
      Option.map_eq_some_iff.mpr ⟨_, hreact, rfl⟩
    have hpropio := hanota _ hstep l
    rw [Program.settle_client_self] at hpropio
    obtain ⟨hcli, hws⟩ := deOrigen_event h hseats hpropio hreact
    exact ⟨hcli, hws, fun _ => h.server⟩
  confirm := fun s l _ _ _ _ h _ _ _ =>
    ⟨h.clients l, List.forall_mem_nil _, fun _ => h.server⟩
  deliver := by
    rintro s l d rest s' h ⟨hseats, -⟩ hbox -
    have hcli : DeOrigen V (s.client l) := h.clients l
    rcases MultPlayer.snapshot_cases (s.outbox l) d (s.client l) with hsame |
      ⟨-, -, j, m', hj, hsnap, hrec⟩
    · simp only [programa, hsame]
      exact ⟨hcli, List.forall_mem_nil _, fun _ => h.server⟩
    · simp only [programa, hsnap]
      rw [(hseats.clients l).1.jugadaId] at hj
      have hd := h.inbox l d (mem_of_eq_cons hbox) j hj
      exact ⟨hcli.recibe hd hrec, List.forall_mem_nil _, fun _ => h.server⟩

/-! ## The values that a player has counted -/

/-- The match began with this score, or at some point of the run it stood on the
player's own counter. -/
def Contado (p : Partida) (db : BaseDatos) (acts : List Paso) (l : Lado)
    (v : ℤ) : Prop :=
  (∃ j, db.jugadas p.jugadaId = some j ∧ v = puntos l j) ∨
    ∃ xs ys t, acts = xs ++ ys ∧
      Runs.run programa.step (p.inicial db) xs = some t ∧
      v = contador l (t.client l)

theorem origen_inicial (p : Partida) (db : BaseDatos) (acts : List Paso) :
    (p.origen (p.Contado db acts)).Holds (p.inicial db) := by
  refine ⟨?_, nofun, nofun, nofun, fun l => ⟨fun k => ?_, nofun⟩⟩
  · exact fun j hj l => Or.inl ⟨j, hj, rfl⟩
  · refine Or.inr ⟨[], acts, p.inicial db, rfl, rfl, ?_⟩
    cases k <;> rfl

theorem origen_run {p : Partida} {db : BaseDatos} {acts : List Paso}
    {s : Estado} (hdb : p.Abierta db)
    (hrun : Runs.run programa.step (p.inicial db) acts = some s) :
    (p.origen (p.Contado db acts)).Holds s := by
  have hseats : Runs.Along programa.step
      (fun s _ => (asientos p).Holds s) (p.inicial db) acts :=
    Runs.Along.of_invariant (fun _ _ _ hs _ hstep => asientos_step hs hstep)
      (fun _ _ hs _ => hs) (asientos_inicial hdb)
      (Runs.Along.of_forall (fun _ _ => trivial) _ acts)
  have hanota : Runs.Along programa.step (Anota (p.Contado db acts))
      (p.inicial db) acts := by
    refine Runs.Along.mono ?_
      (Runs.along_reached programa.step (p.inicial db) acts)
    intro s a hreached s' hstep l
    obtain ⟨xs, ys, hsplit, hxs⟩ := hreached s' hstep
    exact Or.inr ⟨xs, ys, s', hsplit, hxs, rfl⟩
  exact (p.origen_kept _).run (p.origen_inicial db acts) (hseats.and hanota)
    hrun

/-- Every score of each player is one of his values: in the database, in the
writes and snapshots on their way, on both counters and in both copies. -/
structure PuntosEn (p : Partida) (V : Lado → ℤ → Prop) (s : Estado) : Prop where
  servidor : ∀ j, s.server.jugadas p.jugadaId = some j → Procede V j
  escrituras : ∀ l, ∀ w ∈ s.outbox l, ∀ j, entera w = some j → Procede V j
  snapshots : ∀ l, ∀ db ∈ s.inbox l, ∀ j,
    db.jugadas p.jugadaId = some j → Procede V j
  pantallas : ∀ l, DeOrigen V (s.client l)

/-- No score is made up: in whatever order taps, writes and snapshots come,
every score of a player is one with which the match began or one that his own
screen has counted. -/
theorem puntos_contados {p : Partida} {db : BaseDatos} {acts : List Paso}
    {s : Estado} (hdb : p.Abierta db)
    (hrun : Runs.run programa.step (p.inicial db) acts = some s) :
    p.PuntosEn (p.Contado db acts) s := by
  obtain ⟨hserver, hout, -, hin, hcli⟩ := origen_run hdb hrun
  exact ⟨hserver, hout, hin, hcli⟩

/-- Both players score; neither knows of the point of the other. -/
def tocanSinSaber : List Paso :=
  entra .uno ++ entra .dos ++
    [.event .uno (.mult (.clic .IvjUno (sale 1))),
      .event .dos (.mult (.clic .IvjDos (sale 2))), .arrive .uno, .arrive .dos,
      .deliver .uno]

theorem puntos_contados_deAyB :
    ∃ s, Runs.run programa.step (deAyB.inicial baseAyB) tocanSinSaber =
        some s ∧
      deAyB.PuntosEn (deAyB.Contado baseAyB tocanSinSaber) s := by
  obtain ⟨s, hrun⟩ := Option.isSome_iff_exists.mp
    (show (Runs.run programa.step (deAyB.inicial baseAyB)
      tocanSinSaber).isSome = true by decide)
  exact ⟨s, hrun, puntos_contados ⟨_, rfl, rfl, Or.inr rfl⟩ hrun⟩

/-! ## Points and taps -/

/-- With how many taps each player has scored, carried along a run. -/
def sumaAciertos (s : Estado) (a : Paso) (n : Lado → ℕ) : Lado → ℕ :=
  match a with
  | .event l (.mult (.clic imagen _)) =>
      match (s.client l).jugada with
      | none => n
      | some j =>
          if 0 < incremento l (s.client l) imagen j then
            Function.update n l (n l + 1)
          else n
  | _ => n

/-- A step counts one tap of one player, or none. -/
theorem sumaAciertos_cases (s : Estado) (a : Paso) (n : Lado → ℕ) :
    sumaAciertos s a n = n ∨
      ∃ k, sumaAciertos s a n = Function.update n k (n k + 1) := by
  unfold sumaAciertos
  split
  next k imagen aleatorio =>
    cases (s.client k).jugada with
    | none => exact Or.inl rfl
    | some j =>
        by_cases hpunto : 0 < incremento k (s.client k) imagen j
        · exact Or.inr ⟨k, if_pos hpunto⟩
        · exact Or.inl (if_neg hpunto)
  next => exact Or.inl rfl

theorem le_sumaAciertos (s : Estado) (a : Paso) (n : Lado → ℕ) (l : Lado) :
    n l ≤ sumaAciertos s a n l := by
  rcases sumaAciertos_cases s a n with hsame | ⟨k, hsuma⟩
  · exact Nat.le_of_eq (congrFun hsame l).symm
  · rw [hsuma]
    by_cases hl : l = k
    · subst hl
      rw [Function.update_self]
      exact Nat.le_succ _
    · exact Nat.le_of_eq (Function.update_of_ne hl _ n).symm

theorem le_sumaAciertos_run {s t : Estado} {n n' : Lado → ℕ} {acts : List Paso}
    (hrun : Runs.run (Runs.ghost programa.step sumaAciertos) (s, n) acts =
      some (t, n')) (l : Lado) : n l ≤ n' l := by
  have hmonotona : ∀ q a q', n l ≤ q.2 l →
      Runs.ghost programa.step sumaAciertos q a = some q' → n l ≤ q'.2 l := by
    intro q a q' hq hg
    rw [(Runs.ghost_eq_some hg).2]
    exact Nat.le_trans hq (le_sumaAciertos q.1 a q.2 l)
  exact Runs.invariant_of_step (I := fun q => n l ≤ q.2 l) hmonotona
    (Nat.le_refl (n l)) hrun

/-- No counter is above the number of taps that have scored for it. -/
def PorDebajo (q : Estado × (Lado → ℕ)) : Prop :=
  ∀ l, contador l (q.1.client l) ≤ q.2 l

/-- A tap that scores counts one point, and the others count none. -/
theorem porDebajo_toque {p : Partida} {s : Estado} {n : Lado → ℕ} {l : Lado}
    {imagen : Imagen} {aleatorio : Fin 3} {j : Jugada} {m' : MultPlayer}
    {ws : List Escritura} (h : PorDebajo (s, n))
    (hm : p.Jugador l (s.client l))
    (ht : MultPlayer.Toque (s.client l) imagen aleatorio j m' ws) :
    contador l m' ≤
      sumaAciertos s (.event l (.mult (.clic imagen aleatorio))) n l := by
  have hcont : contador l m' = lado l ((s.client l).cuenta imagen j) := by
    unfold contador
    rw [ht.cont1, ht.cont2]
  have hpropios : ∀ x, MultPlayer.propios (s.client l).uid j x = lado l x := by
    intro x
    unfold MultPlayer.propios
    rw [hm.uid]
    simp only [esUno_iff (hm.jugada j ht.antes)]
    cases l <;> rfl
  have hasiento : MultPlayer.EnUnAsiento (s.client l).uid j := by
    rw [hm.uid]
    exact enUnAsiento_of_sentados (hm.jugada j ht.antes)
  have huno := MultPlayer.cuenta_propios_le hasiento imagen
  rw [hpropios, hpropios] at huno
  have hantes : contador l (s.client l) ≤ n l := h l
  simp only [sumaAciertos, ht.antes]
  by_cases hpunto : 0 < incremento l (s.client l) imagen j
  · rw [if_pos hpunto, Function.update_self, hcont]
    unfold contador at hantes
    push_cast
    omega
  · rw [if_neg hpunto, hcont]
    unfold incremento at hpunto
    omega

theorem PorDebajo.step {p : Partida} {s s' : Estado} {n : Lado → ℕ} {a : Paso}
    (h : PorDebajo (s, n)) (hseats : (asientos p).Holds s)
    (hstep : programa.step s a = some s') :
    PorDebajo (s', sumaAciertos s a n) := by
  have hsigue : ∀ l, contador l (s'.client l) = contador l (s.client l) →
      contador l (s'.client l) ≤ sumaAciertos s a n l := by
    intro l hsame
    rw [hsame]
    exact Int.le_trans (h l) (Int.ofNat_le.mpr (le_sumaAciertos s a n l))
  intro l
  rcases Program.step_at hstep l with ⟨e, ⟨m', ws⟩, rfl, hreact, rfl⟩ |
    ⟨w, ws, rfl, -, rfl⟩ | ⟨w, ok, rest, rfl, -, rfl⟩ |
    ⟨d, rest, rfl, -, rfl⟩ | hidle
  · rcases react_efecto hreact with ⟨imagen, aleatorio, j, rfl, ht⟩ |
      ⟨e', j, rfl, -, -, ht⟩ | ⟨e', rfl, -, hq⟩ | ⟨rfl, -⟩
    · rw [Program.settle_client_self]
      exact porDebajo_toque h (hseats.clients l).1 ht
    · apply hsigue
      rw [Program.settle_client_self, contador_of_afin ht.base.afin]
      unfold contador
      rw [MultPlayer.alLlamar_cont1, MultPlayer.alLlamar_cont2]
    · apply hsigue
      rw [Program.settle_client_self]
      unfold contador
      rw [hq.cont1, hq.cont2]
    · apply hsigue
      rw [Program.settle_client_self]
  · exact hsigue l rfl
  · apply hsigue
    rw [Program.settle_client_self]
    rfl
  · apply hsigue
    rw [Program.settle_client_self]
    rcases MultPlayer.snapshot_cases (s.outbox l) d (s.client l) with hsame |
      ⟨-, -, j, m', -, hsnap, hrec⟩
    · simp only [programa, hsame]
    · simp only [programa, hsnap]
      exact contador_of_afin hrec.afin l
  · apply hsigue
    rw [hidle.client]

theorem porDebajo_run {p : Partida} {db : BaseDatos} {acts : List Paso}
    {t : Estado} {n : Lado → ℕ} (hdb : p.Abierta db)
    (hrun : Runs.run (Runs.ghost programa.step sumaAciertos)
      (p.inicial db, fun _ => 0) acts = some (t, n)) : PorDebajo (t, n) := by
  have hpaso : ∀ q a q', (asientos p).Holds q.1 ∧ PorDebajo q →
      Runs.ghost programa.step sumaAciertos q a = some q' →
      (asientos p).Holds q'.1 ∧ PorDebajo q' := by
    rintro ⟨s, n⟩ a ⟨s', n'⟩ ⟨hseats, hq⟩ hg
    obtain ⟨hstep, hn⟩ := Runs.ghost_eq_some hg
    have hn' : n' = sumaAciertos s a n := hn
    subst hn'
    exact ⟨asientos_step hseats hstep, hq.step hseats hstep⟩
  have hcero : PorDebajo (p.inicial db, fun _ => 0) := by
    intro l
    cases l <;> exact Int.le_refl 0
  exact (Runs.invariant_of_step
    (I := fun q => (asientos p).Holds q.1 ∧ PorDebajo q) hpaso
    ⟨asientos_inicial hdb, hcero⟩ hrun).2

/-- The match began with this score, or it is not above the number of taps with
which the player has scored. -/
def Acotado (p : Partida) (db : BaseDatos) (n : Lado → ℕ) (l : Lado) (v : ℤ) :
    Prop :=
  (∃ j, db.jugadas p.jugadaId = some j ∧ v = puntos l j) ∨ v ≤ n l

theorem PuntosEn.mono {p : Partida} {V V' : Lado → ℤ → Prop} {s : Estado}
    (h : p.PuntosEn V s) (himp : ∀ l v, V l v → V' l v) : p.PuntosEn V' s where
  servidor := fun j hj l => himp l _ (h.servidor j hj l)
  escrituras := fun l w hw j hj k => himp k _ (h.escrituras l w hw j hj k)
  snapshots := fun l db hdb j hj k => himp k _ (h.snapshots l db hdb j hj k)
  pantallas := fun l => ⟨fun k => himp k _ ((h.pantallas l).contador k),
    fun j hj k => himp k _ ((h.pantallas l).jugada j hj k)⟩

/-- No score anywhere is above the number of taps with which its player has
scored, unless the match began with it. -/
theorem puntos_acotados {p : Partida} {db : BaseDatos} {acts : List Paso}
    {s : Estado} {n : Lado → ℕ} (hdb : p.Abierta db)
    (hrun : Runs.run (Runs.ghost programa.step sumaAciertos)
      (p.inicial db, fun _ => 0) acts = some (s, n)) :
    p.PuntosEn (p.Acotado db n) s := by
  obtain ⟨hserver, hout, -, hin, hcli⟩ :=
    origen_run hdb (Runs.run_of_ghost hrun)
  refine PuntosEn.mono ⟨hserver, hout, hin, hcli⟩ ?_
  rintro l v (hinicial | ⟨xs, ys, t, rfl, hxs, rfl⟩)
  · exact Or.inl hinicial
  · right
    rw [Runs.run_append] at hrun
    obtain ⟨⟨t', k⟩, hghost, hresto⟩ := Option.bind_eq_some_iff.mp hrun
    have hsame : t = t' :=
      Option.some.inj (hxs.symm.trans (Runs.run_of_ghost hghost))
    subst hsame
    have hle : k l ≤ n l := le_sumaAciertos_run hresto l
    exact Int.le_trans (porDebajo_run hdb hghost l) (Int.ofNat_le.mpr hle)

theorem puntos_acotados_deAyB :
    ∃ s n, Runs.run (Runs.ghost programa.step sumaAciertos)
        (deAyB.inicial baseAyB, fun _ => 0) tocanSinSaber = some (s, n) ∧
      deAyB.PuntosEn (deAyB.Acotado baseAyB n) s := by
  obtain ⟨⟨s, n⟩, hrun⟩ := Option.isSome_iff_exists.mp
    (show (Runs.run (Runs.ghost programa.step sumaAciertos)
      (deAyB.inicial baseAyB, fun _ => 0) tocanSinSaber).isSome = true by
        decide)
  exact ⟨s, n, hrun, puntos_acotados ⟨_, rfl, rfl, Or.inr rfl⟩ hrun⟩

end Partida

end Tocate

import Tocate.Partida.System

/-!
# The credit for a match

`funcionGameover` writes the player's record with the score added and the match
counted, from the copy that the screen has loaded.  It is called when the
countdown expires, on a back press and whenever the screen stops, and nothing
remembers that it has been called.
-/

namespace Tocate.Partida

open Cloud

/-- The loaded record of player `l` on his own screen. -/
def registro (l : Lado) (m : MultPlayer) : Option Leido :=
  match l with
  | .uno => m.userjUno
  | .dos => m.userjDos

/-- The steps in which the screen of player `l` calls `funcionGameover`. -/
def Llama (l : Lado) : Paso → Bool
  | .event k (.mult e) => decide (k = l) && e.esGameover
  | _ => false

/-- The screen has received the match and both records. -/
def Recibida (m : MultPlayer) : Prop :=
  m.jugada ≠ none ∧ m.userjUno ≠ none ∧ m.userjDos ≠ none

/-- The record of player `l`, as his device sees it, is `u₀` with one match
counted and the score that the match shows added. -/
def AcreditadaUnaVez (p : Partida) (l : Lado) (u₀ : User) (s : Estado) : Prop :=
  ∃ u j, (programa.view s l).users (p.uid l) = some u ∧
    (s.client l).jugada = some j ∧ u.gameDone = u₀.gameDone + 1 ∧
    u.points = u₀.points + MultPlayer.puntosDe j (p.uid l)

/-- The record after `n` calls that all went through. -/
structure AlDia (p : Partida) (l : Lado) (u₀ : User) (m : MultPlayer)
    (n : ℕ) (u : User) : Prop where
  gameDone : u.gameDone = u₀.gameDone + n
  copia : ∀ v, registro l m = some v → v.user = u
  cero : n = 0 → u = u₀ ∧ (m.iniciada = true ∨ m.jugada = none)
  uno : n = 1 → m.iniciada = false →
    ∃ j, m.jugada = some j ∧
      u.points = u₀.points + MultPlayer.puntosDe j (p.uid l)

/-- After `n` calls on the screen of player `l`: the record is up to date, or
a call without match or record has taken the app down. -/
structure Cuenta (p : Partida) (l : Lado) (u₀ : User) (m : MultPlayer)
    (r : Option User) (n : ℕ) : Prop where
  escucha : m.listenerJugada = true → m.iniciada = true
  cuenta : (m.caida = true ∧ (m.jugada = none ∨ registro l m = none)) ∨
    ∃ u, r = some u ∧ p.AlDia l u₀ m n u

theorem Jugador.propio_registro {p : Partida} {l : Lado} {m : MultPlayer}
    (h : p.Jugador l m) {j : Jugada} (hj : p.Sentados j) :
    m.propio j = registro l m := by
  rw [h.propio hj]
  cases l <;> rfl

/-- The record that a device sees depends on the record on the server and on
the device's own writes only. -/
theorem foldl_users_congr {uid : String} {db db' : BaseDatos}
    (ws : List Escritura) (h : db.users uid = db'.users uid) :
    (ws.foldl (fun d w => (d.aplicar w).1) db).users uid =
      (ws.foldl (fun d w => (d.aplicar w).1) db').users uid := by
  induction ws generalizing db db' with
  | nil => exact h
  | cons w ws ih =>
      apply ih
      by_cases hw : ∃ l, w = .setUser uid l
      · obtain ⟨l, rfl⟩ := hw
        rw [BaseDatos.aplicar_setUser, BaseDatos.aplicar_setUser]
      · have hne : ∀ l, w ≠ .setUser uid l := fun l hl => hw ⟨l, hl⟩
        rw [BaseDatos.aplicar_users_of_ne db hne,
          BaseDatos.aplicar_users_of_ne db' hne]
        exact h

/-! ## One event on the screen -/

/-- What the writes `ws` make of the record of player `l`. -/
theorem Cuenta.calla {p : Partida} {l : Lado} {u₀ : User}
    {vista : BaseDatos} {m m' : MultPlayer} {e : MultPlayer.Suceso}
    {ws : List Escritura} {n : ℕ} (hm : p.Jugador l m) (hcaida : m.caida = false)
    (h : p.Cuenta l u₀ m (vista.users (p.uid l)) n)
    (hc : MultPlayer.Calla vista m e m' ws) :
    p.Cuenta l u₀ m' (vista.users (p.uid l)) n := by
  obtain ⟨u, hu, hbien⟩ : ∃ u, vista.users (p.uid l) = some u ∧
      p.AlDia l u₀ m n u := by
    rcases h.cuenta with ⟨hc, -⟩ | hbien
    · rw [hcaida] at hc
      cases hc
    · exact hbien
  have hcopia : ∀ v, registro l m' = some v → v.user = u := by
    have hleida : ∀ (pedidos : List String) (o : Option Leido),
        (∀ id ∈ pedidos, id = p.uid l) →
        MultPlayer.Leida vista pedidos o → ∀ v, o = some v → v.user = u := by
      rintro pedidos o hped ⟨id, hid, rfl⟩ v hv
      rw [hped id hid, hu] at hv
      cases hv
      rfl
    cases l with
    | uno =>
        rcases hc.registro .uno with hsame | hleyo
        · intro v hv
          exact hbien.copia v (hsame.symm.trans hv)
        · exact hleida _ _ hm.pedidosUno hleyo
    | dos =>
        rcases hc.registro .dos with hsame | hleyo
        · intro v hv
          exact hbien.copia v (hsame.symm.trans hv)
        · exact hleida _ _ hm.pedidosDos hleyo
  refine ⟨?_, Or.inr ⟨u, hu, hbien.gameDone, hcopia, ?_, ?_⟩⟩
  · rcases hc.ciclo with ⟨-, hini⟩ | ⟨hini, hlis⟩
    · exact fun _ => hini
    · rw [hini, hlis]
      exact h.escucha
  · intro hn
    obtain ⟨heq, hini⟩ := hbien.cero hn
    refine ⟨heq, ?_⟩
    rw [hc.jugada]
    rcases hc.ciclo with ⟨-, hini'⟩ | ⟨hini', -⟩
    · exact Or.inl hini'
    · rw [hini']
      exact hini
  · intro hn hini
    rw [hc.jugada]
    rcases hc.ciclo with ⟨-, hini'⟩ | ⟨hini', -⟩
    · rw [hini'] at hini
      cases hini
    · rw [hini'] at hini
      exact hbien.uno hn hini

theorem Cuenta.toque {p : Partida} {l : Lado} {u₀ : User} {m m' : MultPlayer}
    {imagen : Imagen} {aleatorio : Fin 3} {j : Jugada} {ws : List Escritura}
    {r : Option User} {n : ℕ} (hcaida : m.caida = false)
    (hini : m.iniciada = true) (h : p.Cuenta l u₀ m r n)
    (ht : MultPlayer.Toque m imagen aleatorio j m' ws) :
    p.Cuenta l u₀ m' r n := by
  have hreg : registro l m' = registro l m := by
    cases l with
    | uno => exact ht.userjUno
    | dos => exact ht.userjDos
  rcases h.cuenta with ⟨hc, -⟩ | ⟨u, hu, hbien⟩
  · rw [hcaida] at hc
    cases hc
  · refine ⟨?_, Or.inr ⟨u, hu, hbien.gameDone, ?_, ?_, ?_⟩⟩
    · rw [ht.listenerJugada, ht.iniciada]
      exact h.escucha
    · rw [hreg]
      exact hbien.copia
    · intro hn
      refine ⟨(hbien.cero hn).1, Or.inl ?_⟩
      rw [ht.iniciada, hini]
    · intro _ hno
      rw [ht.iniciada, hini] at hno
      cases hno

/-- A call that goes through credits the record once more. -/
theorem Cuenta.termina {p : Partida} {l : Lado} {u₀ : User}
    {vista : BaseDatos} {m m' : MultPlayer} {e : MultPlayer.Suceso}
    {j : Jugada} {ws : List Escritura} {n : ℕ} (hm : p.Jugador l m)
    (hcaida : m.caida = false)
    (h : p.Cuenta l u₀ m (vista.users (p.uid l)) n)
    (hj : (m.alLlamar e).jugada = some j)
    (hlis : m'.listenerJugada = true → m'.iniciada = true)
    (ht : MultPlayer.Termina (m.alLlamar e) j m' ws) :
    p.Cuenta l u₀ m'
      ((ws.foldl (fun d w => (d.aplicar w).1) vista).users (p.uid l))
      (n + 1) := by
  have hsent := hm.alLlamar hj
  have hpropio : (m.alLlamar e).propio j = registro l m := by
    rw [MultPlayer.alLlamar_propio]
    exact hm.propio_registro hsent
  rcases ht.credito with ⟨hnone, -, hcae, huno, hdos⟩ |
    ⟨v, hv, hws, huno, hdos⟩
  · -- without the record the call takes the app down
    refine ⟨hlis, Or.inl ⟨hcae, Or.inr ?_⟩⟩
    rw [hpropio] at hnone
    cases l with
    | uno => exact (huno.trans (m.alLlamar_userjUno e)).trans hnone
    | dos => exact (hdos.trans (m.alLlamar_userjDos e)).trans hnone
  · obtain ⟨u, hu, hbien⟩ : ∃ u, vista.users (p.uid l) = some u ∧
        p.AlDia l u₀ m n u := by
      rcases h.cuenta with ⟨hc, -⟩ | hbien
      · rw [hcaida] at hc
        cases hc
      · exact hbien
    have huid : (m.alLlamar e).uid = p.uid l := by
      rw [MultPlayer.alLlamar_uid, hm.uid]
    rw [huid] at hws huno hdos
    have hcopia : v.user = u := hbien.copia v (hpropio ▸ hv)
    generalize hacr : v.acredita (MultPlayer.puntosDe j (p.uid l)) = w
      at hws huno hdos
    have hreg : registro l m' = some w := by
      have hown : ((m.alLlamar e).conPropio j w).propio j = some w :=
        MultPlayer.propio_conPropio _ _ _
      rw [← hown]
      unfold MultPlayer.propio
      rw [MultPlayer.conPropio_uid, huid, hsent.1]
      cases l with
      | uno => simpa [uid, registro] using huno
      | dos => simpa [uid, registro, p.uno_ne_dos] using hdos
    refine ⟨hlis, Or.inr ⟨w.user, ?_, ?_, ?_, ?_, ?_⟩⟩
    · rw [hws]
      exact BaseDatos.aplicar_setUser _ _ _
    · rw [← hacr, Leido.acredita_gameDone, hcopia, hbien.gameDone]
      push_cast
      omega
    · intro v' hv'
      rw [hreg] at hv'
      cases hv'
      rfl
    · exact fun hn => absurd hn (Nat.succ_ne_zero n)
    · intro hn _
      have hn0 : n = 0 := by omega
      refine ⟨MultPlayer.coronada j, ht.jugada, ?_⟩
      rw [← hacr, Leido.acredita_points, hcopia, (hbien.cero hn0).1]
      rfl

/-- Only `onStop` hides the screen, and it stops listening with it. -/
theorem alLlamar_ciclo {m : MultPlayer} (e : MultPlayer.Suceso)
    (h : m.listenerJugada = true → m.iniciada = true) :
    (m.alLlamar e).listenerJugada = true → (m.alLlamar e).iniciada = true := by
  cases e with
  | onStop => exact nofun
  | onFinish _ => exact h
  | onBackPressed => exact h
  | clic _ _ => exact h
  | userUno => exact h
  | userDos => exact h
  | onStart => exact h
  | botonDialogo _ => exact h
  | onFinishDial _ => exact h

/-- One event on the screen of player `l`. -/
theorem Cuenta.react {p : Partida} {l : Lado} {u₀ : User}
    {db vista : BaseDatos} {m m' : MultPlayer} {e : Suceso}
    {ws : List Escritura} {n : ℕ} (hm : p.Jugador l m)
    (h : p.Cuenta l u₀ m (vista.users (p.uid l)) n)
    (hreact : Partida.react db vista m e = some (m', ws)) :
    p.Cuenta l u₀ m'
      ((ws.foldl (fun d w => (d.aplicar w).1) vista).users (p.uid l))
      (n + if Llama l (.event l e) then 1 else 0) := by
  rcases react_cases hreact with ⟨e', rfl, hmult, -⟩ |
    ⟨rfl, j, w, -, -, rfl, hw⟩
  · obtain ⟨hcaida, -⟩ := MultPlayer.react_eq_some hmult
    rcases e'.clases with ⟨imagen, aleatorio, rfl⟩ | hgame | hcallado
    · obtain ⟨hini, -, ⟨hj, rfl, rfl⟩ | ⟨j, ht⟩⟩ :=
        MultPlayer.react_clic hmult
      · exact ⟨h.escucha, Or.inl ⟨rfl, Or.inl hj⟩⟩
      · have hno : Llama l (.event l (.mult (.clic imagen aleatorio))) =
            false := by
          simp [Llama, MultPlayer.Suceso.esGameover]
        rw [ht.writes, hno]
        exact h.toque hcaida hini ht
    · have hllama : Llama l (.event l (.mult e')) = true := by
        simp [Llama, hgame]
      rw [hllama, if_pos rfl]
      have hciclo := alLlamar_ciclo e' h.escucha
      rcases MultPlayer.react_gameover hgame hmult with hc | ⟨j, hj, ht⟩
      · refine ⟨?_, Or.inl ⟨hc.caida, Or.inl hc.jugada⟩⟩
        rw [hc.base.afin.listenerJugada, hc.base.afin.iniciada]
        exact hciclo
      · refine h.termina hm hcaida hj ?_ ht
        rw [ht.base.afin.listenerJugada, ht.base.afin.iniciada]
        exact hciclo
    · have hno : Llama l (.event l (.mult e')) = false := by
        simp [Llama, MultPlayer.Suceso.not_esGameover hcallado]
      have hc := MultPlayer.react_callado hcallado hmult
      rw [hno, hc.writes]
      exact h.calla hm hcaida hc
  · have hno : Llama l (.event l e) = false := by
      rcases hw with ⟨rfl, -⟩ | ⟨rfl, -⟩ | ⟨rfl, -⟩ <;> rfl
    have husers : ∀ v, w ≠ .setUser (p.uid l) v := by
      rcases hw with ⟨-, rfl⟩ | ⟨-, -, rfl⟩ | ⟨-, rfl⟩ <;> exact nofun
    rw [hno, List.foldl_cons, List.foldl_nil,
      BaseDatos.aplicar_users_of_ne vista husers]
    exact h

/-- A snapshot comes only to a screen that is shown, and credits nothing. -/
theorem Cuenta.snapshot {p : Partida} {l : Lado} {u₀ : User} {d : BaseDatos}
    {m : MultPlayer} {r : Option User} {n : ℕ} {pendientes : List Escritura}
    (h : p.Cuenta l u₀ m r n) (hescucha : m.escucha = true) :
    p.Cuenta l u₀ (MultPlayer.snapshot pendientes d m).1 r n := by
  simp only [MultPlayer.escucha, Bool.and_eq_true, Bool.not_eq_true']
    at hescucha
  obtain ⟨hlis, hcaida⟩ := hescucha
  have hini := h.escucha hlis
  rcases MultPlayer.snapshot_cases pendientes d m with hsame |
    ⟨-, -, j, m', -, hsnap, hrec⟩
  · rw [hsame]
    exact h
  · rw [hsnap]
    have hreg : registro l m' = registro l m := by
      cases l with
      | uno => exact hrec.userjUno
      | dos => exact hrec.userjDos
    rcases h.cuenta with ⟨hc, -⟩ | ⟨u, hu, hbien⟩
    · rw [hcaida] at hc
      cases hc
    · refine ⟨?_, Or.inr ⟨u, hu, hbien.gameDone, ?_, ?_, ?_⟩⟩
      · intro _
        rw [hrec.afin.iniciada, hini]
      · rw [hreg]
        exact hbien.copia
      · intro hn
        refine ⟨(hbien.cero hn).1, Or.inl ?_⟩
        rw [hrec.afin.iniciada, hini]
      · intro _ hno
        rw [hrec.afin.iniciada, hini] at hno
        cases hno

/-! ## Runs -/

/-- The state of a run in which the screen of player `l` has called
`funcionGameover` `n` times. -/
structure Credito (p : Partida) (l : Lado) (u₀ : User) (s : Estado) (n : ℕ) :
    Prop where
  asientos : (asientos p).Holds s
  quiet : programa.Quiet s
  cuenta : p.Cuenta l u₀ (s.client l) ((programa.view s l).users (p.uid l)) n

theorem Credito.step {p : Partida} {l : Lado} {u₀ : User} {s s' : Estado}
    {a : Paso} {n : ℕ} (h : p.Credito l u₀ s n)
    (hstep : programa.step s a = some s') :
    p.Credito l u₀ s' (n + if Llama l a then 1 else 0) := by
  refine ⟨asientos_step h.asientos hstep,
    Program.step_quiet h.quiet hstep, ?_⟩
  cases a with
  | event k e =>
      obtain ⟨⟨m', ws⟩, hreact, rfl⟩ := Program.step_event hstep
      by_cases hk : k = l
      · subst hk
        rw [Program.settle_client_self, Program.view_settle_self]
        exact h.cuenta.react (h.asientos.clients k).1 hreact
      · have hlk : l ≠ k := fun heq => hk heq.symm
        have hno : Llama l (.event k e) = false := by
          cases e <;> simp [Llama, hk]
        rw [Program.settle_client_ne _ hlk, Program.view_settle_ne _ hlk, hno]
        exact h.cuenta
  | arrive k =>
      obtain ⟨w, ws, hbox, rfl⟩ := Program.step_arrive hstep
      by_cases hk : k = l
      · subst hk
        rw [Program.view_receive_self hbox]
        exact h.cuenta
      · have hlk : l ≠ k := fun heq => hk heq.symm
        have hperm := h.asientos.outbox k w (by
          rw [hbox]
          exact List.mem_cons_self)
        have hne : ∀ v, w ≠ .setUser (p.uid l) v := by
          rintro v rfl
          exact hlk (p.uid_injective hperm)
        have hview : (programa.view (programa.receive s k w ws) l).users
            (p.uid l) = (programa.view s l).users (p.uid l) := by
          unfold Program.view
          rw [Program.receive_outbox_ne w ws hlk]
          exact foldl_users_congr _ (BaseDatos.aplicar_users_of_ne _ hne)
        rw [hview]
        exact h.cuenta
  | confirm k =>
      obtain ⟨w, b, rest, -, rfl⟩ := Program.step_confirm hstep
      by_cases hk : k = l
      · subst hk
        rw [Program.settle_client_self, Program.view_settle_self]
        exact h.cuenta
      · have hlk : l ≠ k := fun heq => hk heq.symm
        rw [Program.settle_client_ne _ hlk, Program.view_settle_ne _ hlk]
        exact h.cuenta
  | deliver k =>
      obtain ⟨d, rest, hbox, rfl⟩ := Program.step_deliver hstep
      by_cases hk : k = l
      · subst hk
        have hescucha : (s.client k).escucha = true := by
          by_contra hno
          have hno' : (s.client k).escucha = false := by simpa using hno
          have hnil := h.quiet k hno'
          rw [hnil] at hbox
          cases hbox
        have hnada : (programa.snapshot (s.outbox k) d (s.client k)).2 = [] := by
          rcases MultPlayer.snapshot_cases (s.outbox k) d (s.client k) with
            hsame | ⟨-, -, j, m', -, hsnap, -⟩
          · exact congrArg Prod.snd hsame
          · exact congrArg Prod.snd hsnap
        rw [Program.settle_client_self, Program.view_settle_self, hnada]
        exact h.cuenta.snapshot hescucha
      · have hlk : l ≠ k := fun heq => hk heq.symm
        rw [Program.settle_client_ne _ hlk, Program.view_settle_ne _ hlk]
        exact h.cuenta
  | skip k =>
      obtain ⟨d, rest, -, rfl⟩ := Program.step_skip hstep
      exact h.cuenta

theorem credito_inicial {p : Partida} {l : Lado} {u₀ : User} {db : BaseDatos}
    (hdb : p.Abierta db) (hu : db.users (p.uid l) = some u₀) :
    p.Credito l u₀ (p.inicial db) 0 := by
  refine ⟨asientos_inicial hdb, fun _ _ => rfl, nofun, Or.inr ⟨u₀, hu, ?_⟩⟩
  refine ⟨?_, ?_, fun _ => ⟨rfl, Or.inr rfl⟩, nofun⟩
  · simp
  · intro v hv
    cases l <;> cases hv

theorem credito_run {p : Partida} {l : Lado} {u₀ : User} {s t : Estado}
    {acts : List Paso} {n : ℕ} (h : p.Credito l u₀ s n)
    (hrun : Runs.run programa.step s acts = some t) :
    p.Credito l u₀ t (n + acts.countP (Llama l)) := by
  induction acts generalizing s n with
  | nil =>
      cases hrun
      exact h
  | cons a acts ih =>
      obtain ⟨s', hstep, hrest⟩ := Runs.run_cons_eq_some hrun
      have hnext := ih (h.step hstep) hrest
      rw [List.countP_cons]
      have hsum : n + (acts.countP (Llama l) + if Llama l a then 1 else 0) =
          n + (if Llama l a then 1 else 0) + acts.countP (Llama l) := by
        omega
      rw [hsum]
      exact hnext

/-- When the screen of player `l` is stopped (in particular when it has also
finished), having received the match and both records, the match has been
credited exactly once if and only if `funcionGameover` was called once. -/
theorem acreditada_iff {p : Partida} {l : Lado} {u₀ : User} {db : BaseDatos}
    {acts : List Paso} {s : Estado} (hdb : p.Abierta db)
    (hu : db.users (p.uid l) = some u₀)
    (hrun : Runs.run programa.step (p.inicial db) acts = some s)
    (hrec : Recibida (s.client l)) (hstop : (s.client l).iniciada = false) :
    p.AcreditadaUnaVez l u₀ s ↔ acts.countP (Llama l) = 1 := by
  have h := credito_run (credito_inicial hdb hu) hrun
  rw [Nat.zero_add] at h
  obtain ⟨hjug, huno, hdos⟩ := hrec
  have hreg : registro l (s.client l) ≠ none := by
    cases l with
    | uno => exact huno
    | dos => exact hdos
  rcases h.cuenta.cuenta with ⟨-, hnone | hnone⟩ | ⟨u, hview, hbien⟩
  · exact absurd hnone hjug
  · exact absurd hnone hreg
  · constructor
    · rintro ⟨v, j, hv, -, hgame, -⟩
      rw [hview] at hv
      cases hv
      have hcount := hbien.gameDone
      rw [hgame] at hcount
      omega
    · intro hone
      obtain ⟨j, hj, hpoints⟩ := hbien.uno hone hstop
      refine ⟨u, j, hview, hj, ?_, hpoints⟩
      rw [hbien.gameDone, hone]
      rfl

/-- Player `a` goes back; `b` is told, leaves by the dialog and is stopped. -/
def saleConDialogo : List Paso :=
  entra .uno ++ entra .dos ++
    [.event .uno (.mult .onBackPressed), .arrive .uno, .deliver .dos,
      .event .dos (.mult (.onFinishDial 1)), .event .dos (.mult .onStop)]

theorem acreditada_iff_deAyB :
    ∃ s, Runs.run programa.step (deAyB.inicial baseAyB) saleConDialogo =
        some s ∧ (s.client .dos).terminada = true ∧
      deAyB.AcreditadaUnaVez .dos (User.nuevo "Blas" 0 0 "") s := by
  have hfin : (Runs.run programa.step (deAyB.inicial baseAyB)
      saleConDialogo).map (fun s => ((s.client .dos).terminada,
        (s.client .dos).iniciada, (s.client .dos).jugada.isSome,
        (s.client .dos).userjUno.isSome, (s.client .dos).userjDos.isSome)) =
      some (true, false, true, true, true) := by decide
  obtain ⟨s, hrun, h⟩ := Option.map_eq_some_iff.mp hfin
  simp only [Prod.mk.injEq] at h
  obtain ⟨hter, hini, hjug, huno, hdos⟩ := h
  refine ⟨s, hrun, hter, (acreditada_iff ⟨_, rfl, rfl, Or.inr rfl⟩ rfl hrun
    ⟨?_, ?_, ?_⟩ hini).mpr (by decide)⟩
  · exact Option.isSome_iff_ne_none.mp hjug
  · exact Option.isSome_iff_ne_none.mp huno
  · exact Option.isSome_iff_ne_none.mp hdos

/-- Player `b` goes back, and his screen stops. -/
def atrasYParada : List Paso :=
  entra .dos ++ [.event .dos (.mult .onBackPressed), .event .dos (.mult .onStop)]

/-- The match counts twice. -/
theorem acreditada_dos_veces :
    ∃ s, Runs.run programa.step (deAyB.inicial baseAyB) atrasYParada = some s ∧
      Recibida (s.client .dos) ∧ (s.client .dos).terminada = true ∧
      (s.client .dos).iniciada = false ∧
      ¬deAyB.AcreditadaUnaVez .dos (User.nuevo "Blas" 0 0 "") s := by
  have hfin : (Runs.run programa.step (deAyB.inicial baseAyB)
      atrasYParada).map (fun s => ((s.client .dos).terminada,
        (s.client .dos).iniciada, (s.client .dos).jugada.isSome,
        (s.client .dos).userjUno.isSome, (s.client .dos).userjDos.isSome)) =
      some (true, false, true, true, true) := by decide
  have hcount : (Runs.run programa.step (deAyB.inicial baseAyB)
      atrasYParada).bind (fun s =>
        ((programa.view s .dos).users "b").map User.gameDone) = some 2 := by
    decide
  obtain ⟨s, hrun, h⟩ := Option.map_eq_some_iff.mp hfin
  simp only [Prod.mk.injEq] at h
  obtain ⟨hter, hini, hjug, huno, hdos⟩ := h
  rw [hrun, Option.bind_some] at hcount
  refine ⟨s, hrun, ⟨?_, ?_, ?_⟩, hter, hini, ?_⟩
  · exact Option.isSome_iff_ne_none.mp hjug
  · exact Option.isSome_iff_ne_none.mp huno
  · exact Option.isSome_iff_ne_none.mp hdos
  · rintro ⟨u, j, hu, -, hone, -⟩
    have hu' : (programa.view s .dos).users "b" = some u := hu
    rw [hu', Option.map_some, Option.some.injEq, hone] at hcount
    revert hcount
    decide

end Tocate.Partida

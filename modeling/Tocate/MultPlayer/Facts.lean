import Tocate.MultPlayer.Activity
import Mathlib.Tactic.Common

/-!
# What the handlers of the match screen do

One statement for each kind of handler: a tap, the arrival of a snapshot, the
arrival of a record, and the calls of `funcionGameover`.  Everything that is
proved about the screen goes through these statements and never looks at the
methods again.
-/

namespace Tocate.MultPlayer

open Cloud

theorem react_eq_some {vista : BaseDatos} {m m' : MultPlayer} {e : Suceso}
    {ws : List Escritura} (h : react vista m e = some (m', ws)) :
    m.caida = false ∧ ∃ t, atiende vista m e = some t ∧ cierra t = (m', ws) := by
  obtain ⟨hcaida, hmap⟩ := Option.ite_none_left_eq_some.mp h
  obtain ⟨t, ht, hcierra⟩ := Option.map_eq_some_iff.mp hmap
  exact ⟨by simpa using hcaida, t, ht, hcierra⟩

/-! ## Taps -/

/-- The match as a tap leaves it: both scores are overwritten. -/
def tocada (j : Jugada) (cont : ℤ × ℤ) (aleatorio : Fin 3) : Jugada :=
  { j with
    puntosjugadorUnoID := cont.1
    puntosjugadorDosID := cont.2
    tocate := aleatorio }

/-- The cases of the click handlers. -/
theorem orden_cases (n : ℕ) : n = 0 ∨ n = 1 ∨ n = 2 ∨ ∃ k, n = k + 3 := by
  by_cases h : n < 3
  · omega
  · exact Or.inr (Or.inr (Or.inr ⟨n - 3, by omega⟩))

/-- The counters after the activity has handled a tap. -/
def cuenta (m : MultPlayer) (imagen : Imagen) (j : Jugada) : ℤ × ℤ :=
  contadores imagen m.n m.uid j m.cont1 m.cont2

/-- A tap sets the counters, the order and the local match, and nothing else
but texts; it writes the whole local match. -/
theorem onClick_eq {m : MultPlayer} {j : Jugada} (hj : m.jugada = some j)
    (imagen : Imagen) (aleatorio : Fin 3) :
    ∃ o, onClick imagen aleatorio m =
      { state :=
          { m with
            cont1 := (m.cuenta imagen j).1
            cont2 := (m.cuenta imagen j).2
            tvAciertos := some (m.cuenta imagen j).1
            tvAciertos2 := some (m.cuenta imagen j).2
            n := aleatorio
            jugada := some (tocada j (m.cuenta imagen j) aleatorio)
            tvOrden := o }
        writes :=
          [.setJugada m.jugadaId
            (tocada j (m.cuenta imagen j) aleatorio)] } := by
  refine ⟨(onClick imagen aleatorio m).state.tvOrden, ?_⟩
  simp only [onClick, hj, EtTocate, actualizarDBjugada, sigue,
    Outcome.andThen_mk_false]
  rfl

/-- The writes of a handler that stores its match: the match whole, and perhaps
the record of the user. -/
structure Guarda (m : MultPlayer) (j : Jugada) (ws : List Escritura) :
    Prop where
  jugada : .setJugada m.jugadaId j ∈ ws
  todas : ∀ w ∈ ws, w = .setJugada m.jugadaId j ∨ ∃ l, w = .setUser m.uid l

theorem Guarda.forall_mem {m : MultPlayer} {j : Jugada} {ws : List Escritura}
    {Q : Escritura → Prop} (h : Guarda m j ws)
    (hset : Q (.setJugada m.jugadaId j)) (huser : ∀ l, Q (.setUser m.uid l)) :
    ∀ w ∈ ws, Q w := by
  intro w hw
  rcases h.todas w hw with rfl | ⟨l, rfl⟩
  · exact hset
  · exact huser l

/-- What a tap does, once its handler has run to its end. -/
structure Toque (m : MultPlayer) (imagen : Imagen) (aleatorio : Fin 3)
    (j : Jugada) (m' : MultPlayer) (ws : List Escritura) : Prop where
  antes : m.jugada = some j
  jugada : m'.jugada = some (tocada j (m.cuenta imagen j) aleatorio)
  writes :
    ws = [.setJugada m.jugadaId (tocada j (m.cuenta imagen j) aleatorio)]
  cont1 : m'.cont1 = (m.cuenta imagen j).1
  cont2 : m'.cont2 = (m.cuenta imagen j).2
  uid : m'.uid = m.uid
  jugadaId : m'.jugadaId = m.jugadaId
  userjUno : m'.userjUno = m.userjUno
  userjDos : m'.userjDos = m.userjDos
  pedidosUno : m'.pedidosUno = m.pedidosUno
  pedidosDos : m'.pedidosDos = m.pedidosDos
  iniciada : m'.iniciada = m.iniciada
  listenerJugada : m'.listenerJugada = m.listenerJugada
  dialogos : m'.dialogos = m.dialogos

theorem Toque.guarda {m m' : MultPlayer} {imagen : Imagen} {aleatorio : Fin 3}
    {j : Jugada} {ws : List Escritura} (h : Toque m imagen aleatorio j m' ws) :
    Guarda m (tocada j (m.cuenta imagen j) aleatorio) ws := by
  rw [h.writes]
  exact ⟨List.mem_singleton_self _, fun w hw => Or.inl (List.mem_singleton.mp hw)⟩

theorem react_clic {vista : BaseDatos} {m m' : MultPlayer} {imagen : Imagen}
    {aleatorio : Fin 3} {ws : List Escritura}
    (h : react vista m (.clic imagen aleatorio) = some (m', ws)) :
    m.iniciada = true ∧ m.abiertos = [] ∧
      ((m.jugada = none ∧ m' = { m with caida := true } ∧ ws = []) ∨
        ∃ j, Toque m imagen aleatorio j m' ws) := by
  obtain ⟨-, t, ht, hcierra⟩ := react_eq_some h
  obtain ⟨hlista, ⟨⟩⟩ := Option.ite_none_right_eq_some.mp ht
  refine ⟨hlista.1, hlista.2, ?_⟩
  cases hj : m.jugada with
  | none =>
      left
      simp only [onClick, hj, falla, cierra, Bool.or_true] at hcierra
      obtain ⟨rfl, rfl⟩ := Prod.mk.inj hcierra
      exact ⟨rfl, rfl, rfl⟩
  | some j =>
      right
      obtain ⟨o, ho⟩ := onClick_eq hj imagen aleatorio
      rw [ho] at hcierra
      simp only [cierra, Bool.or_false] at hcierra
      obtain ⟨rfl, rfl⟩ := Prod.mk.inj hcierra
      exact ⟨j, hj, rfl, rfl, rfl, rfl, rfl, rfl, rfl, rfl, rfl, rfl, rfl, rfl,
        rfl⟩

/-! ## Game over -/

/-- The record of the player who is signed in. -/
def propio (m : MultPlayer) (j : Jugada) : Option Leido :=
  if j.jugadorUnoID = m.uid then m.userjUno else m.userjDos

/-- The seat that `actualizarDBuser` takes for the user's. -/
def suPuesto (m : MultPlayer) (j : Jugada) : Puesto :=
  if j.jugadorUnoID = m.uid then .uno else .dos

theorem registro_suPuesto (m : MultPlayer) (j : Jugada) :
    m.registro (m.suPuesto j) = m.propio j := by
  unfold suPuesto propio
  split
  · rfl
  · rfl

theorem suPuesto_eq_uno {m : MultPlayer} {j : Jugada} :
    m.suPuesto j = .uno ↔ j.jugadorUnoID = m.uid := by
  unfold suPuesto
  split
  next huno => exact iff_of_true rfl huno
  next huno => exact iff_of_false nofun huno

theorem registro_ext {m m' : MultPlayer} (huno : m'.userjUno = m.userjUno)
    (hdos : m'.userjDos = m.userjDos) : m'.registro = m.registro := by
  funext p
  cases p with
  | uno => exact huno
  | dos => exact hdos

/-- The score of player `uid`. -/
def puntosDe (j : Jugada) (uid : String) : ℤ :=
  if j.jugadorUnoID = uid then j.puntosjugadorUnoID
  else j.puntosjugadorDosID

/-- The match with its winner. -/
def coronada (j : Jugada) : Jugada := { j with ganadorID := ganador j }

/-- `m` with `u` as the record of the player who is signed in. -/
def conPropio (m : MultPlayer) (j : Jugada) (u : Leido) : MultPlayer :=
  if j.jugadorUnoID = m.uid then { m with userjUno := some u }
  else { m with userjDos := some u }

theorem funcionGameover_eq {m : MultPlayer} {j : Jugada}
    (hj : m.jugada = some j) :
    funcionGameover m =
      match m.propio j with
      | none =>
          { state := { m with jugada := some (coronada j) }
            writes := [.setJugada m.jugadaId (coronada j)]
            failed := true }
      | some u =>
          { state :=
              conPropio { m with jugada := some (coronada j) } j
                (u.acredita (puntosDe j m.uid))
            writes :=
              [.setJugada m.jugadaId (coronada j),
                .setUser m.uid (u.acredita (puntosDe j m.uid))] } := by
  by_cases huno : j.jugadorUnoID = m.uid
  · cases hu : m.userjUno with
    | none =>
        simp only [funcionGameover, hj, Outcome.andThen_mk_false,
          actualizarDBuser, huno, if_true, hu, falla, propio, coronada,
          List.append_nil]
    | some u =>
        simp only [funcionGameover, hj, Outcome.andThen_mk_false,
          actualizarDBuser, huno, if_true, hu, propio, coronada, puntosDe,
          conPropio, List.cons_append, List.nil_append]
  · cases hu : m.userjDos with
    | none =>
        simp only [funcionGameover, hj, Outcome.andThen_mk_false,
          actualizarDBuser, huno, if_false, hu, falla, propio, coronada,
          List.append_nil]
    | some u =>
        simp only [funcionGameover, hj, Outcome.andThen_mk_false,
          actualizarDBuser, huno, if_false, hu, propio, coronada, puntosDe,
          conPropio, List.cons_append, List.nil_append]

section ConPropio

variable (m : MultPlayer) (j : Jugada) (u : Leido)

@[simp] theorem conPropio_uid : (m.conPropio j u).uid = m.uid := by
  unfold conPropio
  split <;> rfl

@[simp] theorem conPropio_jugada : (m.conPropio j u).jugada = m.jugada := by
  unfold conPropio
  split <;> rfl

@[simp] theorem conPropio_dialogos :
    (m.conPropio j u).dialogos = m.dialogos := by
  unfold conPropio
  split <;> rfl

@[simp] theorem conPropio_iniciada :
    (m.conPropio j u).iniciada = m.iniciada := by
  unfold conPropio
  split <;> rfl

@[simp] theorem conPropio_terminada :
    (m.conPropio j u).terminada = m.terminada := by
  unfold conPropio
  split <;> rfl

@[simp] theorem conPropio_listenerJugada :
    (m.conPropio j u).listenerJugada = m.listenerJugada := by
  unfold conPropio
  split <;> rfl

/-- The verdict depends on the names and the user only. -/
@[simp] theorem conPropio_veredicto (k : Jugada) :
    (m.conPropio j u).veredicto k = m.veredicto k := by
  unfold conPropio
  split <;> rfl

/-- The record that was put in is the record of the player. -/
@[simp] theorem propio_conPropio : (m.conPropio j u).propio j = some u := by
  unfold propio conPropio
  by_cases huno : j.jugadorUnoID = m.uid
  · simp [huno]
  · simp [huno]

@[simp] theorem conPropio_registro :
    (m.conPropio j u).registro =
      Function.update m.registro (m.suPuesto j) (some u) := by
  unfold conPropio suPuesto
  funext q
  split <;> cases q <;> rfl

/-- Only the record of the player is replaced. -/
theorem conPropio_registro_eq_some {p : Puesto} {v : Leido}
    (h : (m.conPropio j u).registro p = some v) :
    m.registro p = some v ∨ (m.suPuesto j = p ∧ v = u) := by
  rw [conPropio_registro] at h
  rcases eq_or_ne p (m.suPuesto j) with rfl | hp
  · rw [Function.update_self] at h
    exact Or.inr ⟨rfl, (Option.some.inj h).symm⟩
  · rw [Function.update_of_ne hp] at h
    exact Or.inl h

end ConPropio

/-- Who plays which match, the counters, the names and whether the screen is
shown and listens. -/
def ficha (m : MultPlayer) :
    String × String × ℤ × ℤ × String × String × Bool × Bool :=
  (m.uid, m.jugadaId, m.cont1, m.cont2, m.nombreJuno, m.nombreJdos,
    m.iniciada, m.listenerJugada)

def Afin (x y : MultPlayer) : Prop := y.ficha = x.ficha

namespace Afin

variable {x y z : MultPlayer}

theorem trans (h : Afin x y) (h' : Afin y z) : Afin x z := Eq.trans h' h

theorem uid (h : Afin x y) : y.uid = x.uid :=
  congrArg (fun c => c.1) h

theorem jugadaId (h : Afin x y) : y.jugadaId = x.jugadaId :=
  congrArg (fun c => c.2.1) h

theorem cont1 (h : Afin x y) : y.cont1 = x.cont1 :=
  congrArg (fun c => c.2.2.1) h

theorem cont2 (h : Afin x y) : y.cont2 = x.cont2 :=
  congrArg (fun c => c.2.2.2.1) h

theorem nombreJuno (h : Afin x y) : y.nombreJuno = x.nombreJuno :=
  congrArg (fun c => c.2.2.2.2.1) h

theorem nombreJdos (h : Afin x y) : y.nombreJdos = x.nombreJdos :=
  congrArg (fun c => c.2.2.2.2.2.1) h

theorem iniciada (h : Afin x y) : y.iniciada = x.iniciada :=
  congrArg (fun c => c.2.2.2.2.2.2.1) h

theorem listenerJugada (h : Afin x y) :
    y.listenerJugada = x.listenerJugada :=
  congrArg (fun c => c.2.2.2.2.2.2.2) h

/-- The verdict depends on the user and the names only. -/
theorem veredicto (h : Afin x y) (j : Jugada) :
    y.veredicto j = x.veredicto j := by
  simp only [MultPlayer.veredicto, h.uid, h.nombreJuno, h.nombreJdos]

end Afin

/-- `y` differs from `x` in the match, the records of the players, timers and
dialogs at most. -/
structure Base (x y : MultPlayer) : Prop where
  afin : Afin x y
  pedidosUno : y.pedidosUno = x.pedidosUno
  pedidosDos : y.pedidosDos = x.pedidosDos

theorem Base.trans {x y z : MultPlayer} (h : Base x y) (h' : Base y z) :
    Base x z :=
  ⟨h.afin.trans h'.afin, h'.pedidosUno.trans h.pedidosUno,
    h'.pedidosDos.trans h.pedidosDos⟩

theorem base_conPropio (x : MultPlayer) (j : Jugada) (u : Leido) :
    Base x (x.conPropio j u) := by
  unfold conPropio
  split
  · exact ⟨rfl, rfl, rfl⟩
  · exact ⟨rfl, rfl, rfl⟩

/-- No dialog was opened, or one that shows the verdict on `j`. -/
def AbreDialogo (x : MultPlayer) (j : Jugada) (y : MultPlayer) : Prop :=
  y.dialogos = x.dialogos ∨
    ∃ d, y.dialogos = x.dialogos ++ [d] ∧ d.tvGanador = x.veredicto j

/-- What runs after `funcionGameover` in its three callers: timers and at most
one dialog. -/
structure Cola (x y : MultPlayer) : Prop where
  base : Base x y
  jugada : y.jugada = x.jugada
  userjUno : y.userjUno = x.userjUno
  userjDos : y.userjDos = x.userjDos
  dialogos : ∀ j, x.jugada = some j → AbreDialogo x j y

/-- A handler that neither writes nor does more than `Cola` allows. -/
def EsCola (f : MultPlayer → Turno) : Prop :=
  ∀ x, (f x).writes = [] ∧ Cola x (f x).state

theorem Cola.of_igual {x y : MultPlayer} (hbase : Base x y)
    (hjug : y.jugada = x.jugada) (huno : y.userjUno = x.userjUno)
    (hdos : y.userjDos = x.userjDos) (hdial : y.dialogos = x.dialogos) :
    Cola x y :=
  ⟨hbase, hjug, huno, hdos, fun _ _ => Or.inl hdial⟩

theorem Cola.refl (x : MultPlayer) : Cola x x :=
  Cola.of_igual ⟨rfl, rfl, rfl⟩ rfl rfl rfl rfl

theorem esCola_cancelaCountDownTimer : EsCola cancelaCountDownTimer := by
  intro x
  unfold cancelaCountDownTimer
  split
  · exact ⟨rfl, Cola.refl x⟩
  · exact ⟨rfl, Cola.of_igual ⟨rfl, rfl, rfl⟩ rfl rfl rfl rfl⟩

theorem esCola_dialogo_Gameover (Salirjue : Bool) :
    EsCola (dialogo_Gameover Salirjue) := by
  intro x
  unfold dialogo_Gameover
  split
  · exact ⟨rfl, Cola.refl x⟩
  next j hj =>
    split
    · exact ⟨rfl, Cola.refl x⟩
    · refine ⟨rfl, ⟨rfl, rfl, rfl⟩, rfl, rfl, rfl, ?_⟩
      intro k hk
      rw [hj] at hk
      cases hk
      exact Or.inr ⟨_, rfl, rfl⟩

/-- `countDownTimer.cancel()` followed by `finish()`. -/
theorem esCola_cancela_finish :
    EsCola fun x => (cancelaCountDownTimer x).andThen
      fun m => sigue (finish m) := by
  intro x
  cases hreloj : x.countDownTimer with
  | none =>
      simp only [cancelaCountDownTimer, hreloj, falla,
        Outcome.andThen_mk_true, true_and]
      exact Cola.refl x
  | some t =>
      simp only [cancelaCountDownTimer, hreloj, sigue,
        Outcome.andThen_mk_false]
      exact ⟨rfl, Cola.of_igual ⟨rfl, rfl, rfl⟩ rfl rfl rfl rfl⟩

/-- What a call of `funcionGameover` on the match `j` comes to once the handler
that made it is over: the match is written with its winner and then, if the
player's record is there, the record with the credit. -/
structure Termina (m : MultPlayer) (j : Jugada) (m' : MultPlayer)
    (ws : List Escritura) : Prop where
  base : Base m m'
  jugada : m'.jugada = some (coronada j)
  credito :
    (m.propio j = none ∧ ws = [.setJugada m.jugadaId (coronada j)] ∧
      m'.caida = true ∧
      m'.userjUno = m.userjUno ∧ m'.userjDos = m.userjDos) ∨
    ∃ u, m.propio j = some u ∧
      ws = [.setJugada m.jugadaId (coronada j),
        .setUser m.uid (u.acredita (puntosDe j m.uid))] ∧
      m'.userjUno =
        (m.conPropio j (u.acredita (puntosDe j m.uid))).userjUno ∧
      m'.userjDos =
        (m.conPropio j (u.acredita (puntosDe j m.uid))).userjDos
  dialogos : AbreDialogo m j m'

/-- What a handler does that calls `funcionGameover` in state `m` and goes on
with `f`. -/
theorem termina_of_cola {m : MultPlayer} {j : Jugada}
    {f : MultPlayer → Turno} {m' : MultPlayer} {ws : List Escritura}
    (hf : EsCola f) (hj : m.jugada = some j)
    (h : cierra ((funcionGameover m).andThen f) = (m', ws)) :
    Termina m j m' ws := by
  rw [funcionGameover_eq hj] at h
  cases hu : m.propio j with
  | none =>
      simp only [hu, Outcome.andThen_mk_true, cierra, Bool.or_true] at h
      cases h
      exact ⟨⟨rfl, rfl, rfl⟩, rfl, Or.inl ⟨hu, rfl, rfl, rfl, rfl⟩, Or.inl rfl⟩
  | some u =>
      simp only [hu, Outcome.andThen_mk_false, cierra] at h
      cases h
      -- the state when the rest of the handler begins
      generalize hx : conPropio { m with jugada := some (coronada j) } j
        (u.acredita (puntosDe j m.uid)) = x
      have hxbase : Base m x := by
        have hprev : Base m { m with jugada := some (coronada j) } :=
          ⟨rfl, rfl, rfl⟩
        rw [← hx]
        exact hprev.trans (base_conPropio _ _ _)
      have hxjug : x.jugada = some (coronada j) := by
        rw [← hx, conPropio_jugada]
      have hxdial : x.dialogos = m.dialogos := by
        rw [← hx, conPropio_dialogos]
      obtain ⟨hw, hcola⟩ := hf x
      have htotal := hxbase.trans hcola.base
      refine ⟨⟨htotal.afin, htotal.pedidosUno, htotal.pedidosDos⟩,
        hcola.jugada.trans hxjug, Or.inr ⟨u, hu, ?_, ?_, ?_⟩, ?_⟩
      · rw [hw, List.append_nil]
      · refine hcola.userjUno.trans ?_
        rw [← hx]
        unfold conPropio
        split
        · rfl
        · rfl
      · refine hcola.userjDos.trans ?_
        rw [← hx]
        unfold conPropio
        split
        · rfl
        · rfl
      · rcases hcola.dialogos (coronada j) hxjug with hsame | ⟨d, hd, hver⟩
        · exact Or.inl (hsame.trans hxdial)
        · exact Or.inr ⟨d, hd.trans (congrArg (· ++ [d]) hxdial),
            hver.trans (hxbase.afin.veredicto (coronada j))⟩

/-! ## The three callers of `funcionGameover` -/

/-- The events that call `funcionGameover`. -/
def Suceso.esGameover : Suceso → Bool
  | .onFinish _ | .onStop | .onBackPressed => true
  | _ => false

theorem Suceso.esGameover_cases {e : Suceso} (h : e.esGameover = true) :
    (∃ t, e = .onFinish t) ∨ e = .onStop ∨ e = .onBackPressed := by
  cases e with
  | onFinish t => exact Or.inl ⟨t, rfl⟩
  | onStop => exact Or.inr (Or.inl rfl)
  | onBackPressed => exact Or.inr (Or.inr rfl)
  | _ => exact absurd h Bool.false_ne_true

/-- The state in which the event calls `funcionGameover`. -/
def alLlamar (m : MultPlayer) : Suceso → MultPlayer
  | .onFinish t => { m with relojes := m.relojes.erase t }
  | .onStop =>
      { m with
        iniciada := false
        listenerJugada := false
        pedidosUno := []
        pedidosDos := [] }
  | .onBackPressed =>
      { m with jugada := m.jugada.map fun j => { j with abandonoID := m.uid } }
  | _ => m

section AlLlamar

variable (m : MultPlayer) (e : Suceso)

@[simp] theorem alLlamar_uid : (m.alLlamar e).uid = m.uid := by
  cases e <;> rfl

@[simp] theorem alLlamar_jugadaId :
    (m.alLlamar e).jugadaId = m.jugadaId := by
  cases e <;> rfl

@[simp] theorem alLlamar_cont1 : (m.alLlamar e).cont1 = m.cont1 := by
  cases e <;> rfl

@[simp] theorem alLlamar_cont2 : (m.alLlamar e).cont2 = m.cont2 := by
  cases e <;> rfl

@[simp] theorem alLlamar_userjUno :
    (m.alLlamar e).userjUno = m.userjUno := by
  cases e <;> rfl

@[simp] theorem alLlamar_userjDos :
    (m.alLlamar e).userjDos = m.userjDos := by
  cases e <;> rfl

@[simp] theorem alLlamar_dialogos :
    (m.alLlamar e).dialogos = m.dialogos := by
  cases e <;> rfl

@[simp] theorem alLlamar_propio (j : Jugada) :
    (m.alLlamar e).propio j = m.propio j := by
  cases e <;> rfl

@[simp] theorem alLlamar_veredicto (j : Jugada) :
    (m.alLlamar e).veredicto j = m.veredicto j := by
  cases e <;> rfl

theorem alLlamar_pedidos_subset (p : Puesto) :
    (m.alLlamar e).pedidos p ⊆ m.pedidos p := by
  cases p <;> cases e <;> simp [alLlamar, pedidos]

theorem alLlamar_listenerJugada
    (h : (m.alLlamar e).listenerJugada = true) : m.listenerJugada = true := by
  cases e <;> first | exact h | cases h

/-- The match on which `funcionGameover` is called: the local copy, with the
abandonment noted first on a back press. -/
theorem alLlamar_jugada {j' : Jugada} (h : (m.alLlamar e).jugada = some j') :
    ∃ j, m.jugada = some j ∧
      (j' = j ∨ (e = .onBackPressed ∧ j' = { j with abandonoID := m.uid })) := by
  cases e with
  | onBackPressed =>
      obtain ⟨j, hj, rfl⟩ := Option.map_eq_some_iff.mp h
      exact ⟨j, hj, Or.inr ⟨rfl, rfl⟩⟩
  | clic _ _ => exact ⟨j', h, Or.inl rfl⟩
  | userUno => exact ⟨j', h, Or.inl rfl⟩
  | userDos => exact ⟨j', h, Or.inl rfl⟩
  | onFinish _ => exact ⟨j', h, Or.inl rfl⟩
  | onStart => exact ⟨j', h, Or.inl rfl⟩
  | onStop => exact ⟨j', h, Or.inl rfl⟩
  | botonDialogo _ => exact ⟨j', h, Or.inl rfl⟩
  | onFinishDial _ => exact ⟨j', h, Or.inl rfl⟩

theorem alLlamar_jugada_none :
    (m.alLlamar e).jugada = none ↔ m.jugada = none := by
  cases e <;> simp [alLlamar]

/-- A call stores the match with its winner. -/
theorem Termina.guarda {m m' : MultPlayer} {e : Suceso} {j : Jugada}
    {ws : List Escritura} (h : Termina (m.alLlamar e) j m' ws) :
    Guarda m (coronada j) ws := by
  rcases h.credito with ⟨-, hws, -⟩ | ⟨u, -, hws, -⟩
  · rw [alLlamar_jugadaId] at hws
    rw [hws]
    exact ⟨List.mem_singleton_self _,
      fun w hw => Or.inl (List.mem_singleton.mp hw)⟩
  · rw [alLlamar_jugadaId, alLlamar_uid] at hws
    rw [hws]
    refine ⟨List.mem_cons_self, fun w hw => ?_⟩
    rcases List.mem_cons.mp hw with hset | hrecord
    · exact Or.inl hset
    · exact Or.inr ⟨_, List.mem_singleton.mp hrecord⟩

end AlLlamar

/-- A call without a match takes the app down. -/
structure Cae (m m' : MultPlayer) (ws : List Escritura) : Prop where
  antes : m.jugada = none
  writes : ws = []
  base : Base m m'
  jugada : m'.jugada = none
  caida : m'.caida = true
  userjUno : m'.userjUno = m.userjUno
  userjDos : m'.userjDos = m.userjDos
  dialogos : m'.dialogos = m.dialogos

/-- What a handler does that calls `funcionGameover` in state `x`. -/
theorem gameover_of_cola {x m' : MultPlayer} {f : MultPlayer → Turno}
    {ws : List Escritura} (hf : EsCola f)
    (h : cierra ((funcionGameover x).andThen f) = (m', ws)) :
    Cae x m' ws ∨ ∃ j, x.jugada = some j ∧ Termina x j m' ws := by
  cases hj : x.jugada with
  | none =>
      left
      simp only [funcionGameover, hj, falla, Outcome.andThen_mk_true, cierra,
        Bool.or_true] at h
      obtain ⟨rfl, rfl⟩ := Prod.mk.inj h
      exact ⟨hj, rfl, ⟨rfl, rfl, rfl⟩, rfl, rfl, rfl, rfl, rfl⟩
  | some j =>
      right
      exact ⟨j, rfl, termina_of_cola hf hj h⟩

/-- What the events that call `funcionGameover` do. -/
theorem react_gameover {vista : BaseDatos} {m m' : MultPlayer} {e : Suceso}
    {ws : List Escritura} (he : e.esGameover = true)
    (h : react vista m e = some (m', ws)) :
    Cae (m.alLlamar e) m' ws ∨
      ∃ j, (m.alLlamar e).jugada = some j ∧ Termina (m.alLlamar e) j m' ws := by
  obtain ⟨-, t, ht, hcierra⟩ := react_eq_some h
  obtain ⟨r, rfl⟩ | rfl | rfl := Suceso.esGameover_cases he
  · obtain ⟨-, ⟨⟩⟩ := Option.ite_none_right_eq_some.mp ht
    exact gameover_of_cola (esCola_dialogo_Gameover true) hcierra
  · obtain ⟨-, ⟨⟩⟩ := Option.ite_none_right_eq_some.mp ht
    exact gameover_of_cola esCola_cancelaCountDownTimer hcierra
  · obtain ⟨-, ⟨⟩⟩ := Option.ite_none_right_eq_some.mp ht
    cases hj : m.jugada with
    | none =>
        left
        simp only [onBackPressed, hj, falla, cierra, Bool.or_true] at hcierra
        obtain ⟨rfl, rfl⟩ := Prod.mk.inj hcierra
        have hnone := (m.alLlamar_jugada_none .onBackPressed).mpr hj
        exact ⟨hnone, rfl, ⟨rfl, rfl, rfl⟩, rfl, rfl, rfl, rfl, rfl⟩
    | some j =>
        simp only [onBackPressed, hj] at hcierra
        have hcopia : (m.alLlamar .onBackPressed) =
            { m with jugada := some { j with abandonoID := m.uid } } := by
          simp only [alLlamar, hj, Option.map_some]
        rw [hcopia]
        exact gameover_of_cola esCola_cancela_finish hcierra

/-! ## The other events -/

/-- The events that neither tap an image nor call `funcionGameover`. -/
def Suceso.esCallado : Suceso → Bool
  | .userUno | .userDos | .onStart | .botonDialogo _ | .onFinishDial _ => true
  | _ => false

/-- A tap, a call of `funcionGameover` or a silent event. -/
theorem Suceso.clases (e : Suceso) :
    (∃ imagen aleatorio, e = .clic imagen aleatorio) ∨
      e.esGameover = true ∨ e.esCallado = true := by
  cases e with
  | clic imagen aleatorio => exact Or.inl ⟨imagen, aleatorio, rfl⟩
  | onFinish _ => exact Or.inr (Or.inl rfl)
  | onStop => exact Or.inr (Or.inl rfl)
  | onBackPressed => exact Or.inr (Or.inl rfl)
  | userUno => exact Or.inr (Or.inr rfl)
  | userDos => exact Or.inr (Or.inr rfl)
  | onStart => exact Or.inr (Or.inr rfl)
  | botonDialogo _ => exact Or.inr (Or.inr rfl)
  | onFinishDial _ => exact Or.inr (Or.inr rfl)

/-- The events, with the replies to the two reads taken together. -/
@[elab_as_elim]
theorem Suceso.casos {motive : Suceso → Prop}
    (clic : ∀ imagen aleatorio, motive (.clic imagen aleatorio))
    (user : ∀ p, motive (.user p)) (onFinish : ∀ t, motive (.onFinish t))
    (onStart : motive .onStart) (onStop : motive .onStop)
    (onBackPressed : motive .onBackPressed)
    (botonDialogo : ∀ d, motive (.botonDialogo d))
    (onFinishDial : ∀ d, motive (.onFinishDial d)) (e : Suceso) :
    motive e := by
  cases e with
  | clic imagen aleatorio => exact clic imagen aleatorio
  | userUno => exact user .uno
  | userDos => exact user .dos
  | onFinish t => exact onFinish t
  | onStart => exact onStart
  | onStop => exact onStop
  | onBackPressed => exact onBackPressed
  | botonDialogo d => exact botonDialogo d
  | onFinishDial d => exact onFinishDial d

theorem Suceso.user_injective : Function.Injective Suceso.user := by
  intro p q h
  cases p <;> cases q <;> first | rfl | cases h

theorem Suceso.not_esGameover {e : Suceso} (h : e.esCallado = true) :
    e.esGameover = false := by
  cases e <;> first | rfl | cases h

/-- What comes of a request: the record of one of the documents asked for. -/
def Leida (vista : BaseDatos) (pedidos : List String) (u : Option Leido) :
    Prop :=
  ∃ id ∈ pedidos, u = (vista.users id).map fun u => { de := id, user := u }

/-- A silent event writes nothing and leaves match, counters and the dialogs
shown so far alone. -/
structure Calla (vista : BaseDatos) (m : MultPlayer) (e : Suceso)
    (m' : MultPlayer) (ws : List Escritura) : Prop where
  writes : ws = []
  uid : m'.uid = m.uid
  jugadaId : m'.jugadaId = m.jugadaId
  jugada : m'.jugada = m.jugada
  cont1 : m'.cont1 = m.cont1
  cont2 : m'.cont2 = m.cont2
  dialogos : m'.dialogos = m.dialogos
  pedidos : ∀ p, m'.pedidos p ⊆ m.pedidos p
  registro :
    ∀ p, m'.registro p = m.registro p ∨
      Leida vista (m.pedidos p) (m'.registro p)
  ciclo :
    (e = .onStart ∧ m'.iniciada = true) ∨
      (m'.iniciada = m.iniciada ∧ m'.listenerJugada = m.listenerJugada)

/-- The screen as a reply to a read of a seat leaves it. -/
def alLeer (p : Puesto) (resto : List String) (u : Option Leido)
    (nombre : String) (m : MultPlayer) : MultPlayer :=
  conNombre p nombre (conRegistro p u (conPedidos p resto m))

section AlLeer

variable (p : Puesto) (resto : List String) (u : Option Leido)
  (nombre : String) (m : MultPlayer)

@[simp] theorem alLeer_uid : (alLeer p resto u nombre m).uid = m.uid := by
  cases p <;> rfl

@[simp] theorem alLeer_jugadaId :
    (alLeer p resto u nombre m).jugadaId = m.jugadaId := by
  cases p <;> rfl

@[simp] theorem alLeer_jugada :
    (alLeer p resto u nombre m).jugada = m.jugada := by
  cases p <;> rfl

@[simp] theorem alLeer_cont1 : (alLeer p resto u nombre m).cont1 = m.cont1 := by
  cases p <;> rfl

@[simp] theorem alLeer_cont2 : (alLeer p resto u nombre m).cont2 = m.cont2 := by
  cases p <;> rfl

@[simp] theorem alLeer_dialogos :
    (alLeer p resto u nombre m).dialogos = m.dialogos := by
  cases p <;> rfl

@[simp] theorem alLeer_countDownTimer :
    (alLeer p resto u nombre m).countDownTimer = m.countDownTimer := by
  cases p <;> rfl

@[simp] theorem alLeer_iniciada :
    (alLeer p resto u nombre m).iniciada = m.iniciada := by
  cases p <;> rfl

@[simp] theorem alLeer_listenerJugada :
    (alLeer p resto u nombre m).listenerJugada = m.listenerJugada := by
  cases p <;> rfl

@[simp] theorem alLeer_pedidos :
    (alLeer p resto u nombre m).pedidos =
      Function.update m.pedidos p resto := by
  funext q
  cases p <;> cases q <;> rfl

@[simp] theorem alLeer_registro :
    (alLeer p resto u nombre m).registro =
      Function.update m.registro p u := by
  funext q
  cases p <;> cases q <;> rfl

end AlLeer

/-- The oldest read of a seat is answered. -/
theorem atiende_user {vista : BaseDatos} {m : MultPlayer} {t : Turno}
    {p : Puesto} (h : atiende vista m (.user p) = some t) :
    ∃ id resto, m.pedidos p = id :: resto ∧
      t = recibeUser p id (vista.users id) (conPedidos p resto m) := by
  have hlee : atiendeUser vista m p (recibeUser p) = some t := by
    cases p with
    | uno => exact h
    | dos => exact h
  unfold atiendeUser at hlee
  split at hlee
  · exact absurd hlee (by simp)
  next id resto hped => exact ⟨id, resto, hped, (Option.some.inj hlee).symm⟩

/-- A reply replaces the record, and the name if there is one. -/
theorem recibeUser_eq (p : Puesto) (id : String) (resto : List String)
    (u : Option User) (m : MultPlayer) :
    (recibeUser p id u (conPedidos p resto m)).writes = [] ∧
      ∃ nombre, (recibeUser p id u (conPedidos p resto m)).state =
        alLeer p resto (u.map fun u => { de := id, user := u }) nombre m := by
  cases u with
  | none =>
      cases p with
      | uno => exact ⟨rfl, m.nombreJuno, rfl⟩
      | dos => exact ⟨rfl, m.nombreJdos, rfl⟩
  | some u => exact ⟨rfl, recorta u.name, rfl⟩

/-- What a reply to a read of a seat does. -/
theorem react_user_eq {vista : BaseDatos} {m m' : MultPlayer} {p : Puesto}
    {ws : List Escritura} (h : react vista m (.user p) = some (m', ws)) :
    ∃ id resto nombre caida, m.pedidos p = id :: resto ∧ ws = [] ∧
      m' =
        { alLeer p resto ((vista.users id).map fun u => { de := id, user := u })
            nombre m with caida := caida } := by
  obtain ⟨-, t, ht, hcierra⟩ := react_eq_some h
  obtain ⟨rfl, rfl⟩ := Prod.mk.inj hcierra
  obtain ⟨id, resto, hped, rfl⟩ := atiende_user ht
  obtain ⟨hws, nombre, hstate⟩ :=
    recibeUser_eq p id resto (vista.users id) m
  rw [hws, hstate]
  exact ⟨id, resto, nombre, _, hped, rfl, rfl⟩

/-- A dialog button stops a countdown and leaves the screen. -/
theorem botonDialogo_eq (d : ℕ) (m : MultPlayer) :
    (botonDialogo d m).writes = [] ∧
      ∃ relojes abiertos terminada, (botonDialogo d m).state =
        { m with
          relojesDial := relojes
          abiertos := abiertos
          terminada := terminada } := by
  unfold botonDialogo
  split
  · exact ⟨rfl, m.relojesDial, m.abiertos, m.terminada, rfl⟩
  · exact ⟨rfl, _, _, true, rfl⟩

/-- A reply changes the reads and the record of its seat only. -/
theorem react_user {vista : BaseDatos} {m m' : MultPlayer} {p : Puesto}
    {ws : List Escritura} (h : react vista m (.user p) = some (m', ws)) :
    Calla vista m (.user p) m' ws := by
  obtain ⟨id, resto, nombre, caida, hped, rfl, rfl⟩ := react_user_eq h
  refine ⟨rfl, alLeer_uid .., alLeer_jugadaId .., alLeer_jugada ..,
    alLeer_cont1 .., alLeer_cont2 .., alLeer_dialogos .., ?_, ?_,
    Or.inr ⟨alLeer_iniciada .., alLeer_listenerJugada ..⟩⟩
  · intro q
    change (alLeer _ _ _ _ m).pedidos q ⊆ m.pedidos q
    rw [alLeer_pedidos]
    rcases eq_or_ne q p with rfl | hq
    · rw [Function.update_self]
      exact subset_of_eq_cons hped
    · rw [Function.update_of_ne hq]
      exact List.Subset.refl _
  · intro q
    change (alLeer _ _ _ _ m).registro q = _ ∨
      Leida vista _ ((alLeer _ _ _ _ m).registro q)
    rw [alLeer_registro]
    rcases eq_or_ne q p with rfl | hq
    · rw [Function.update_self]
      exact Or.inr ⟨id, mem_of_eq_cons hped, rfl⟩
    · exact Or.inl (Function.update_of_ne hq _ _)

theorem react_callado {vista : BaseDatos} {m m' : MultPlayer} {e : Suceso}
    {ws : List Escritura} (he : e.esCallado = true)
    (h : react vista m e = some (m', ws)) : Calla vista m e m' ws := by
  obtain ⟨-, t, ht, hcierra⟩ := react_eq_some h
  cases e using Suceso.casos with
  | user p => exact react_user h
  | onStart =>
      obtain ⟨-, ⟨⟩⟩ := Option.ite_none_right_eq_some.mp ht
      obtain ⟨rfl, rfl⟩ := Prod.mk.inj hcierra
      exact ⟨rfl, rfl, rfl, rfl, rfl, rfl, rfl, fun p => List.Subset.refl _,
        fun p => Or.inl rfl, Or.inl ⟨rfl, rfl⟩⟩
  | botonDialogo d =>
      obtain ⟨-, ⟨⟩⟩ := Option.ite_none_right_eq_some.mp ht
      obtain ⟨rfl, rfl⟩ := Prod.mk.inj hcierra
      obtain ⟨hws, _, _, _, hstate⟩ := botonDialogo_eq d m
      rw [hws, hstate]
      exact ⟨rfl, rfl, rfl, rfl, rfl, rfl, rfl, fun p => List.Subset.refl _,
        fun p => Or.inl rfl, Or.inr ⟨rfl, rfl⟩⟩
  | onFinishDial d =>
      obtain ⟨-, ⟨⟩⟩ := Option.ite_none_right_eq_some.mp ht
      obtain ⟨rfl, rfl⟩ := Prod.mk.inj hcierra
      exact ⟨rfl, rfl, rfl, rfl, rfl, rfl, rfl, fun p => List.Subset.refl _,
        fun p => Or.inl rfl, Or.inr ⟨rfl, rfl⟩⟩
  | clic _ _ => cases he
  | onFinish _ => cases he
  | onStop => cases he
  | onBackPressed => cases he

/-- Nothing is written, and match, counters and dialogs stay. -/
structure Quieta (m m' : MultPlayer) (ws : List Escritura) : Prop where
  writes : ws = []
  uid : m'.uid = m.uid
  jugadaId : m'.jugadaId = m.jugadaId
  jugada : m'.jugada = m.jugada
  cont1 : m'.cont1 = m.cont1
  cont2 : m'.cont2 = m.cont2
  dialogos : m'.dialogos = m.dialogos

/-- An event counts a tap, ends the match, or leaves both alone. -/
theorem react_efecto {vista : BaseDatos} {m m' : MultPlayer} {e : Suceso}
    {ws : List Escritura} (h : react vista m e = some (m', ws)) :
    (∃ imagen aleatorio j, e = .clic imagen aleatorio ∧
      Toque m imagen aleatorio j m' ws) ∨
    (e.esGameover = true ∧ ∃ j, (m.alLlamar e).jugada = some j ∧
      Termina (m.alLlamar e) j m' ws) ∨
    ((e.esCallado = true ∨ m.jugada = none) ∧ Quieta m m' ws) := by
  rcases e.clases with ⟨imagen, aleatorio, rfl⟩ | hgame | hcallado
  · obtain ⟨-, -, ⟨hj, rfl, rfl⟩ | ⟨j, ht⟩⟩ := react_clic h
    · exact Or.inr (Or.inr ⟨Or.inr hj, rfl, rfl, rfl, rfl, rfl, rfl, rfl⟩)
    · exact Or.inl ⟨imagen, aleatorio, j, rfl, ht⟩
  · right
    rcases react_gameover hgame h with hc | ht
    · right
      have hnone := (m.alLlamar_jugada_none e).mp hc.antes
      refine ⟨Or.inr hnone, hc.writes, ?_, ?_, ?_, ?_, ?_, ?_⟩
      · rw [hc.base.afin.uid, alLlamar_uid]
      · rw [hc.base.afin.jugadaId, alLlamar_jugadaId]
      · rw [hc.jugada, hnone]
      · rw [hc.base.afin.cont1, alLlamar_cont1]
      · rw [hc.base.afin.cont2, alLlamar_cont2]
      · rw [hc.dialogos, alLlamar_dialogos]
    · exact Or.inl ⟨hgame, ht⟩
  · have hc := react_callado hcallado h
    exact Or.inr (Or.inr ⟨Or.inl hcallado, hc.writes, hc.uid, hc.jugadaId,
      hc.jugada, hc.cont1, hc.cont2, hc.dialogos⟩)

/-! ## Snapshots -/

/-- What a snapshot that the listener takes does: it replaces the match, asks
for records while a name is missing, and opens a dialog only on abandonment. -/
structure Recibe (m : MultPlayer) (j : Jugada) (m' : MultPlayer) : Prop where
  afin : Afin m m'
  jugada : m'.jugada = some j
  userjUno : m'.userjUno = m.userjUno
  userjDos : m'.userjDos = m.userjDos
  pedidosUno :
    m'.pedidosUno = m.pedidosUno ∨
      ((m.nombreJuno = "" ∨ m.nombreJdos = "") ∧
        m'.pedidosUno = m.pedidosUno ++ [j.jugadorUnoID])
  pedidosDos :
    m'.pedidosDos = m.pedidosDos ∨
      ((m.nombreJuno = "" ∨ m.nombreJdos = "") ∧
        m'.pedidosDos = m.pedidosDos ++ [j.jugadorDosID])
  dialogos :
    m'.dialogos = m.dialogos ∨ (j.abandonoID ≠ "" ∧ AbreDialogo m j m')

theorem recibirDBjugada_recibe {m x : MultPlayer} {j : Jugada}
    (h : Recibe m j x) (hdial : x.dialogos = m.dialogos) :
    (recibirDBjugada x).writes = [] ∧
      Recibe m j (recibirDBjugada x).state := by
  have hver := h.afin.veredicto j
  unfold recibirDBjugada
  split
  next hnone =>
    rw [h.jugada] at hnone
    cases hnone
  next k hk =>
    rw [h.jugada] at hk
    cases hk
    split
    · exact ⟨rfl, h.afin, h.jugada, h.userjUno, h.userjDos,
        h.pedidosUno, h.pedidosDos,
        Or.inl hdial⟩
    next haband =>
      cases hreloj : x.countDownTimer with
      | none =>
          simp only [cancelaCountDownTimer, hreloj, falla,
            Outcome.andThen_mk_true, true_and]
          exact h
      | some t =>
          simp only [cancelaCountDownTimer, hreloj, sigue, dialogo_Gameover,
            h.jugada, Outcome.andThen_mk_false]
          split
          · exact ⟨rfl, h.afin, rfl, h.userjUno, h.userjDos, h.pedidosUno,
              h.pedidosDos, Or.inl hdial⟩
          · exact ⟨rfl, h.afin, rfl, h.userjUno, h.userjDos, h.pedidosUno,
              h.pedidosDos, Or.inr ⟨haband,
                Or.inr ⟨_, congrArg (· ++ [_]) hdial, hver⟩⟩⟩

/-- Asking for the records leaves everything but the requests alone. -/
theorem primeraJugada_recibe {m x : MultPlayer} {j : Jugada}
    (hx : x = { m with jugada := some j })
    (hnombres : m.nombreJuno = "" ∨ m.nombreJdos = "") :
    (primeraJugada j x).writes = [] ∧
      Recibe m j (primeraJugada j x).state ∧
      (primeraJugada j x).state.dialogos = m.dialogos := by
  subst hx
  by_cases huno : j.jugadorUnoID = ""
  · simp only [primeraJugada, getnombresJugadores, pideUserUno, pideUser, huno,
      if_true, falla, Outcome.andThen_mk_true, true_and, and_true]
    exact ⟨rfl, rfl, rfl, rfl, Or.inl rfl, Or.inl rfl, Or.inl rfl⟩
  · by_cases hdos : j.jugadorDosID = ""
    · simp only [primeraJugada, getnombresJugadores, pideUserUno, pideUserDos,
        pideUser, pedidos, conPedidos, huno, hdos, if_true, if_false, falla,
        sigue, List.nil_append, Outcome.andThen_mk_false,
        Outcome.andThen_mk_true, true_and, and_true]
      exact ⟨rfl, rfl, rfl, rfl, Or.inr ⟨hnombres, rfl⟩, Or.inl rfl,
        Or.inl rfl⟩
    · simp only [primeraJugada, getnombresJugadores, pideUserUno, pideUserDos,
        pideUser, huno, hdos, if_false, sigue, List.nil_append,
        Outcome.andThen_mk_false, true_and]
      exact ⟨⟨rfl, rfl, rfl, rfl, Or.inr ⟨hnombres, rfl⟩,
        Or.inr ⟨hnombres, rfl⟩, Or.inl rfl⟩, rfl⟩

theorem onEvent_recibe (m : MultPlayer) (j : Jugada) :
    (onEvent false (some j) m).writes = [] ∧
      Recibe m j (onEvent false (some j) m).state := by
  unfold onEvent
  simp only [Bool.false_eq_true, if_false]
  split
  next hnombres =>
    obtain ⟨hw, hrec, hdial⟩ :=
      primeraJugada_recibe (m := m) (j := j) rfl hnombres
    cases hp : primeraJugada j { m with jugada := some j } with
    | mk x ws failed =>
        rw [hp] at hw hrec hdial
        simp only at hw hrec hdial
        subst hw
        cases failed with
        | true => exact ⟨rfl, hrec⟩
        | false =>
            simp only [Outcome.andThen_mk_false, List.nil_append]
            exact recibirDBjugada_recibe hrec hdial
  · simp only [sigue, Outcome.andThen_mk_false, List.nil_append]
    exact recibirDBjugada_recibe
      ⟨rfl, rfl, rfl, rfl, Or.inl rfl, Or.inl rfl, Or.inl rfl⟩
      rfl

/-- The match with which the listener takes a snapshot, if it takes it. -/
def recogida (pendientes : List Escritura) (db : BaseDatos) (m : MultPlayer) :
    Option Jugada :=
  if m.caida ∨ pendientes.any (Escritura.toca m.jugadaId) then none
  else db.jugadas m.jugadaId

theorem recogida_eq_some {pendientes : List Escritura} {db : BaseDatos}
    {m : MultPlayer} {j : Jugada} :
    recogida pendientes db m = some j ↔
      m.caida = false ∧
        pendientes.any (Escritura.toca m.jugadaId) = false ∧
        db.jugadas m.jugadaId = some j := by
  unfold recogida
  rw [Option.ite_none_left_eq_some, not_or, Bool.not_eq_true, Bool.not_eq_true,
    and_assoc]

theorem snapshot_of_recogida {pendientes : List Escritura} {db : BaseDatos}
    {m : MultPlayer} {j : Jugada} (h : recogida pendientes db m = some j) :
    ∃ m', snapshot pendientes db m = (m', []) ∧ Recibe m j m' := by
  obtain ⟨hcaida, hpend, hdoc⟩ := recogida_eq_some.mp h
  obtain ⟨hw, hrec⟩ := onEvent_recibe m j
  refine ⟨(cierra (onEvent false (some j) m)).1, ?_, ?_⟩
  · simp only [snapshot, hcaida, hpend, hdoc, Bool.false_eq_true, if_false,
      cierra, hw]
  · exact ⟨hrec.afin, hrec.jugada, hrec.userjUno, hrec.userjDos,
      hrec.pedidosUno, hrec.pedidosDos, hrec.dialogos⟩

theorem snapshot_of_not_recogida {pendientes : List Escritura} {db : BaseDatos}
    {m : MultPlayer} (h : recogida pendientes db m = none) :
    snapshot pendientes db m = (m, []) := by
  have hquieta : cierra (sigue m) = (m, []) := by
    simp [cierra, sigue]
  unfold snapshot
  split
  · rfl
  next hcaida =>
    cases hpend : pendientes.any (Escritura.toca m.jugadaId) with
    | true =>
        cases hdoc : db.jugadas m.jugadaId with
        | none => exact hquieta
        | some j =>
            simp only [onEvent, if_true]
            exact hquieta
    | false =>
        simp only [recogida, hcaida, hpend, Bool.false_eq_true, or_self,
          if_false] at h
        rw [h]
        exact hquieta

/-- A snapshot is passed over, or it is taken with the match it shows. -/
theorem snapshot_cases (pendientes : List Escritura) (db : BaseDatos)
    (m : MultPlayer) :
    snapshot pendientes db m = (m, []) ∨
      (m.caida = false ∧
        pendientes.any (Escritura.toca m.jugadaId) = false ∧
        ∃ j m', db.jugadas m.jugadaId = some j ∧
          snapshot pendientes db m = (m', []) ∧ Recibe m j m') := by
  cases h : recogida pendientes db m with
  | none => exact Or.inl (snapshot_of_not_recogida h)
  | some j =>
      obtain ⟨hcaida, hpend, hdoc⟩ := recogida_eq_some.mp h
      obtain ⟨m', hsnap, hrec⟩ := snapshot_of_recogida h
      exact Or.inr ⟨hcaida, hpend, j, m', hdoc, hsnap, hrec⟩

end Tocate.MultPlayer

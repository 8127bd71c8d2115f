import Tocate.Lib.Cloud
import Tocate.Model.BaseDatos

/-!
# GameActivity

The solo game, one definition for each method.  The countdowns that run and the
dialogs on the screen are numbered in the order in which they were made; how
much time a countdown has left plays no part here, since it may expire at any
moment.  The images, their moves and the texts are left out.
-/

namespace Tocate

open Cloud

structure GameActivity where
  uid : String
  userjUno : Option Leido := none
  nombreJuno : String := ""
  puntosUid : ℤ := 0
  n : Fin 2 := 0
  isPause : Bool := false
  isParche : Bool := true
  countDownTimer : Option ℕ := none
  countDownTimeronResume : Option ℕ := none
  /-- Running countdowns of a round. -/
  relojes : List ℕ := []
  countDownTimerDial : Option ℕ := none
  relojesDial : List ℕ := []
  abiertos : List ℕ := []
  creados : ℕ := 0
  /-- The read of `getnombrePuntos` is still due. -/
  pedido : Bool := false
  /-- The delayed set-up of `onCreate` has run: the images can be tapped. -/
  preparada : Bool := false
  creada : Bool := false
  enFrente : Bool := false
  terminada : Bool := false
  caida : Bool := false
deriving DecidableEq, Repr

namespace GameActivity

def nueva (uid : String) : GameActivity where
  uid := uid

abbrev Turno := Outcome GameActivity Escritura

def sigue (m : GameActivity) : Turno := { state := m }

/-- An exception that nobody catches. -/
def falla (m : GameActivity) : Turno := { state := m, failed := true }

/-! ## Countdowns -/

def nuevoCountDownTimer (m : GameActivity) : GameActivity :=
  { m with
    countDownTimer := some m.creados
    relojes := m.relojes ++ [m.creados]
    creados := m.creados + 1 }

def nuevoCountDownTimeronResume (m : GameActivity) : GameActivity :=
  { m with
    countDownTimeronResume := some m.creados
    relojes := m.relojes ++ [m.creados]
    creados := m.creados + 1 }

def cancela (t : Option ℕ) (m : GameActivity) : GameActivity :=
  match t with
  | none => m
  | some t => { m with relojes := m.relojes.erase t }

/-- `countDownTimerDial.cancel()`. -/
def cancelaCountDownTimerDial (m : GameActivity) : Turno :=
  match m.countDownTimerDial with
  | none => falla m
  | some t => sigue { m with relojesDial := m.relojesDial.erase t }

/-! ## Taps -/

/-- `aleatorio` is what `new Random().nextInt(2)` draws. -/
def actualizarAciertos (aleatorio : Fin 2) (m : GameActivity) : GameActivity :=
  { m with n := aleatorio }

/-- The points after a tap on `fotoPerfil` under order `n`. -/
def puntosFotoPerfil (n : Fin 2) (puntosUid : ℤ) : ℤ :=
  match n with
  | 0 => puntosUid + 1
  | 1 => if puntosUid ≥ 0 then puntosUid - 1 else puntosUid

/-- The points after a tap on `IvjDos` under order `n`. -/
def puntosIvjDos (n : Fin 2) (puntosUid : ℤ) : ℤ :=
  match n with
  | 0 => if puntosUid ≥ 1 then puntosUid - 2 else puntosUid
  | 1 => puntosUid + 1

def onClickFotoPerfil (aleatorio : Fin 2) (m : GameActivity) : GameActivity :=
  actualizarAciertos aleatorio
    { m with puntosUid := puntosFotoPerfil m.n m.puntosUid }

def onClickIvjDos (aleatorio : Fin 2) (m : GameActivity) : GameActivity :=
  actualizarAciertos aleatorio
    { m with puntosUid := puntosIvjDos m.n m.puntosUid }

/-! ## Game over -/

def finish (m : GameActivity) : GameActivity := { m with terminada := true }

def dialogo_Gameover (m : GameActivity) : Turno :=
  -- a finished activity has no window left for the dialog
  if m.terminada && !m.enFrente then falla m
  else
    sigue
      { m with
        abiertos := m.abiertos ++ [m.creados]
        countDownTimerDial := some m.creados
        relojesDial := m.relojesDial ++ [m.creados]
        creados := m.creados + 1 }

/-- The record with the points of the round added and the round counted. -/
def acreditada (l : Leido) (puntosUid : ℤ) : Leido :=
  { l with
    user :=
      { l.user with
        points := l.user.points + puntosUid
        gameDone := l.user.gameDone + 1 } }

def funcionGameover (m : GameActivity) : Turno :=
  match m.userjUno with
  | none => falla { m with isPause := true }
  | some l =>
      ({ state :=
          { m with
            isPause := true
            userjUno := some (acreditada l m.puntosUid) }
         writes := [.setUser m.uid (acreditada l m.puntosUid)] :
        Turno }).andThen dialogo_Gameover

/-! ## Life cycle and replies -/

def onCreate (m : GameActivity) : Turno :=
  sigue { m with creada := true, pedido := true }

/-- The delayed set-up of `onCreate`. -/
def prepara (aleatorio : Fin 2) (m : GameActivity) : Turno :=
  sigue (actualizarAciertos aleatorio
    { m with puntosUid := 0, preparada := true })

/-- `onSuccess` of `getnombrePuntos`: the record, absent if there is none. -/
def recibeUser (u : Option User) (m : GameActivity) : Turno :=
  match u with
  | none => falla { m with userjUno := none, pedido := false }
  | some u =>
      sigue
        { m with
          pedido := false
          userjUno := some { de := m.uid, user := u }
          nombreJuno := recorta u.name }

def onResume (m : GameActivity) : GameActivity :=
  let m := { m with enFrente := true }
  if m.isPause then nuevoCountDownTimeronResume m else nuevoCountDownTimer m

def onPause (m : GameActivity) : GameActivity :=
  let m := { m with enFrente := false }
  let m :=
    match m.countDownTimer with
    | none => m
    | some _ => { cancela m.countDownTimer m with isPause := true }
  cancela m.countDownTimeronResume m

/-- A read that is due is bound to the activity and goes with it. -/
def onStop (m : GameActivity) : GameActivity := { m with pedido := false }

/-- `onBackPressed` starts the menu on top; the screen stays below it. -/
def onBackPressed (m : GameActivity) : GameActivity := m

/-- `onFinish` of the round countdown `t`. -/
def onFinish (t : ℕ) (m : GameActivity) : Turno :=
  let m := { m with relojes := m.relojes.erase t }
  if m.isParche then funcionGameover m else sigue m

/-- The button `reinicio` of dialog `d`. -/
def reiniciar (d : ℕ) (aleatorio : Fin 2) (m : GameActivity) : Turno :=
  (cancelaCountDownTimerDial
    { actualizarAciertos aleatorio { m with puntosUid := 0 } with
      abiertos := m.abiertos.erase d }).andThen fun m =>
    sigue (onResume { m with isPause := false, isParche := true })

/-- The button `ranking` of dialog `d`. -/
def ranking (d : ℕ) (m : GameActivity) : Turno :=
  (cancelaCountDownTimerDial
    { m with abiertos := m.abiertos.erase d }).andThen fun m =>
    sigue (finish m)

/-- `onFinish` of the countdown of dialog `d`. -/
def onFinishDial (d : ℕ) (m : GameActivity) : Turno :=
  sigue (finish
    { m with
      abiertos := m.abiertos.erase d
      relojesDial := m.relojesDial.erase d })

/-! ## The program of the screen -/

inductive Suceso where
  | onCreate
  | prepara (aleatorio : Fin 2)
  | user
  | clicFotoPerfil (aleatorio : Fin 2)
  | clicIvjDos (aleatorio : Fin 2)
  | onFinish (t : ℕ)
  | onResume
  | onPause
  | onStop
  | onBackPressed
  | reiniciar (d : ℕ) (aleatorio : Fin 2)
  | ranking (d : ℕ)
  | onFinishDial (d : ℕ)
deriving DecidableEq, Repr

/-- When an event can happen, and what handles it.  The dialog is modal, so
neither the images nor the back key work under it. -/
def atiende (vista : BaseDatos) (m : GameActivity) : Suceso → Option Turno
  | .onCreate => if m.creada then none else some m.onCreate
  | .prepara aleatorio =>
      if m.creada ∧ ¬m.preparada then some (m.prepara aleatorio) else none
  | .user =>
      if m.pedido then some (m.recibeUser (vista.users m.uid)) else none
  | .clicFotoPerfil aleatorio =>
      if m.preparada ∧ m.enFrente ∧ m.abiertos = [] then
        some (sigue (m.onClickFotoPerfil aleatorio))
      else none
  | .clicIvjDos aleatorio =>
      if m.preparada ∧ m.enFrente ∧ m.abiertos = [] then
        some (sigue (m.onClickIvjDos aleatorio))
      else none
  | .onFinish t => if t ∈ m.relojes then some (m.onFinish t) else none
  | .onResume =>
      if m.creada ∧ ¬m.enFrente ∧ ¬m.terminada then some (sigue m.onResume)
      else none
  | .onPause => if m.enFrente then some (sigue m.onPause) else none
  | .onStop =>
      if m.creada ∧ ¬m.enFrente then some (sigue m.onStop) else none
  | .onBackPressed =>
      if m.enFrente ∧ m.abiertos = [] then some (sigue m.onBackPressed)
      else none
  | .reiniciar d aleatorio =>
      if m.enFrente ∧ d ∈ m.abiertos then some (m.reiniciar d aleatorio)
      else none
  | .ranking d =>
      if m.enFrente ∧ d ∈ m.abiertos then some (m.ranking d) else none
  | .onFinishDial d =>
      if d ∈ m.relojesDial then some (m.onFinishDial d) else none

/-- An uncaught exception takes the app down. -/
def cierra (t : Turno) : GameActivity × List Escritura :=
  ({ t.state with caida := t.state.caida || t.failed }, t.writes)

def react (vista : BaseDatos) (m : GameActivity) (e : Suceso) :
    Option (GameActivity × List Escritura) :=
  if m.caida then none else (atiende vista m e).map cierra

/-! ## What an event does to the record -/

/-- The event is the end of a round. -/
def Suceso.esGameover : Suceso → Bool
  | .onFinish _ => true
  | _ => false

/-- The round ends with the record `l` loaded: it is written with the points
added. -/
structure Termina (m : GameActivity) (l : Leido) (m' : GameActivity)
    (ws : List Escritura) : Prop where
  antes : m.userjUno = some l
  despues : m'.userjUno = some (acreditada l m.puntosUid)
  uid : m'.uid = m.uid
  writes : ws = [.setUser m.uid (acreditada l m.puntosUid)]

/-- Nothing is written, and the loaded record stays. -/
structure Quieta (m m' : GameActivity) (ws : List Escritura) : Prop where
  userjUno : m'.userjUno = m.userjUno
  uid : m'.uid = m.uid
  writes : ws = []

/-- The record arrives, or there is none. -/
structure Lee (vista : BaseDatos) (m m' : GameActivity)
    (ws : List Escritura) : Prop where
  userjUno : m'.userjUno =
    (vista.users m.uid).map fun u => { de := m.uid, user := u }
  uid : m'.uid = m.uid
  writes : ws = []

theorem react_eq_some {vista : BaseDatos} {m m' : GameActivity} {e : Suceso}
    {ws : List Escritura} (h : react vista m e = some (m', ws)) :
    ∃ t, atiende vista m e = some t ∧ (m', ws) = cierra t := by
  obtain ⟨-, hmap⟩ := Option.ite_none_left_eq_some.mp h
  obtain ⟨t, ht, hcierra⟩ := Option.map_eq_some_iff.mp hmap
  exact ⟨t, ht, hcierra.symm⟩

/-- The end of a round: the record is credited, or the app goes down without
it, or a countdown of another round is passed over. -/
theorem onFinish_cases (t : ℕ) (m : GameActivity) :
    (m.isParche = true ∧ ∃ l, Termina m l (m.onFinish t).state
      (m.onFinish t).writes) ∨
    ((m.isParche = false ∨ m.userjUno = none) ∧
      Quieta m (m.onFinish t).state (m.onFinish t).writes) := by
  by_cases hparche : m.isParche = true
  · cases hl : m.userjUno with
    | none =>
        right
        refine ⟨Or.inr rfl, ?_⟩
        simp only [onFinish, hparche, if_true, funcionGameover, hl, falla]
        exact ⟨hl.symm, rfl, rfl⟩
    | some l =>
        left
        refine ⟨hparche, l, ?_⟩
        simp only [onFinish, hparche, if_true, funcionGameover, hl,
          Outcome.andThen_mk_false]
        unfold dialogo_Gameover
        split
        · exact ⟨hl, rfl, rfl, rfl⟩
        · exact ⟨hl, rfl, rfl, rfl⟩
  · right
    have hno : m.isParche = false := by simpa using hparche
    refine ⟨Or.inl hno, ?_⟩
    simp only [onFinish, hno, Bool.false_eq_true, if_false, sigue]
    exact ⟨rfl, rfl, rfl⟩

@[simp] theorem cancela_userjUno (t : Option ℕ) (m : GameActivity) :
    (cancela t m).userjUno = m.userjUno := by
  unfold cancela
  split <;> rfl

@[simp] theorem cancela_uid (t : Option ℕ) (m : GameActivity) :
    (cancela t m).uid = m.uid := by
  unfold cancela
  split <;> rfl

theorem quieta_onResume (m : GameActivity) : Quieta m m.onResume [] := by
  unfold onResume
  dsimp only
  split
  · exact ⟨rfl, rfl, rfl⟩
  · exact ⟨rfl, rfl, rfl⟩

theorem quieta_onPause (m : GameActivity) : Quieta m m.onPause [] := by
  unfold onPause
  dsimp only
  split
  · exact ⟨cancela_userjUno _ _, cancela_uid _ _, rfl⟩
  · refine ⟨?_, ?_, rfl⟩
    · rw [cancela_userjUno]
      exact cancela_userjUno _ _
    · rw [cancela_uid]
      exact cancela_uid _ _

theorem quieta_dial {m x : GameActivity} {f : GameActivity → GameActivity}
    (hx : Quieta m x []) (hf : ∀ y, Quieta y (f y) []) :
    Quieta m ((cancelaCountDownTimerDial x).andThen fun y => sigue (f y)).state
      ((cancelaCountDownTimerDial x).andThen fun y => sigue (f y)).writes := by
  unfold cancelaCountDownTimerDial
  split
  · exact hx
  next t ht =>
    have hy := hf { x with relojesDial := x.relojesDial.erase t }
    exact ⟨hy.userjUno.trans hx.userjUno, hy.uid.trans hx.uid, rfl⟩

/-- An event ends a round, reads the record, or does neither. -/
theorem react_cases {vista : BaseDatos} {m m' : GameActivity} {e : Suceso}
    {ws : List Escritura} (h : react vista m e = some (m', ws)) :
    (e.esGameover = true ∧ m.isParche = true ∧ ∃ l, Termina m l m' ws) ∨
    (e = .user ∧ Lee vista m m' ws) ∨
    (e ≠ .user ∧ (e.esGameover = false ∨ m.isParche = false ∨
      m.userjUno = none) ∧ Quieta m m' ws) := by
  obtain ⟨t, ht, hcierra⟩ := react_eq_some h
  obtain ⟨rfl, rfl⟩ := Prod.mk.inj hcierra
  have hquieta : e ≠ .user → e.esGameover = false → Quieta m t.state t.writes →
      (e.esGameover = true ∧ m.isParche = true ∧
        ∃ l, Termina m l (cierra t).1 (cierra t).2) ∨
      (e = .user ∧ Lee vista m (cierra t).1 (cierra t).2) ∨
      (e ≠ .user ∧ (e.esGameover = false ∨ m.isParche = false ∨
        m.userjUno = none) ∧ Quieta m (cierra t).1 (cierra t).2) :=
    fun he hg hq => Or.inr (Or.inr ⟨he, Or.inl hg, hq.userjUno, hq.uid, hq.writes⟩)
  cases e with
  | onCreate =>
      obtain ⟨-, ⟨⟩⟩ := Option.ite_none_left_eq_some.mp ht
      exact hquieta nofun rfl ⟨rfl, rfl, rfl⟩
  | prepara aleatorio =>
      obtain ⟨-, ⟨⟩⟩ := Option.ite_none_right_eq_some.mp ht
      exact hquieta nofun rfl ⟨rfl, rfl, rfl⟩
  | user =>
      obtain ⟨-, ⟨⟩⟩ := Option.ite_none_right_eq_some.mp ht
      refine Or.inr (Or.inl ⟨rfl, ?_⟩)
      unfold recibeUser
      split
      next hu => exact ⟨by rw [hu]; rfl, rfl, rfl⟩
      next u hu => exact ⟨by rw [hu]; rfl, rfl, rfl⟩
  | clicFotoPerfil aleatorio =>
      obtain ⟨-, ⟨⟩⟩ := Option.ite_none_right_eq_some.mp ht
      exact hquieta nofun rfl ⟨rfl, rfl, rfl⟩
  | clicIvjDos aleatorio =>
      obtain ⟨-, ⟨⟩⟩ := Option.ite_none_right_eq_some.mp ht
      exact hquieta nofun rfl ⟨rfl, rfl, rfl⟩
  | onFinish n =>
      obtain ⟨-, ⟨⟩⟩ := Option.ite_none_right_eq_some.mp ht
      rcases onFinish_cases n m with ⟨hparche, l, hl⟩ | ⟨hno, hq⟩
      · exact Or.inl ⟨rfl, hparche, l, hl.antes, hl.despues, hl.uid, hl.writes⟩
      · exact Or.inr (Or.inr ⟨nofun, Or.inr hno, hq.userjUno, hq.uid,
          hq.writes⟩)
  | onResume =>
      obtain ⟨-, ⟨⟩⟩ := Option.ite_none_right_eq_some.mp ht
      exact hquieta nofun rfl (quieta_onResume m)
  | onPause =>
      obtain ⟨-, ⟨⟩⟩ := Option.ite_none_right_eq_some.mp ht
      exact hquieta nofun rfl (quieta_onPause m)
  | onStop =>
      obtain ⟨-, ⟨⟩⟩ := Option.ite_none_right_eq_some.mp ht
      exact hquieta nofun rfl ⟨rfl, rfl, rfl⟩
  | onBackPressed =>
      obtain ⟨-, ⟨⟩⟩ := Option.ite_none_right_eq_some.mp ht
      exact hquieta nofun rfl ⟨rfl, rfl, rfl⟩
  | reiniciar d aleatorio =>
      obtain ⟨-, ⟨⟩⟩ := Option.ite_none_right_eq_some.mp ht
      refine hquieta nofun rfl (quieta_dial ⟨rfl, rfl, rfl⟩ fun y => ?_)
      have hy := quieta_onResume { y with isPause := false, isParche := true }
      exact ⟨hy.userjUno, hy.uid, rfl⟩
  | ranking d =>
      obtain ⟨-, ⟨⟩⟩ := Option.ite_none_right_eq_some.mp ht
      exact hquieta nofun rfl
        (quieta_dial ⟨rfl, rfl, rfl⟩ fun _ => ⟨rfl, rfl, rfl⟩)
  | onFinishDial d =>
      obtain ⟨-, ⟨⟩⟩ := Option.ite_none_right_eq_some.mp ht
      exact hquieta nofun rfl ⟨rfl, rfl, rfl⟩

end GameActivity

end Tocate

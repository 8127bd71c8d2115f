import Tocate.Lib.Cloud
import Tocate.Model.Documents

/-!
# TransisionActivity

The menu screen, as far as invitations go: its life cycle, the listeners of the
invitation query, the dialog that asks for an answer and the notification that
stands in for it while the screen is paused.  What a handler does to the outside
is listed as effects.

The buttons of the menu start other screens; what they do to this one are the
life cycle callbacks.
-/

namespace Tocate

open Cloud

/-- What the accept and cancel buttons are about. -/
inductive Tiponoti where
  | notifica
  | salir
deriving DecidableEq, Repr

/-- The effects of the screen on the rest of the app and on the database. -/
inductive Efecto where
  /-- `update("online", onLine)` at the user's record. -/
  | actulizarDBuser (onLine : String)
  /-- `FindGameActivity` is started with `pinvDirecta` and the id. -/
  | pinvDirecta (jugadaId : Option String)
  /-- `update("jugadorDosID", uid, "abandonoID", uid)`. -/
  | cancelarJugada (jugadaId : String)
  /-- A notification that starts `FindGameActivity` with `pinvDirecta`. -/
  | notify (jugadaId : String)
  | finishAffinity
deriving DecidableEq, Repr

/-- The fields of the activity, together with the listeners that are
registered, the dialogs on the screen and the countdowns that run.  A dialog and
its countdown have the same number. -/
structure Transision where
  uid : String
  /-- `null` until an invitation has been found. -/
  jugadaId : Option String := none
  jPausado : Bool := false
  contSalir : ℕ := 0
  /-- Running countdowns of `onBackPressed`. -/
  relojesSalir : ℕ := 0
  tiponoti : Option Tiponoti := none
  countDownTimerDial : Option ℕ := none
  relojesDial : List ℕ := []
  abiertos : List ℕ := []
  creados : ℕ := 0
  /-- How many listeners `DetectarJugada` has registered. -/
  oyentes : ℕ := 0
  notificacion : Option String := none
  creada : Bool := false
  caida : Bool := false
deriving DecidableEq, Repr

namespace Transision

def nueva (uid : String) : Transision where
  uid := uid

abbrev Turno := Outcome Transision Efecto

def sigue (m : Transision) : Turno := { state := m }

/-- An exception that nobody catches. -/
def falla (m : Transision) : Turno := { state := m, failed := true }

def haz (e : Efecto) (m : Transision) : Turno :=
  { state := m, writes := [e] }

def actulizarDBuser (onLine : String) : Transision → Turno :=
  haz (.actulizarDBuser onLine)

/-! ## Invitations -/

/-- One more listener is registered; none is ever removed. -/
def DetectarJugada (m : Transision) : Transision :=
  { m with oyentes := m.oyentes + 1 }

/-- The tests that `onEvent` makes on a document. -/
def pendiente (uid : String) (j : Jugada) : Bool :=
  decide (j.jugadorUnoID ≠ uid) && decide (j.jugadorDosID = "") &&
    decide (j.abandonoID = "") && decide (j.ganadorID = "")

/-- The first pending invitation of a snapshot. -/
def encontrada (uid : String) (value : List (String × Jugada)) :
    Option (String × Jugada) :=
  value.find? fun p => pendiente uid p.2

def crearNotificacionInterna (jugadaId : String) (m : Transision) : Turno :=
  haz (.notify jugadaId) { m with notificacion := some jugadaId }

/-- The dialog is shown and its countdown started; the field remembers the new
countdown only. -/
def dialogo_NotificacionJugada (m : Transision) : Transision :=
  { m with
    abiertos := m.abiertos ++ [m.creados]
    countDownTimerDial := some m.creados
    relojesDial := m.relojesDial ++ [m.creados]
    creados := m.creados + 1 }

/-- `onEvent` of the invitation query; an error comes without documents. -/
def onEvent (value : Option (List (String × Jugada))) (m : Transision) :
    Turno :=
  match value.bind (encontrada m.uid) with
  | none => sigue m
  | some (id, _) =>
      let m := { m with jugadaId := some id }
      if m.jPausado then crearNotificacionInterna id m
      else
        sigue { dialogo_NotificacionJugada m with tiponoti := some .notifica }

def cancelarJugada (m : Transision) : Turno :=
  match m.jugadaId with
  | none => falla m
  | some id => haz (.cancelarJugada id) m

/-- `countDownTimerDial.cancel()`. -/
def cancelaCountDownTimerDial (m : Transision) : Turno :=
  match m.countDownTimerDial with
  | none => falla m
  | some t => sigue { m with relojesDial := m.relojesDial.erase t }

def dismiss (d : ℕ) (m : Transision) : Turno :=
  sigue { m with abiertos := m.abiertos.erase d }

/-- `tiponoti.equals("notifica")` decides between two ways to go on. -/
def siNotifica (f g : Transision → Turno) (m : Transision) : Turno :=
  match m.tiponoti with
  | none => falla m
  | some .notifica => f m
  | some .salir => g m

/-- The button `Aceptar` of dialog `d`.  The call of `onDestroy` in the other
branch undoes nothing of what is kept here. -/
def aceptar (d : ℕ) (m : Transision) : Turno :=
  ((siNotifica (fun m => haz (.pinvDirecta m.jugadaId) m) sigue m).andThen
    cancelaCountDownTimerDial).andThen (dismiss d)

/-- The button `Cancelar` of dialog `d`. -/
def cancelar (d : ℕ) (m : Transision) : Turno :=
  ((siNotifica cancelarJugada sigue m).andThen
    cancelaCountDownTimerDial).andThen (dismiss d)

/-- `onFinish` of the countdown of dialog `d`. -/
def onFinishDial (d : ℕ) (m : Transision) : Turno :=
  (siNotifica cancelarJugada sigue
    { m with relojesDial := m.relojesDial.erase d }).andThen (dismiss d)

/-- The notification is tapped; the screen it starts takes it away. -/
def abreNotificacion (id : String) (m : Transision) : Turno :=
  haz (.pinvDirecta (some id)) { m with notificacion := none }

/-! ## Life cycle -/

def onCreate (m : Transision) : Turno :=
  (actulizarDBuser "on" { m with creada := true, jPausado := false }).andThen
    fun m => sigue (DetectarJugada m)

def onStart (m : Transision) : Turno :=
  (actulizarDBuser "on" m).andThen fun m =>
    let m := { DetectarJugada m with jPausado := false }
    if m.contSalir = 2 then
      sigue { dialogo_NotificacionJugada m with tiponoti := some .salir }
    else sigue m

def onResume (m : Transision) : Turno :=
  (actulizarDBuser "on" m).andThen fun m =>
    sigue { m with jPausado := false }

def onRestart (m : Transision) : Turno :=
  (actulizarDBuser "on" (DetectarJugada m)).andThen fun m =>
    sigue { m with jPausado := false }

def onStop (m : Transision) : Turno :=
  (actulizarDBuser "off" m).andThen fun m =>
    sigue (DetectarJugada { m with jPausado := true })

def onPause (m : Transision) : Turno :=
  sigue (DetectarJugada { m with jPausado := true })

def onBackPressed (m : Transision) : Turno :=
  (if m.contSalir = 0 then sigue { m with contSalir := m.contSalir + 1 }
    else (actulizarDBuser "off" m).andThen (haz .finishAffinity)).andThen
      fun m => sigue { m with relojesSalir := m.relojesSalir + 1 }

/-- `onFinish` of a countdown of `onBackPressed`. -/
def onFinishSalir (m : Transision) : Transision :=
  { m with contSalir := 0, relojesSalir := m.relojesSalir - 1 }

/-! ## The program of the screen -/

inductive Suceso where
  | onCreate
  | onStart
  | onResume
  | onRestart
  | onPause
  | onStop
  | onBackPressed
  | onFinishSalir
  /-- Listener `n` is given a snapshot of the query, or an error. -/
  | onEvent (n : ℕ) (value : Option (List (String × Jugada)))
  | aceptar (d : ℕ)
  | cancelar (d : ℕ)
  | onFinishDial (d : ℕ)
  | abreNotificacion
deriving DecidableEq, Repr

/-- When an event can happen, and what handles it.  The callbacks of the life
cycle are let happen in any order once the screen is created. -/
def atiende (m : Transision) : Suceso → Option Turno
  | .onCreate => if m.creada then none else some m.onCreate
  | .onStart => if m.creada then some m.onStart else none
  | .onResume => if m.creada then some m.onResume else none
  | .onRestart => if m.creada then some m.onRestart else none
  | .onPause => if m.creada then some m.onPause else none
  | .onStop => if m.creada then some m.onStop else none
  | .onBackPressed => if m.creada then some m.onBackPressed else none
  | .onFinishSalir =>
      if 0 < m.relojesSalir then some (sigue m.onFinishSalir) else none
  | .onEvent n value =>
      if n < m.oyentes ∧
          ∀ docs ∈ value, ∀ p ∈ docs, p.2.invitacionID = m.uid then
        some (m.onEvent value)
      else none
  | .aceptar d => if d ∈ m.abiertos then some (m.aceptar d) else none
  | .cancelar d => if d ∈ m.abiertos then some (m.cancelar d) else none
  | .onFinishDial d =>
      if d ∈ m.relojesDial then some (m.onFinishDial d) else none
  | .abreNotificacion => m.notificacion.map fun id => m.abreNotificacion id

/-- The screen, and what it has done so far. -/
structure Sesion where
  pantalla : Transision
  hechos : List Efecto
deriving DecidableEq, Repr

/-- An uncaught exception takes the app down. -/
def Sesion.cierra (s : Sesion) (t : Turno) : Sesion where
  pantalla := { t.state with caida := t.state.caida || t.failed }
  hechos := s.hechos ++ t.writes

def Sesion.step (s : Sesion) (e : Suceso) : Option Sesion :=
  if s.pantalla.caida then none else (atiende s.pantalla e).map s.cierra

def Sesion.inicial (uid : String) : Sesion where
  pantalla := nueva uid
  hechos := []

end Transision

end Tocate

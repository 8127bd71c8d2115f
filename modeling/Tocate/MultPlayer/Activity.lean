import Tocate.Lib.Cloud
import Tocate.Model.BaseDatos

/-!
# MultPlayerActivity

The match screen, one definition for each method.  A method ends early when it
dereferences an object that has not arrived; the writes issued up to that point
stay issued and the app is down from then on.

The texts on the screen are kept as the resource and its argument.  The images
are moved at random by `moverImangen`, which touches nothing that is modelled
here.
-/

namespace Tocate

open Cloud

/-- The two images that can be tapped. -/
inductive Imagen where
  | IvjUno
  | IvjDos
deriving DecidableEq, Repr

/-- The order on the screen: a string resource and its argument. -/
inductive Orden where
  | SetTocate
  | Toca (nombre : String)
  | SetTocateAti
deriving DecidableEq, Repr

/-- The verdict of the game-over dialog. -/
inductive Veredicto where
  | Ganaste (nombre : String)
  | Perdiste (nombre : String)
deriving DecidableEq, Repr

/-- The title of the game-over dialog. -/
inductive Titulo where
  | SetInicio2
  | abandonopartida (nombre : String)
deriving DecidableEq, Repr

/-- What one game-over dialog shows. -/
structure Dialogo where
  tvGanador : Veredicto
  tvTitulo : Titulo
  tvPuntos : ℤ
deriving DecidableEq, Repr

/-- The fields of the activity, together with what the system keeps for it:
the timers that run, the replies that are due and the dialogs on the screen.
Timers and dialogs are numbered in the order in which they were made. -/
structure MultPlayer where
  uid : String
  jugadaId : String
  jugada : Option Jugada := none
  userjUno : Option Leido := none
  userjDos : Option Leido := none
  nombreJuno : String := ""
  nombreJdos : String := ""
  n : ℕ := 0
  cont1 : ℤ := 0
  cont2 : ℤ := 0
  tvOrden : Option Orden := none
  tvAciertos : Option ℤ := none
  tvAciertos2 : Option ℤ := none
  countDownTimer : Option ℕ := none
  relojes : List ℕ := []
  countDownTimerDial : Option ℕ := none
  relojesDial : List ℕ := []
  creados : ℕ := 0
  /-- Dialogs on the screen, by number. -/
  abiertos : List ℕ := []
  /-- What every dialog opened so far has shown. -/
  dialogos : List Dialogo := []
  listenerJugada : Bool := false
  /-- Ids of the records asked for by `getnombresJugadores` and still due. -/
  pedidosUno : List String := []
  pedidosDos : List String := []
  iniciada : Bool := false
  terminada : Bool := false
  caida : Bool := false
deriving DecidableEq, Repr

namespace MultPlayer

/-- The instance as `onCreate` leaves it. -/
def creada (uid jugadaId : String) : MultPlayer where
  uid := uid
  jugadaId := jugadaId

abbrev Turno := Outcome MultPlayer Escritura

/-- A method that returns normally without writing. -/
def sigue (m : MultPlayer) : Turno := { state := m }

/-- An exception that nobody catches. -/
def falla (m : MultPlayer) : Turno := { state := m, failed := true }

/-! ## Label, clocks and dialogs -/

def EtTocate (m : MultPlayer) (varTocate : ℕ)
    (UidjugadorUno Uidjugadordos Uidtel : String) : MultPlayer :=
  { m with
    tvOrden :=
      match varTocate with
      | 0 => some .SetTocate
      | 1 =>
          if UidjugadorUno = Uidtel then some (.Toca m.nombreJdos)
          else some .SetTocateAti
      | 2 =>
          if Uidjugadordos = Uidtel then some (.Toca m.nombreJuno)
          else some .SetTocateAti
      | _ => m.tvOrden }

/-- `countDownTimer = new CountDownTimer(65000, 1000) {..}.start()`: the field
remembers the new timer only, the older ones go on running. -/
def nuevoCountDownTimer (m : MultPlayer) : MultPlayer :=
  { m with
    countDownTimer := some m.creados
    relojes := m.relojes ++ [m.creados]
    creados := m.creados + 1 }

/-- `countDownTimer.cancel()`. -/
def cancelaCountDownTimer (m : MultPlayer) : Turno :=
  match m.countDownTimer with
  | none => falla m
  | some t => sigue { m with relojes := m.relojes.erase t }

def finish (m : MultPlayer) : MultPlayer := { m with terminada := true }

/-- The verdict `dialogo_Gameover` shows. -/
def veredicto (m : MultPlayer) (j : Jugada) : Veredicto :=
  if j.puntosjugadorUnoID > j.puntosjugadorDosID then
    if j.jugadorUnoID = m.uid then .Ganaste m.nombreJuno
    else .Perdiste m.nombreJdos
  else
    if j.jugadorDosID = m.uid then .Ganaste m.nombreJdos
    else .Perdiste m.nombreJuno

/-- The title `dialogo_Gameover` shows. -/
def titulo (m : MultPlayer) (j : Jugada) (Salirjue : Bool) : Titulo :=
  if Salirjue then .SetInicio2
  else if j.jugadorUnoID = m.uid then .abandonopartida m.nombreJdos
  else .abandonopartida m.nombreJuno

def dialogo_Gameover (Salirjue : Bool) (m : MultPlayer) : Turno :=
  match m.jugada with
  | none => falla m
  | some j =>
      -- a destroyed activity has no window left for the dialog
      if m.terminada && !m.iniciada then falla m
      else
        sigue
          { m with
            dialogos := m.dialogos ++
              [{ tvGanador := m.veredicto j
                 tvTitulo := m.titulo j Salirjue
                 tvPuntos :=
                  if j.jugadorUnoID = m.uid then m.cont1 else m.cont2 }]
            abiertos := m.abiertos ++ [m.creados]
            countDownTimerDial := some m.creados
            relojesDial := m.relojesDial ++ [m.creados]
            creados := m.creados + 1 }

/-! ## Game over -/

/-- The winner: a tie goes to `jugadorDos`. -/
def ganador (j : Jugada) : String :=
  if j.puntosjugadorUnoID > j.puntosjugadorDosID then j.jugadorUnoID
  else j.jugadorDosID

def actualizarDBuser (m : MultPlayer) : Turno :=
  match m.jugada with
  | none => falla m
  | some j =>
      if j.jugadorUnoID = m.uid then
        match m.userjUno with
        | none => falla m
        | some u =>
            { state := { m with
                userjUno := some (u.acredita j.puntosjugadorUnoID) }
              writes := [.setUser m.uid (u.acredita j.puntosjugadorUnoID)] }
      else
        match m.userjDos with
        | none => falla m
        | some u =>
            { state := { m with
                userjDos := some (u.acredita j.puntosjugadorDosID) }
              writes := [.setUser m.uid (u.acredita j.puntosjugadorDosID)] }

def funcionGameover (m : MultPlayer) : Turno :=
  match m.jugada with
  | none => falla m
  | some j =>
      let j' := { j with ganadorID := ganador j }
      { state := { m with jugada := some j' }
        writes := [.setJugada m.jugadaId j'] : Turno }.andThen
        actualizarDBuser

/-! ## Taps -/

/-- The counters after a tap on `IvjUno` under order `n`. -/
def contadoresIvjUno (n : ℕ) (uid : String) (j : Jugada) (cont1 cont2 : ℤ) :
    ℤ × ℤ :=
  match n with
  | 0 =>
      if j.jugadorUnoID = uid then (cont1 + 1, j.puntosjugadorDosID)
      else (cont1, cont2)
  | 1 =>
      if j.jugadorDosID = uid then (j.puntosjugadorUnoID, cont2 + 1)
      else (cont1 - 1, j.puntosjugadorDosID)
  | 2 =>
      if j.jugadorUnoID = uid then (cont1 + 1, j.puntosjugadorDosID)
      else (j.puntosjugadorUnoID, cont2 - 1)
  | _ => (cont1, cont2)

/-- The counters after a tap on `IvjDos` under order `n`. -/
def contadoresIvjDos (n : ℕ) (uid : String) (j : Jugada) (cont1 cont2 : ℤ) :
    ℤ × ℤ :=
  match n with
  | 0 =>
      if j.jugadorDosID = uid then (j.puntosjugadorUnoID, cont2 + 1)
      else (cont1, cont2)
  | 1 =>
      if j.jugadorUnoID = uid then (cont1 + 1, j.puntosjugadorDosID)
      else
        (j.puntosjugadorUnoID, if cont2 > 0 then cont2 - 1 else cont2)
  | 2 =>
      if j.jugadorDosID = uid then (j.puntosjugadorUnoID, cont2 + 1)
      else
        (if cont1 > 0 then cont1 - 1 else cont1, j.puntosjugadorDosID)
  | _ => (cont1, cont2)

def contadores : Imagen → ℕ → String → Jugada → ℤ → ℤ → ℤ × ℤ
  | .IvjUno => contadoresIvjUno
  | .IvjDos => contadoresIvjDos

/-- `aleatorio` is what `new Random().nextInt(3)` draws. -/
def actualizarDBjugada (aleatorio : Fin 3) (m : MultPlayer) : Turno :=
  match m.jugada with
  | none => falla m
  | some j =>
      let j' :=
        { j with
          puntosjugadorUnoID := m.cont1
          puntosjugadorDosID := m.cont2
          tocate := aleatorio }
      { state := EtTocate
          { m with
            tvAciertos := some m.cont1
            tvAciertos2 := some m.cont2
            n := aleatorio
            jugada := some j' }
          aleatorio j'.jugadorUnoID j'.jugadorDosID m.uid
        writes := [.setJugada m.jugadaId j'] }

/-- `onClick` of the two images, as set by `eventoClic`. -/
def onClick (imagen : Imagen) (aleatorio : Fin 3) (m : MultPlayer) : Turno :=
  match m.jugada with
  | none => falla m
  | some j =>
      let m := EtTocate m m.n j.jugadorUnoID j.jugadorDosID m.uid
      let cont := contadores imagen m.n m.uid j m.cont1 m.cont2
      (actualizarDBjugada aleatorio
        { m with cont1 := cont.1, cont2 := cont.2 }).andThen fun m =>
          sigue (EtTocate m m.n j.jugadorUnoID j.jugadorDosID m.uid)

/-! ## Snapshots and records -/

/-- The seats of a match. -/
inductive Puesto where
  | uno
  | dos
deriving DecidableEq, Repr

/-- The reads of a seat that have not been answered. -/
def pedidos (m : MultPlayer) : Puesto → List String
  | .uno => m.pedidosUno
  | .dos => m.pedidosDos

/-- The record loaded for a seat. -/
def registro (m : MultPlayer) : Puesto → Option Leido
  | .uno => m.userjUno
  | .dos => m.userjDos

def conPedidos (p : Puesto) (ids : List String) (m : MultPlayer) : MultPlayer :=
  match p with
  | .uno => { m with pedidosUno := ids }
  | .dos => { m with pedidosDos := ids }

def conRegistro (p : Puesto) (u : Option Leido) (m : MultPlayer) :
    MultPlayer :=
  match p with
  | .uno => { m with userjUno := u }
  | .dos => { m with userjDos := u }

def conNombre (p : Puesto) (nombre : String) (m : MultPlayer) : MultPlayer :=
  match p with
  | .uno => { m with nombreJuno := nombre }
  | .dos => { m with nombreJdos := nombre }

/-- `db.collection("users").document(id).get()`; an empty id is refused. -/
def pideUser (p : Puesto) (id : String) (m : MultPlayer) : Turno :=
  if id = "" then falla m
  else sigue (conPedidos p (m.pedidos p ++ [id]) m)

def pideUserUno : String → MultPlayer → Turno :=
  pideUser .uno

def pideUserDos : String → MultPlayer → Turno :=
  pideUser .dos

def getnombresJugadores (m : MultPlayer) : Turno :=
  match m.jugada with
  | none => falla m
  | some j =>
      (pideUserUno j.jugadorUnoID m).andThen (pideUserDos j.jugadorDosID)

/-- `onSuccess` of a read of `getnombresJugadores`: the record of
`users/{id}`, absent if there is none. -/
def recibeUser (p : Puesto) (id : String) (u : Option User) (m : MultPlayer) :
    Turno :=
  match u with
  | none => falla (conRegistro p none m)
  | some u =>
      sigue (conNombre p (recorta u.name)
        (conRegistro p (some { de := id, user := u }) m))

def recibeUserUno : String → Option User → MultPlayer → Turno :=
  recibeUser .uno

def recibeUserDos : String → Option User → MultPlayer → Turno :=
  recibeUser .dos

def recibirDBjugada (m : MultPlayer) : Turno :=
  match m.jugada with
  | none => falla m
  | some j =>
      if j.abandonoID = "" then
        sigue (EtTocate
          { m with
            tvAciertos := some j.puntosjugadorUnoID
            tvAciertos2 := some j.puntosjugadorDosID }
          j.tocate j.jugadorUnoID j.jugadorDosID m.uid)
      else
        (cancelaCountDownTimer m).andThen (dialogo_Gameover false)

/-- The branch of `onEvent` for a match whose names are not known yet. -/
def primeraJugada (j : Jugada) (m : MultPlayer) : Turno :=
  (getnombresJugadores m).andThen fun m =>
    sigue (nuevoCountDownTimer
      (EtTocate { m with n := j.tocate } j.tocate
        j.jugadorUnoID j.jugadorDosID m.uid))

/-- `onEvent` of the listener: a local snapshot and an absent document are
passed over. -/
def onEvent (hasPendingWrites : Bool) (Snapshot : Option Jugada)
    (m : MultPlayer) : Turno :=
  match Snapshot with
  | none => sigue m
  | some j =>
      if hasPendingWrites then sigue m
      else
        let m := { m with jugada := some j }
        (if m.nombreJuno = "" ∨ m.nombreJdos = "" then primeraJugada j m
          else sigue m).andThen recibirDBjugada

/-! ## Life cycle -/

/-- `onFinish` of the match countdown `t`. -/
def onFinish (t : ℕ) (m : MultPlayer) : Turno :=
  (funcionGameover { m with relojes := m.relojes.erase t }).andThen
    (dialogo_Gameover true)

def onStart (m : MultPlayer) : Turno :=
  sigue { m with iniciada := true, listenerJugada := true }

/-- The listener and the replies still due are bound to the activity and go
with it. -/
def onStop (m : MultPlayer) : Turno :=
  (funcionGameover
    { m with
      iniciada := false
      listenerJugada := false
      pedidosUno := []
      pedidosDos := [] }).andThen cancelaCountDownTimer

def onBackPressed (m : MultPlayer) : Turno :=
  match m.jugada with
  | none => falla m
  | some j =>
      (funcionGameover
        { m with jugada := some { j with abandonoID := m.uid } }).andThen
          fun m => (cancelaCountDownTimer m).andThen
            fun m => sigue (finish m)

/-- The buttons `reinicio` and `ranking` of dialog `d`: both leave the screen
and cancel the dialog countdown that the field remembers. -/
def botonDialogo (d : ℕ) (m : MultPlayer) : Turno :=
  match m.countDownTimerDial with
  | none => falla m
  | some t =>
      sigue (finish
        { m with
          abiertos := m.abiertos.erase d
          relojesDial := m.relojesDial.erase t })

/-- `onFinish` of the countdown of dialog `d`. -/
def onFinishDial (d : ℕ) (m : MultPlayer) : Turno :=
  sigue (finish
    { m with
      abiertos := m.abiertos.erase d
      relojesDial := m.relojesDial.erase d })

/-! ## The program of the screen -/

inductive Suceso where
  | clic (imagen : Imagen) (aleatorio : Fin 3)
  | userUno
  | userDos
  | onFinish (t : ℕ)
  | onStart
  | onStop
  | onBackPressed
  | botonDialogo (d : ℕ)
  | onFinishDial (d : ℕ)
deriving DecidableEq, Repr

/-- The oldest read of a seat is answered by `onSuccess`. -/
def atiendeUser (vista : BaseDatos) (m : MultPlayer) (p : Puesto)
    (onSuccess : String → Option User → MultPlayer → Turno) : Option Turno :=
  match m.pedidos p with
  | [] => none
  | id :: resto =>
      some (onSuccess id (vista.users id) (conPedidos p resto m))

/-- The reply to the read of a seat. -/
def Suceso.user : Puesto → Suceso
  | .uno => .userUno
  | .dos => .userDos

/-- When an event can happen, and what handles it.  The dialog is modal: while
one is open neither the images nor the back key reach the activity. -/
def atiende (vista : BaseDatos) (m : MultPlayer) : Suceso → Option Turno
  | .clic imagen aleatorio =>
      if m.iniciada ∧ m.abiertos = [] then some (onClick imagen aleatorio m)
      else none
  | .userUno => atiendeUser vista m .uno recibeUserUno
  | .userDos => atiendeUser vista m .dos recibeUserDos
  | .onFinish t => if t ∈ m.relojes then some (onFinish t m) else none
  | .onStart =>
      if ¬m.iniciada ∧ ¬m.terminada then some (onStart m) else none
  | .onStop => if m.iniciada then some (onStop m) else none
  | .onBackPressed =>
      if m.iniciada ∧ ¬m.terminada ∧ m.abiertos = [] then
        some (onBackPressed m)
      else none
  | .botonDialogo d =>
      if m.iniciada ∧ d ∈ m.abiertos then some (botonDialogo d m) else none
  | .onFinishDial d =>
      if d ∈ m.relojesDial then some (onFinishDial d m) else none

/-- An uncaught exception takes the app down. -/
def cierra (t : Turno) : MultPlayer × List Escritura :=
  ({ t.state with caida := t.state.caida || t.failed }, t.writes)

def react (vista : BaseDatos) (m : MultPlayer) (e : Suceso) :
    Option (MultPlayer × List Escritura) :=
  if m.caida then none else (atiende vista m e).map cierra

/-- A listener is told that a snapshot is local while a write of its client on
the same document has not arrived. -/
def snapshot (pendientes : List Escritura) (db : BaseDatos) (m : MultPlayer) :
    MultPlayer × List Escritura :=
  if m.caida then (m, [])
  else
    cierra (onEvent (pendientes.any (Escritura.toca m.jugadaId))
      (db.jugadas m.jugadaId) m)

def escucha (m : MultPlayer) : Bool := m.listenerJugada && !m.caida

end MultPlayer

end Tocate

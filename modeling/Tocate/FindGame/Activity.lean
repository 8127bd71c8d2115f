import Tocate.Lib.Cloud
import Tocate.Model.BaseDatos

/-!
# FindGameActivity

The screen that looks for an opponent, one definition for each method.  What
the system keeps for an instance stands beside its fields: the reply it waits
for, the listeners that are registered, the snapshots on their way to them and
the delayed calls of `starGame`.

The texts, the menu and the sharing of the link are left out.
-/

namespace Tocate

open Cloud

/-- The extras of the intent: `EXTRA_TIPO_PARTIDA` and what comes with it.
`nueva` is the id that the database generates for a new game. -/
inductive TipoPartida where
  | pLibre
  | pinvDirecta (partidaID : String)
  | cearDynamickLink (nueva : String)
  | Invita (IDusuario nueva : String)
  /-- No extra: the screen was opened by a link. -/
  | null
deriving DecidableEq, Repr

/-- The reply an instance waits for before anything else happens to it. -/
inductive Espera where
  | onCreate
  | getDynamicLink
  | get
  /-- The query is answered, and its reply on the way. -/
  | onComplete (docs : List (String × Jugada))
  | nada
deriving DecidableEq, Repr

structure FindGame where
  uid : String
  jugadaId : String := ""
  crearInv : Bool := false
  /-- The listener the field remembers; the older ones stay registered. -/
  listenerRegistration : Option ℕ := none
  registros : List (ℕ × String) := []
  creados : ℕ := 0
  eventos : List (ℕ × Option Jugada) := []
  /-- Pending `postDelayed` calls of `starGame`. -/
  handler : ℕ := 0
  espera : Espera := .onCreate
  /-- The ids with which the match screen has been started. -/
  empezadas : List String := []
  iniciada : Bool := false
  terminada : Bool := false
  caida : Bool := false
deriving DecidableEq, Repr

namespace FindGame

def nueva (uid : String) : FindGame where
  uid := uid

abbrev Turno := Outcome FindGame Escritura

def sigue (f : FindGame) : Turno := { state := f }

/-- An exception that nobody catches. -/
def falla (f : FindGame) : Turno := { state := f, failed := true }

/-! ## Waiting for the other player -/

def quitaListener (f : FindGame) : FindGame :=
  match f.listenerRegistration with
  | none => f
  | some n => { f with registros := f.registros.filter fun r => r.1 ≠ n }

def starGame (f : FindGame) : FindGame :=
  { f.quitaListener with
    empezadas := f.empezadas ++ [f.jugadaId]
    jugadaId := "" }

def esperarJugador (f : FindGame) : FindGame :=
  { f with
    listenerRegistration := some f.creados
    registros := f.registros ++ [(f.creados, f.jugadaId)]
    creados := f.creados + 1 }

/-- `onEvent` of the listener; the document may be gone. -/
def onEvent (documentSnapshot : Option Jugada) (f : FindGame) : Turno :=
  match documentSnapshot with
  | none => falla f
  | some j =>
      if j.jugadorDosID ≠ "" then sigue { f with handler := f.handler + 1 }
      else sigue f

def run (f : FindGame) : FindGame :=
  starGame { f with handler := f.handler - 1 }

/-! ## Free search -/

def crearNuevaJugada (id : String) (f : FindGame) : Turno :=
  { state := f, writes := [.addJugada id (Jugada.nueva f.uid "")] }

/-- The loop over the games found: one that does not suit makes the screen
create a game, one that suits is claimed and ends the loop. -/
def recorre : List (String × Jugada) → List String → FindGame → Turno
  | [], _, f => sigue f
  | (id, j) :: docs, nuevas, f =>
      if j.invitacionID = "" ∧ j.jugadorUnoID ≠ f.uid then
        { state := { f with jugadaId := id }
          writes := [.reclamar id { j with jugadorDosID := f.uid }] }
      else
        (crearNuevaJugada (nuevas.headD "") f).andThen
          (recorre docs nuevas.tail)

/-- `onComplete` of the query of `buscarJugadaLibre`. -/
def onComplete (docs : List (String × Jugada)) (nuevas : List String)
    (f : FindGame) : Turno :=
  if docs.length = 0 then crearNuevaJugada (nuevas.headD "") f
  else recorre docs nuevas f

/-! ## Invitations and links -/

def crearNuevaJugadaRef (id IDusuario : String) (f : FindGame) : Turno :=
  { state := f, writes := [.addJugada id (Jugada.nueva f.uid IDusuario)] }

/-- `document("")` is refused with an exception.  The ids of games have no `/`,
so that what else `document` refuses is left out here. -/
def buscarJugadaRef (f : FindGame) : Turno :=
  if f.jugadaId = "" then falla f
  else { state := f, writes := [.unirse f.jugadaId f.uid] }

/-- `s.substring(s.lastIndexOf(c) + 1)`. -/
def trasUltimo (c : Char) (s : List Char) : List Char :=
  (s.reverse.takeWhile fun x => x ≠ c).reverse

/-- `s.substring(0, s.lastIndexOf(c))`: an exception where `c` is missing. -/
def hastaUltimo (c : Char) (s : List Char) : Option (List Char) :=
  if c ∈ s then some (s.reverse.dropWhile fun x => x ≠ c).tail.reverse
  else none

/-- `idJugadaRef` and `idJugadorUno`, as the link spells them. -/
def leeEnlace (deepLink : List Char) : Option (List Char × List Char) :=
  let referenceLink := trasUltimo '?' deepLink
  (hastaUltimo '-' referenceLink).map fun idJugadaRef =>
    (idJugadaRef, trasUltimo '-' referenceLink)

/-- `onSuccess` of `getDynamicLink`.  An exception is caught: the link is
broken. -/
def linkReception (deepLink : Option (List Char)) (f : FindGame) : Turno :=
  match deepLink.bind leeEnlace with
  | none => sigue f
  | some (idJugadaRef, _) =>
      let t := buscarJugadaRef { f with jugadaId := String.ofList idJugadaRef }
      { t with failed := false }

def optenerTipoJugada (tipo : TipoPartida) (f : FindGame) : Turno :=
  match tipo with
  | .null => sigue { f with espera := .getDynamicLink }
  | .Invita IDusuario nueva =>
      crearNuevaJugadaRef nueva IDusuario
        { f with espera := .nada, crearInv := false }
  | .pinvDirecta partidaID =>
      buscarJugadaRef { f with espera := .nada, jugadaId := partidaID }
  | .pLibre => sigue { f with espera := .get, crearInv := false }
  | .cearDynamickLink nueva =>
      crearNuevaJugadaRef nueva f.uid
        { f with espera := .nada, crearInv := true }

/-! ## Life cycle and replies -/

/-- A reply to `getDynamicLink` is bound to the started activity. -/
def onStop (f : FindGame) : Turno :=
  let f :=
    { f with
      iniciada := false
      espera := if f.espera = .getDynamicLink then .nada else f.espera }
  if f.crearInv then sigue f
  else
    let f := f.quitaListener
    if f.jugadaId ≠ "" then
      { state := f, writes := [.deleteJugada f.jugadaId] }
    else sigue f

def onBackPressed (f : FindGame) : FindGame :=
  { f with terminada := true, crearInv := false }

/-- The callbacks of the writes. -/
def recibido (w : Escritura) (ok : Bool) (f : FindGame) : FindGame :=
  match w, ok with
  | .addJugada id _, true => esperarJugador { f with jugadaId := id }
  | .reclamar _ _, true => f.starGame
  | .unirse _ _, true => f.starGame
  | .unirse _ _, false => { f with terminada := true }
  | .deleteJugada _, _ => { f with jugadaId := "" }
  | _, _ => f

/-! ## The program of the screen -/

inductive Suceso where
  | onCreate (tipo : TipoPartida)
  | linkReception (deepLink : Option (List Char))
  /-- The server answers the query `jugadorDosID == ""`. -/
  | responde (docs : List (String × Jugada))
  /-- The query fails. -/
  | noResponde
  /-- The reply arrives; `nuevas` are the ids that `add` generates. -/
  | onComplete (nuevas : List String)
  /-- The server sends listener `n` the document it listens to. -/
  | emite (n : ℕ)
  | onEvent
  | run
  | onStart
  | onStop
  | onBackPressed
deriving DecidableEq, Repr

def atiende (db : BaseDatos) (f : FindGame) : Suceso → Option Turno
  | .onCreate tipo =>
      if f.espera = .onCreate then some (optenerTipoJugada tipo f) else none
  | .linkReception deepLink =>
      if f.espera = .getDynamicLink ∧ f.iniciada then
        some (linkReception deepLink { f with espera := .nada })
      else none
  | .responde docs =>
      if f.espera = .get ∧
          ∀ p ∈ docs, db.jugadas p.1 = some p.2 ∧ p.2.jugadorDosID = "" then
        some (sigue { f with espera := .onComplete docs })
      else none
  | .noResponde =>
      if f.espera = .get then some (sigue { f with espera := .nada }) else none
  | .onComplete nuevas =>
      match f.espera with
      | .onComplete docs =>
          if docs.length < nuevas.length ∧ "" ∉ nuevas then
            some (onComplete docs nuevas { f with espera := .nada })
          else none
      | _ => none
  | .emite n =>
      match f.registros.find? fun r => r.1 = n with
      | none => none
      | some r =>
          some (sigue { f with eventos := f.eventos ++ [(n, db.jugadas r.2)] })
  | .onEvent =>
      match f.eventos with
      | [] => none
      | (n, snap) :: eventos =>
          let f := { f with eventos := eventos }
          -- nothing reaches a listener that has been removed
          if n ∈ f.registros.map Prod.fst then some (onEvent snap f)
          else some (sigue f)
  | .run => if 0 < f.handler then some (sigue f.run) else none
  | .onStart =>
      if f.espera ≠ .onCreate ∧ ¬f.iniciada ∧ ¬f.terminada then
        some (sigue { f with iniciada := true })
      else none
  | .onStop => if f.iniciada then some f.onStop else none
  | .onBackPressed =>
      if f.iniciada ∧ ¬f.terminada then some (sigue f.onBackPressed) else none

/-- An uncaught exception takes the app down. -/
def cierra (t : Turno) : FindGame × List Escritura :=
  ({ t.state with caida := t.state.caida || t.failed }, t.writes)

def react (db : BaseDatos) (f : FindGame) (e : Suceso) :
    Option (FindGame × List Escritura) :=
  if f.caida then none else (atiende db f e).map cierra

def ack (w : Escritura) (ok : Bool) (f : FindGame) : FindGame :=
  if f.caida then f else f.recibido w ok

end FindGame

end Tocate

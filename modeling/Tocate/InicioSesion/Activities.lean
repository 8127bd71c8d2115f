import Tocate.Lib.Cloud
import Tocate.Model.Documents

/-!
# MainActivity, RegistoActivity and LoginActivity

The screens on which a user signs in.  Their methods read who is signed in and
what the Facebook SDK knows; they store a new record or start the menu, which is
listed as orders.  Which parts of a screen are shown plays a part only where it
keeps a button from being pressed.

The reads and writes of `updateUI` are not bound to the screen: their replies
come even when it is finished.  The tasks of the authentication are bound to it
and are forgotten when it stops; whatever comes of them, who is signed in is up
to the authentication.
-/

namespace Tocate.InicioSesion

open Cloud

inductive Orden where
  /-- `set(user)` at `users/{uid}`, and whether the server accepts it. -/
  | set (uid : String) (user : User) (aceptado : Bool)
  /-- `startActivity` of `TransisionActivity`. -/
  | lanza
deriving DecidableEq, Repr

/-- `AccessToken.getCurrentAccessToken() != null`, and the name in
`Profile.getCurrentProfile()`. -/
structure Facebook where
  accessToken : Bool
  profile : Option String
deriving DecidableEq, Repr

/-- `new User(name, 0, 0, user.getUid())`. -/
def nuevoUsuario (name uid : String) : User := User.nuevo name 0 0 uid

/-! ## MainActivity -/

structure MainActivity where
  name : String := ""
  /-- The listener for the state of the authentication is registered. -/
  escucha : Bool := false
  iniciada : Bool := false
  terminada : Bool := false
  /-- Whose records `updateUI` has asked for; the replies are due. -/
  pedidos : List String := []
  /-- Whose new records have been accepted; the replies are due. -/
  avisos : List String := []
deriving DecidableEq, Repr

namespace MainActivity

abbrev Turno := Outcome MainActivity Orden

def sigue (m : MainActivity) : Turno := { state := m }

/-- `finish()` and the start of the menu. -/
def lanza (m : MainActivity) : Turno :=
  { state := { m with terminada := true }, writes := [.lanza] }

/-- The record of the user is asked for where the profile has a name, and the
menu is started in any case. -/
def updateUI (fb : Facebook) (user : Option String) (m : MainActivity) :
    Turno :=
  match user with
  | none => sigue m
  | some uid =>
      match fb.accessToken, fb.profile with
      | true, some nombre =>
          lanza { m with name := nombre, pedidos := m.pedidos ++ [uid] }
      | _, _ => lanza m

def onStart (fb : Facebook) (user : Option String) (m : MainActivity) : Turno :=
  updateUI fb user { m with iniciada := true, escucha := true }

def onStop (m : MainActivity) : Turno :=
  sigue { m with iniciada := false, escucha := false }

def onAuthStateChanged (fb : Facebook) (user : Option String)
    (m : MainActivity) : Turno :=
  match user with
  | none => sigue m
  | some uid => updateUI fb (some uid) m

/-- `onSuccess` of the read, whether the document is there or not. -/
def getOnSuccess (uid : String) (m : MainActivity) : Turno :=
  lanza { m with pedidos := m.pedidos.erase uid }

/-- `onFailure` of the read stores a new record. -/
def getOnFailure (uid : String) (aceptado : Bool) (m : MainActivity) : Turno :=
  { state :=
      { m with
        pedidos := m.pedidos.erase uid
        avisos := if aceptado then m.avisos ++ [uid] else m.avisos }
    writes := [.set uid (nuevoUsuario m.name uid) aceptado] }

/-- `onSuccess` of the write. -/
def setOnSuccess (uid : String) (m : MainActivity) : Turno :=
  lanza { m with avisos := m.avisos.erase uid }

inductive Suceso where
  | onStart
  | onStop
  | onAuthStateChanged
  | getOnSuccess (uid : String)
  | getOnFailure (uid : String) (aceptado : Bool)
  | setOnSuccess (uid : String)
deriving DecidableEq, Repr

def atiende (fb : Facebook) (user : Option String) (m : MainActivity) :
    Suceso → Option Turno
  | .onStart =>
      if ¬m.iniciada ∧ ¬m.terminada then some (onStart fb user m) else none
  | .onStop => if m.iniciada then some (onStop m) else none
  | .onAuthStateChanged =>
      if m.escucha then some (onAuthStateChanged fb user m) else none
  | .getOnSuccess uid =>
      if uid ∈ m.pedidos then some (getOnSuccess uid m) else none
  | .getOnFailure uid aceptado =>
      if uid ∈ m.pedidos then some (getOnFailure uid aceptado m) else none
  | .setOnSuccess uid =>
      if uid ∈ m.avisos then some (setOnSuccess uid m) else none

end MainActivity

/-! ## The two forms -/

inductive Campo where
  | etName
  | etEmail
  | etPassword
deriving DecidableEq, Repr

structure RegistoActivity where
  etName : String := ""
  name : String := ""
  email : String := ""
  password : String := ""
  error : Option (Campo × String) := none
  /-- The form is shown, and not the progress bar. -/
  formulario : Bool := true
  /-- Calls of `onComplete` that are due. -/
  tareas : ℕ := 0
  avisos : List String := []
  terminada : Bool := false
deriving DecidableEq, Repr

namespace RegistoActivity

abbrev Turno := Outcome RegistoActivity Orden

def sigue (m : RegistoActivity) : Turno := { state := m }

def CrearUsuario (m : RegistoActivity) : Turno :=
  sigue { m with formulario := false, tareas := m.tareas + 1 }

/-- The button `btRegistrar` with these texts in the form. -/
def clic (name email password : String) (m : RegistoActivity) : Turno :=
  let m :=
    { m with etName := name, name := name, email := email
             password := password }
  if longitud name.toList ≤ 4 then
    sigue { m with error := some (.etName, "El nombre es obligatorio") }
  else if email = "" then
    sigue { m with error := some (.etEmail, "El Correo es obligatorio") }
  else if longitud password.toList ≤ 5 then
    sigue
      { m with
        error := some (.etPassword,
          "La contraseña es insegura, introduzca minimo 6 caracteres") }
  else CrearUsuario m

def updateUI (user : Option String) (aceptado : Bool) (m : RegistoActivity) :
    Turno :=
  match user with
  | some uid =>
      let m := { m with name := m.etName }
      { state :=
          { m with
            avisos := if aceptado then m.avisos ++ [uid] else m.avisos }
        writes := [.set uid (nuevoUsuario m.name uid) aceptado] }
  | none =>
      sigue
        { m with
          formulario := true
          error := some (.etPassword,
            "Algo esta mal, Usuario no puede ser nulo") }

/-- `onComplete` of `createUserWithEmailAndPassword`. -/
def onComplete (exito : Bool) (user : Option String) (aceptado : Bool)
    (m : RegistoActivity) : Turno :=
  updateUI (if exito then user else none) aceptado
    { m with tareas := m.tareas - 1 }

def setOnSuccess (uid : String) (m : RegistoActivity) : Turno :=
  { state := { m with avisos := m.avisos.erase uid, terminada := true }
    writes := [.lanza] }

inductive Suceso where
  | clic (name email password : String)
  | onComplete (exito aceptado : Bool)
  | setOnSuccess (uid : String)
  | onStop
deriving DecidableEq, Repr

def atiende (user : Option String) (m : RegistoActivity) :
    Suceso → Option Turno
  | .clic name email password =>
      if m.formulario ∧ ¬m.terminada then some (clic name email password m)
      else none
  | .onComplete exito aceptado =>
      if 0 < m.tareas then some (onComplete exito user aceptado m) else none
  | .setOnSuccess uid =>
      if uid ∈ m.avisos then some (setOnSuccess uid m) else none
  | .onStop => some (sigue { m with tareas := 0 })

end RegistoActivity

structure LoginActivity where
  email : String := ""
  password : String := ""
  error : Option (Campo × String) := none
  /-- Calls of `onComplete` that are due. -/
  tareas : ℕ := 0
  terminada : Bool := false
deriving DecidableEq, Repr

namespace LoginActivity

abbrev Turno := Outcome LoginActivity Orden

def sigue (m : LoginActivity) : Turno := { state := m }

def iniciarSesion (m : LoginActivity) : Turno :=
  sigue { m with tareas := m.tareas + 1 }

/-- The button `btlogin` with these texts in the form. -/
def clic (email password : String) (m : LoginActivity) : Turno :=
  let m := { m with email := email, password := password }
  if email = "" then
    sigue { m with error := some (.etEmail, "El Correo es obligatorio") }
  else if password = "" then
    sigue { m with error := some (.etPassword, "La contrasña es obligatorio") }
  else iniciarSesion m

def updateUI (user : Option String) (m : LoginActivity) : Turno :=
  match user with
  | some _ => { state := { m with terminada := true }, writes := [.lanza] }
  | none =>
      sigue
        { m with
          error := some (.etPassword, "Error en Usuario O contraseña ") }

/-- `onComplete` of `signInWithEmailAndPassword`. -/
def onComplete (exito : Bool) (user : Option String) (m : LoginActivity) :
    Turno :=
  updateUI (if exito then user else none) { m with tareas := m.tareas - 1 }

inductive Suceso where
  | clic (email password : String)
  | onComplete (exito : Bool)
  | onStop
deriving DecidableEq, Repr

def atiende (user : Option String) (m : LoginActivity) : Suceso → Option Turno
  | .clic email password =>
      if ¬m.terminada then some (clic email password m) else none
  | .onComplete exito =>
      if 0 < m.tareas then some (onComplete exito user m) else none
  | .onStop => some (sigue { m with tareas := 0 })

end LoginActivity

end Tocate.InicioSesion

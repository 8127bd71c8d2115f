import Tocate.InicioSesion.Activities
import Tocate.Model.BaseDatos
import Tocate.Lib.Runs

/-!
# Signing in on a device

Any number of instances of the three screens, who is signed in, and the menus
they have started.  A menu looks up who is signed in when it is created and asks
for that user's record, which it needs.  Who is signed in and what the Facebook
SDK knows change at any moment, and the rest of the app stores records; no
record is ever deleted.
-/

namespace Tocate.InicioSesion

open Cloud

variable {ι : Type*}

/-- A `TransisionActivity`, as far as `getnombrePuntos` goes. -/
structure Menu where
  /-- Who was signed in when it was created. -/
  uid : Option String
  userjUno : Option User := none
  nombreJuno : String := ""
  caida : Bool := false
deriving DecidableEq, Repr

namespace Menu

/-- `getCurrentUser().getUid()` throws where nobody is signed in. -/
def onCreate (user : Option String) : Menu where
  uid := user
  caida := user.isNone

/-- `onSuccess` of `getnombrePuntos`: `get("name").toString()` throws where the
document is absent. -/
def getnombrePuntos (u : Option User) (m : Menu) : Menu :=
  match u with
  | none => { m with userjUno := none, caida := true }
  | some u => { m with userjUno := some u, nombreJuno := u.name }

end Menu

structure Entrada (ι : Type*) where
  db : BaseDatos
  currentUser : Option String
  facebook : Facebook
  main : ι → MainActivity
  registo : ι → RegistoActivity
  login : ι → LoginActivity
  /-- The menus started so far, the newest last. -/
  menus : List Menu

def inicial (db : BaseDatos) (user : Option String) (fb : Facebook) :
    Entrada ι where
  db := db
  currentUser := user
  facebook := fb
  main := fun _ => {}
  registo := fun _ => {}
  login := fun _ => {}
  menus := []

inductive Suceso (ι : Type*) where
  | main (i : ι) (e : MainActivity.Suceso)
  | registo (i : ι) (e : RegistoActivity.Suceso)
  | login (i : ι) (e : LoginActivity.Suceso)
  /-- The read of the `n`-th menu is answered. -/
  | getnombrePuntos (n : ℕ)
  /-- The authentication changes who is signed in. -/
  | sesion (user : Option String)
  | facebook (fb : Facebook)
  /-- The rest of the app stores a record. -/
  | guarda (x : String) (u : User)
deriving DecidableEq

namespace Entrada

/-- What an order of a screen does. -/
def cumple (s : Entrada ι) : Orden → Entrada ι
  | .set uid u true => { s with db := s.db.conUser uid u }
  | .set _ _ false => s
  | .lanza => { s with menus := s.menus ++ [Menu.onCreate s.currentUser] }

def cumpleTodas (s : Entrada ι) (os : List Orden) : Entrada ι :=
  os.foldl cumple s

end Entrada

section Step

variable [DecidableEq ι]

def step (s : Entrada ι) : Suceso ι → Option (Entrada ι)
  | .main i e =>
      ((s.main i).atiende s.facebook s.currentUser e).map fun t =>
        { s with main := Function.update s.main i t.state }.cumpleTodas t.writes
  | .registo i e =>
      ((s.registo i).atiende s.currentUser e).map fun t =>
        { s with registo := Function.update s.registo i t.state }.cumpleTodas
          t.writes
  | .login i e =>
      ((s.login i).atiende s.currentUser e).map fun t =>
        { s with login := Function.update s.login i t.state }.cumpleTodas
          t.writes
  | .getnombrePuntos n =>
      match s.menus[n]? with
      | none => none
      | some m =>
          if m.caida then none
          else
            some
              { s with
                menus := s.menus.set n
                  (m.getnombrePuntos (m.uid.bind s.db.users)) }
  | .sesion user => some { s with currentUser := user }
  | .facebook fb => some { s with facebook := fb }
  | .guarda x u => some { s with db := s.db.conUser x u }

end Step

/-- The orders a step gives. -/
def ordenes (s : Entrada ι) : Suceso ι → List Orden
  | .main i e =>
      (((s.main i).atiende s.facebook s.currentUser e).map
        Outcome.writes).getD []
  | .registo i e =>
      (((s.registo i).atiende s.currentUser e).map Outcome.writes).getD []
  | .login i e =>
      (((s.login i).atiende s.currentUser e).map Outcome.writes).getD []
  | .getnombrePuntos _ | .sesion _ | .facebook _ | .guarda _ _ => []

end Tocate.InicioSesion

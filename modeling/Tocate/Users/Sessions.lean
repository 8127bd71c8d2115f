import Tocate.Lib.Copies
import Tocate.Game.Activity
import Tocate.MultPlayer.Records

/-!
# The game sessions of one device

Any number of solo games and matches of one user are under way on a device, and
their events come in any order.  Each of them loads the record `users/{uid}` and
later stores it whole.  Nobody else writes that record, and the writes of a
device reach the server in the order in which they were issued, so a write meets
at the server what the device itself sees: writes are applied at once here.  The
games may change in any way between two steps, and the menu sets `online`.

An uncaught exception stops the session it strikes.  That the rest of the app
goes down with it is one of the runs, in which the others have no further events.
-/

namespace Tocate.Sesiones

variable {ι κ : Type*}

/-! ## Points and games of a record -/

/-- What is stored at `users/{x}`. -/
def guardado (db : BaseDatos) (x : String) : ℤ × ℤ :=
  ((db.users x).map User.cuenta).getD (0, 0)

/-- A game over with score `p`. -/
def suma (p : ℤ) (v : ℤ × ℤ) : ℤ × ℤ := (v.1 + p, v.2 + 1)

theorem guardado_of_some {db : BaseDatos} {x : String} {u : User}
    (h : db.users x = some u) : guardado db x = u.cuenta := by
  rw [guardado, h, Option.map_some, Option.getD_some]

theorem guardado_congr {db db' : BaseDatos} {x : String}
    (h : db'.users x = db.users x) : guardado db' x = guardado db x := by
  rw [guardado, guardado, h]

theorem cuenta_acredita (l : Leido) (p : ℤ) :
    (l.acredita p).user.cuenta = suma p l.user.cuenta := rfl

theorem cuenta_acreditada (l : Leido) (p : ℤ) :
    (GameActivity.acreditada l p).user.cuenta = suma p l.user.cuenta := rfl

/-! ## The device -/

structure Telefono (ι κ : Type*) where
  db : BaseDatos
  solo : ι → GameActivity
  mult : κ → MultPlayer

/-- No session has begun. -/
def apagado (uid : String) (juego : κ → String) (db : BaseDatos) :
    Telefono ι κ where
  db := db
  solo := fun _ => GameActivity.nueva uid
  mult := fun k => MultPlayer.creada uid (juego k)

inductive Paso (ι κ : Type*) where
  | solo (i : ι) (e : GameActivity.Suceso)
  | mult (k : κ) (e : MultPlayer.Suceso)
  /-- The listener of match `k` is given the games of `d`. -/
  | entrega (k : κ) (d : BaseDatos)
  /-- Others change anything but the user's record. -/
  | mundo (d : BaseDatos)
  /-- `update("online", o)` by the menu. -/
  | online (o : String)

def escribe (db : BaseDatos) (ws : List Escritura) : BaseDatos :=
  ws.foldl (fun d w => (d.aplicar w).1) db

/-- `update("online", o)`: fails where the record is absent. -/
def ponOnline (db : BaseDatos) (uid o : String) : BaseDatos :=
  match db.users uid with
  | none => db
  | some u => db.conUser uid { u with Online := some o }

namespace Telefono

variable [DecidableEq ι] [DecidableEq κ]

def conSolo (s : Telefono ι κ) (i : ι)
    (r : GameActivity × List Escritura) : Telefono ι κ :=
  { s with
    db := escribe s.db r.2
    solo := Function.update s.solo i r.1 }

def conMult (s : Telefono ι κ) (k : κ)
    (r : MultPlayer × List Escritura) : Telefono ι κ :=
  { s with
    db := escribe s.db r.2
    mult := Function.update s.mult k r.1 }

end Telefono

section Paso

variable [DecidableEq ι] [DecidableEq κ]

def paso (uid : String) (s : Telefono ι κ) : Paso ι κ → Option (Telefono ι κ)
  | .solo i e => (GameActivity.react s.db (s.solo i) e).map (s.conSolo i)
  | .mult k e => (MultPlayer.react s.db (s.mult k) e).map (s.conMult k)
  | .entrega k d =>
      if (s.mult k).escucha then
        some (s.conMult k (MultPlayer.snapshot [] d (s.mult k)))
      else none
  | .mundo d =>
      if d.users uid = s.db.users uid then some { s with db := d } else none
  | .online o => some { s with db := ponOnline s.db uid o }

end Paso

/-- The writes a step issues. -/
def escrituras (s : Telefono ι κ) : Paso ι κ → List Escritura
  | .solo i e => ((GameActivity.react s.db (s.solo i) e).map Prod.snd).getD []
  | .mult k e => ((MultPlayer.react s.db (s.mult k) e).map Prod.snd).getD []
  | .entrega k d => (MultPlayer.snapshot [] d (s.mult k)).2
  | .mundo _ | .online _ => []

/-! ## The copies of the record -/

/-- Where a session keeps a loaded record. -/
inductive Copia (ι κ : Type*) where
  | solo (i : ι)
  | mult (k : κ) (p : MultPlayer.Puesto)
deriving DecidableEq

def registro (s : Telefono ι κ) : Copia ι κ → Option Leido
  | .solo i => (s.solo i).userjUno
  | .mult k p => (s.mult k).registro p

/-- The copy and the record that a step credits, if it credits one. -/
def credito (s : Telefono ι κ) : Paso ι κ → Option (Copia ι κ × Leido)
  | .solo i e =>
      if e.esGameover = true ∧ (s.solo i).isParche = true then
        (s.solo i).userjUno.map fun l => (.solo i, l)
      else none
  | .mult k e => ((s.mult k).credito e).map fun c => (.mult k c.1, c.2)
  | .entrega _ _ | .mundo _ | .online _ => none

/-- The score that a session credits. -/
def puntos (s : Telefono ι κ) : Paso ι κ → ℤ
  | .solo i _ => (s.solo i).puntosUid
  | .mult k _ => (s.mult k).puntos
  | .entrega _ _ | .mundo _ | .online _ => 0

/-- The copy that a step replaces, and by which document. -/
def lectura (s : Telefono ι κ) : Paso ι κ → Option (Copia ι κ × String)
  | .solo i .user => some (.solo i, (s.solo i).uid)
  | .mult k e => ((s.mult k).lectura e).map fun c => (.mult k c.1, c.2)
  | .solo _ _ | .entrega _ _ | .mundo _ | .online _ => none

/-- What a step does to the copies of `users/{uid}`, in terms of points and
games. -/
def operacion (uid : String) (s : Telefono ι κ) (a : Paso ι κ) :
    Option (Copies.Op (Copia ι κ) (ℤ × ℤ)) :=
  match credito s a with
  | some c => some (.write c.1 (suma (puntos s a)))
  | none =>
      match lectura s a with
      | some c =>
          if c.2 = uid ∧ s.db.users uid ≠ none then some (.read c.1)
          else some (.drop c.1)
      | none => none

/-! ## Additive credits -/

/-- The record that is stored, and for whom. -/
def registro? : Escritura → Option (String × Leido)
  | .setUser x l => some (x, l)
  | _ => none

/-- What is written at `users/{uid}` adds the score `p` to `v`. -/
def Suma (uid : String) (v : ℤ × ℤ) (p : ℤ) (w : Escritura) : Prop :=
  ∀ r ∈ registro? w, r.1 = uid → r.2.user.cuenta = suma p v

instance (uid : String) (v : ℤ × ℤ) (p : ℤ) (w : Escritura) :
    Decidable (Suma uid v p w) :=
  inferInstanceAs (Decidable (∀ r ∈ registro? w, _ → _))

/-- The write stores a record at `users/{uid}`. -/
def guarda (uid : String) : Escritura → Bool
  | .setUser x _ => decide (x = uid)
  | _ => false

/-- Every record stored by the step has the score added to the stored points
and one game more than stored. -/
def Aditivo (uid : String) (s : Telefono ι κ) (a : Paso ι κ) : Prop :=
  ∀ w ∈ escrituras s a, Suma uid (guardado s.db uid) (puntos s a) w

instance (uid : String) (s : Telefono ι κ) (a : Paso ι κ) :
    Decidable (Aditivo uid s a) :=
  inferInstanceAs (Decidable
    (∀ w ∈ escrituras s a, Suma uid (guardado s.db uid) (puntos s a) w))

/-- The credited object was read from the user's own document. -/
def Propio (uid : String) (s : Telefono ι κ) (a : Paso ι κ) : Prop :=
  ∀ c ∈ credito s a, c.2.de = uid

instance (uid : String) (s : Telefono ι κ) (a : Paso ι κ) :
    Decidable (Propio uid s a) :=
  inferInstanceAs (Decidable (∀ c ∈ credito s a, c.2.de = uid))

/-! ## The history of the copies -/

/-- What is remembered along a run: the copies with their versions, and the
scores that have been stored so far. -/
abbrev Historia (ι κ : Type*) := Copies.Store (Copia ι κ) (ℤ × ℤ) × List ℤ

section Historia

variable [DecidableEq ι] [DecidableEq κ]

def anota (uid : String) (s : Telefono ι κ) (a : Paso ι κ)
    (h : Historia ι κ) : Historia ι κ :=
  ((operacion uid s a).elim h.1 fun o => (Copies.step h.1 o).getD h.1,
    if (escrituras s a).any (guarda uid) then h.2 ++ [puntos s a] else h.2)

/-- A step of the device, with its history. -/
def pasoAnotado (uid : String) :
    Telefono ι κ × Historia ι κ → Paso ι κ →
      Option (Telefono ι κ × Historia ι κ) :=
  Runs.ghost (paso uid) (anota uid)

omit [DecidableEq ι] [DecidableEq κ] in
def inicio (uid : String) (juego : κ → String) (db : BaseDatos) :
    Telefono ι κ × Historia ι κ :=
  (apagado uid juego db, Copies.Store.start (guardado db uid), [])

omit [DecidableEq ι] [DecidableEq κ] in
/-- No other session has credited since the session that credits now has read
the record or credited it last. -/
def Reciente (uid : String) (p : Telefono ι κ × Historia ι κ)
    (a : Paso ι κ) : Prop :=
  ∀ o ∈ operacion uid p.1 a, Copies.Fresh p.2.1 o

instance (uid : String) (p : Telefono ι κ × Historia ι κ) (a : Paso ι κ) :
    Decidable (Reciente uid p a) :=
  inferInstanceAs (Decidable
    (∀ o ∈ operacion uid p.1 a, Copies.Fresh p.2.1 o))

end Historia

end Tocate.Sesiones

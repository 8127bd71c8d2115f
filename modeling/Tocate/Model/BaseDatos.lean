import Tocate.Model.Documents
import Mathlib.Logic.Function.Basic

/-!
# The database and its writes

`BaseDatos` holds the two collections the game uses.  `set` replaces a whole
document and creates it where it is absent; `update` changes the named fields
only and fails where the document is absent.  `creador` remembers for every id
that a game has had, deleted games included, who created it: ids are generated
by the database and never used again.
-/

namespace Tocate

structure BaseDatos where
  jugadas : String → Option Jugada
  users : String → Option User
  creador : String → Option String

/-- The writes the screens issue. -/
inductive Escritura where
  /-- `add(jugada)`, which is given the fresh id `id`. -/
  | addJugada (id : String) (jugada : Jugada)
  /-- `set(jugada)` by a match screen. -/
  | setJugada (id : String) (jugada : Jugada)
  /-- `set(jugada)` by a free search, which claims the game it has read. -/
  | reclamar (id : String) (jugada : Jugada)
  /-- `update("jugadorDosID", uid)`. -/
  | unirse (id : String) (uid : String)
  /-- `update("jugadorDosID", uid, "abandonoID", uid)`. -/
  | rechazar (id : String) (uid : String)
  | deleteJugada (id : String)
  /-- `set(user)` at `users/{uid}`, with the origin of the object. -/
  | setUser (uid : String) (leido : Leido)
deriving DecidableEq, Repr

namespace BaseDatos

def vacia : BaseDatos where
  jugadas := fun _ => none
  users := fun _ => none
  creador := fun _ => none

def conJugada (db : BaseDatos) (id : String) (j : Option Jugada) : BaseDatos :=
  { db with jugadas := Function.update db.jugadas id j }

def conUser (db : BaseDatos) (uid : String) (u : User) : BaseDatos :=
  { db with users := Function.update db.users uid (some u) }

def conCreador (db : BaseDatos) (id uno : String) : BaseDatos :=
  { db with creador := Function.update db.creador id (some uno) }

/-- `update(...)`: fails where the document is absent. -/
def update (db : BaseDatos) (id : String) (f : Jugada → Jugada) :
    BaseDatos × Bool :=
  match db.jugadas id with
  | none => (db, false)
  | some j => (db.conJugada id (some (f j)), true)

/-- The server applies a write; `false` where the write fails. -/
def aplicar (db : BaseDatos) : Escritura → BaseDatos × Bool
  | .addJugada id j =>
      match db.creador id with
      | none => ((db.conJugada id (some j)).conCreador id j.jugadorUnoID, true)
      | some _ => (db, false)
  | .setJugada id j => (db.conJugada id (some j), true)
  | .reclamar id j => (db.conJugada id (some j), true)
  | .unirse id uid => db.update id fun j => { j with jugadorDosID := uid }
  | .rechazar id uid =>
      db.update id fun j => { j with jugadorDosID := uid, abandonoID := uid }
  | .deleteJugada id => (db.conJugada id none, true)
  | .setUser uid l => (db.conUser uid l.user, true)

@[simp] theorem conJugada_self (db : BaseDatos) (id : String)
    (j : Option Jugada) : (db.conJugada id j).jugadas id = j := by
  simp [conJugada]

theorem conJugada_ne (db : BaseDatos) {id id' : String}
    (j : Option Jugada) (h : id' ≠ id) :
    (db.conJugada id j).jugadas id' = db.jugadas id' := by
  simp [conJugada, h]

/-- A game found after one has been put there or taken away. -/
theorem conJugada_eq_some {db : BaseDatos} {id id' : String}
    {o : Option Jugada} {j : Jugada}
    (h : (db.conJugada id o).jugadas id' = some j) :
    (id' = id ∧ o = some j) ∨ (id' ≠ id ∧ db.jugadas id' = some j) := by
  by_cases hid : id' = id
  · subst hid
    rw [conJugada_self] at h
    exact Or.inl ⟨rfl, h⟩
  · rw [conJugada_ne db o hid] at h
    exact Or.inr ⟨hid, h⟩

@[simp] theorem conJugada_users (db : BaseDatos) (id : String)
    (j : Option Jugada) : (db.conJugada id j).users = db.users := rfl

@[simp] theorem conJugada_creador (db : BaseDatos) (id : String)
    (j : Option Jugada) : (db.conJugada id j).creador = db.creador := rfl

@[simp] theorem conUser_self (db : BaseDatos) (uid : String) (u : User) :
    (db.conUser uid u).users uid = some u := by
  simp [conUser]

theorem conUser_ne (db : BaseDatos) {uid uid' : String} (u : User)
    (h : uid' ≠ uid) : (db.conUser uid u).users uid' = db.users uid' := by
  simp [conUser, h]

@[simp] theorem conUser_jugadas (db : BaseDatos) (uid : String) (u : User) :
    (db.conUser uid u).jugadas = db.jugadas := rfl

@[simp] theorem conUser_creador (db : BaseDatos) (uid : String) (u : User) :
    (db.conUser uid u).creador = db.creador := rfl

@[simp] theorem conCreador_jugadas (db : BaseDatos) (id uno : String) :
    (db.conCreador id uno).jugadas = db.jugadas := rfl

@[simp] theorem conCreador_users (db : BaseDatos) (id uno : String) :
    (db.conCreador id uno).users = db.users := rfl

theorem update_users (db : BaseDatos) (id : String) (f : Jugada → Jugada) :
    (db.update id f).1.users = db.users := by
  unfold update
  split
  · rfl
  · rfl

/-- Only `set(user)` at `users/{uid}` changes that record. -/
theorem aplicar_users_of_ne (db : BaseDatos) {w : Escritura} {uid : String}
    (h : ∀ l, w ≠ .setUser uid l) :
    (db.aplicar w).1.users uid = db.users uid := by
  cases w with
  | addJugada id j =>
      simp only [aplicar]
      split
      · rfl
      · rfl
  | setJugada id j => rfl
  | reclamar id j => rfl
  | unirse id u => exact congrFun (update_users db id _) uid
  | rechazar id u => exact congrFun (update_users db id _) uid
  | deleteJugada id => rfl
  | setUser uid' l =>
      have hne : uid ≠ uid' := fun heq => h l (by rw [heq])
      exact db.conUser_ne l.user hne

theorem aplicar_setUser (db : BaseDatos) (uid : String) (l : Leido) :
    (db.aplicar (.setUser uid l)).1.users uid = some l.user :=
  db.conUser_self uid l.user

end BaseDatos

/-- The write is about the game `id`. -/
def Escritura.toca (id : String) : Escritura → Bool
  | .addJugada id' _ | .setJugada id' _ | .reclamar id' _ | .unirse id' _
  | .rechazar id' _ | .deleteJugada id' => decide (id' = id)
  | .setUser _ _ => false

namespace BaseDatos

theorem update_some {db : BaseDatos} {id : String} {j : Jugada}
    (h : db.jugadas id = some j) (f : Jugada → Jugada) :
    db.update id f = (db.conJugada id (some (f j)), true) := by
  simp only [update, h]

theorem update_none {db : BaseDatos} {id : String}
    (h : db.jugadas id = none) (f : Jugada → Jugada) :
    db.update id f = (db, false) := by
  simp only [update, h]

theorem update_jugadas_ne (db : BaseDatos) {id id' : String}
    (f : Jugada → Jugada) (h : id' ≠ id) :
    (db.update id f).1.jugadas id' = db.jugadas id' := by
  unfold update
  split
  · rfl
  · exact db.conJugada_ne _ h

/-- A write leaves the games it is not about alone. -/
theorem aplicar_jugadas_of_not_toca (db : BaseDatos) {w : Escritura}
    {g : String} (h : w.toca g = false) :
    (db.aplicar w).1.jugadas g = db.jugadas g := by
  cases w with
  | addJugada id j =>
      have hne : g ≠ id := fun heq => by simp [Escritura.toca, heq] at h
      simp only [aplicar]
      split
      · rw [conCreador_jugadas]
        exact db.conJugada_ne _ hne
      · rfl
  | setJugada id j =>
      exact db.conJugada_ne _ fun heq => by simp [Escritura.toca, heq] at h
  | reclamar id j =>
      exact db.conJugada_ne _ fun heq => by simp [Escritura.toca, heq] at h
  | unirse id u =>
      exact db.update_jugadas_ne _ fun heq => by simp [Escritura.toca, heq] at h
  | rechazar id u =>
      exact db.update_jugadas_ne _ fun heq => by simp [Escritura.toca, heq] at h
  | deleteJugada id =>
      exact db.conJugada_ne _ fun heq => by simp [Escritura.toca, heq] at h
  | setUser x l => rfl

/-- Only a deletion takes a game away. -/
theorem aplicar_presente {db : BaseDatos} {w : Escritura} {g : String}
    (h : db.jugadas g ≠ none) (hw : w ≠ .deleteJugada g) :
    (db.aplicar w).1.jugadas g ≠ none := by
  by_cases htoca : w.toca g = false
  · rw [db.aplicar_jugadas_of_not_toca htoca]
    exact h
  · obtain ⟨j, hj⟩ := Option.ne_none_iff_exists'.mp h
    have hupdate : ∀ f, (db.update g f).1.jugadas g ≠ none := by
      intro f
      rw [update_some hj]
      simp
    cases w with
    | addJugada id j =>
        simp only [Escritura.toca, decide_eq_false_iff_not, not_not] at htoca
        subst htoca
        simp only [aplicar]
        split
        · simp
        · exact h
    | setJugada id j =>
        simp only [Escritura.toca, decide_eq_false_iff_not, not_not] at htoca
        simp [aplicar, htoca]
    | reclamar id j =>
        simp only [Escritura.toca, decide_eq_false_iff_not, not_not] at htoca
        simp [aplicar, htoca]
    | unirse id u =>
        simp only [Escritura.toca, decide_eq_false_iff_not, not_not] at htoca
        subst htoca
        exact hupdate _
    | rechazar id u =>
        simp only [Escritura.toca, decide_eq_false_iff_not, not_not] at htoca
        subst htoca
        exact hupdate _
    | deleteJugada id =>
        simp only [Escritura.toca, decide_eq_false_iff_not, not_not] at htoca
        exact absurd (congrArg Escritura.deleteJugada htoca) hw
    | setUser x l => exact absurd rfl htoca

/-- An absent game that has been created comes back by a whole-document write
only. -/
theorem aplicar_ausente {db : BaseDatos} {w : Escritura} {g : String}
    (h : db.jugadas g = none) (hcreador : db.creador g ≠ none)
    (hset : ∀ j, w ≠ .setJugada g j) (hclaim : ∀ j, w ≠ .reclamar g j) :
    (db.aplicar w).1.jugadas g = none := by
  by_cases htoca : w.toca g = false
  · rw [db.aplicar_jugadas_of_not_toca htoca]
    exact h
  · cases w with
    | addJugada id j =>
        simp only [Escritura.toca, decide_eq_false_iff_not, not_not] at htoca
        subst htoca
        simp only [aplicar]
        split
        next hno => exact absurd hno hcreador
        · exact h
    | setJugada id j =>
        simp only [Escritura.toca, decide_eq_false_iff_not, not_not] at htoca
        exact absurd (by rw [htoca]) (hset j)
    | reclamar id j =>
        simp only [Escritura.toca, decide_eq_false_iff_not, not_not] at htoca
        exact absurd (by rw [htoca]) (hclaim j)
    | unirse id u =>
        simp only [Escritura.toca, decide_eq_false_iff_not, not_not] at htoca
        subst htoca
        simp only [aplicar, update_none h]
        exact h
    | rechazar id u =>
        simp only [Escritura.toca, decide_eq_false_iff_not, not_not] at htoca
        subst htoca
        simp only [aplicar, update_none h]
        exact h
    | deleteJugada id =>
        simp only [Escritura.toca, decide_eq_false_iff_not, not_not] at htoca
        simp [aplicar, htoca]
    | setUser x l => exact absurd rfl htoca

theorem update_creador (db : BaseDatos) (id : String) (f : Jugada → Jugada) :
    (db.update id f).1.creador = db.creador := by
  unfold update
  split
  · rfl
  · rfl

/-- Nobody forgets who has created a game; `add` records it for a new id. -/
theorem aplicar_creador (db : BaseDatos) (w : Escritura) (g : String) :
    (db.aplicar w).1.creador g = db.creador g ∨
      (db.creador g = none ∧ ∃ j, w = .addJugada g j ∧
        (db.aplicar w).1.creador g = some j.jugadorUnoID ∧
        (db.aplicar w).1.jugadas g = some j) := by
  cases w with
  | addJugada id j =>
      cases hid : db.creador id with
      | some c =>
          left
          simp only [aplicar, hid]
      | none =>
          by_cases hg : g = id
          · subst hg
            right
            refine ⟨hid, j, rfl, ?_, ?_⟩
            · simp [aplicar, hid, conCreador]
            · simp [aplicar, hid]
          · left
            simp [aplicar, hid, conCreador, hg]
  | setJugada id j => exact Or.inl rfl
  | reclamar id j => exact Or.inl rfl
  | unirse id u => exact Or.inl (congrFun (update_creador db id _) g)
  | rechazar id u => exact Or.inl (congrFun (update_creador db id _) g)
  | deleteJugada id => exact Or.inl rfl
  | setUser x l => exact Or.inl rfl

theorem aplicar_creador_some {db : BaseDatos} {g c : String}
    (h : db.creador g = some c) (w : Escritura) :
    (db.aplicar w).1.creador g = some c := by
  rcases db.aplicar_creador w g with hsame | ⟨hnone, -⟩
  · rw [hsame]
    exact h
  · exact absurd (h.symm.trans hnone) nofun

end BaseDatos

end Tocate

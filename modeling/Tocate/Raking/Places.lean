import Mathlib.Data.Prod.Lex
import Mathlib.Data.String.Basic
import Tocate.Lib.Ranking
import Tocate.Model.BaseDatos

/-!
# UserRakingFragment and MyUserRecyclerViewAdapter

The ranking asks once for the hundred users with most points.  Users with the
same points come in the order of their ids, which the database reverses together
with that of the points.

The downloading of the photos is left out; a row knows where its photo is.
-/

namespace Tocate

structure UserRakingFragment where
  userList : List User := []
  /-- `mValues` of the adapter that is set. -/
  adapter : Option (List User) := none
  caida : Bool := false
deriving DecidableEq, Repr

namespace UserRakingFragment

/-- What `orderBy("points", DESCENDING)` goes by. -/
def clave (id : String) (u : User) : ℤ ×ₗ String := toLex (u.points, id)

/-- The loop over the documents. -/
def recorre : List User → UserRakingFragment → UserRakingFragment
  | [], f => f
  | userItem :: documents, f =>
      let userList := f.userList ++ [userItem]
      recorre documents
        { f with userList := userList, adapter := some userList }

/-- `onComplete` of the query: `getResult` throws where it has failed. -/
def onComplete (result : Option (List User)) (f : UserRakingFragment) :
    UserRakingFragment :=
  match result with
  | none => { f with userList := [], caida := true }
  | some documents => recorre documents { f with userList := [] }

structure ViewHolder where
  etPosicion : String
  etAciertos : String
  etnombre : String
  /-- Where the photo is in the storage. -/
  imFoto : String
deriving DecidableEq, Repr

def fila (position : ℕ) (u : User) : ViewHolder where
  etPosicion := toString (position + 1) ++ "°"
  etAciertos := toString u.points
  etnombre := u.name
  imFoto := "images/" ++ u.foto ++ ".jpg"

/-- The row at `position`, where there is one. -/
def onBindViewHolder (position : ℕ) (f : UserRakingFragment) :
    Option ViewHolder :=
  (f.adapter.getD [])[position]?.map (fila position)

/-- What the query promises: the first hundred documents of the collection, in
that order. -/
def Respuesta (db : BaseDatos) (docs : List (String × User)) : Prop :=
  Ranking.Top clave 100 docs db.users

/-- The users that come before `x`: those with more points, and those with as
many and a greater id. -/
def delante (db : BaseDatos) (x : String) : Set String :=
  Ranking.aheadIn clave db.users x

variable {db db' : BaseDatos} {x y : String} {u v : User}

theorem clave_lt : clave x u < clave y v ↔
    u.points < v.points ∨ u.points = v.points ∧ x < y :=
  Prod.Lex.toLex_lt_toLex

theorem clave_le_of_points (h : u.points ≤ v.points) : clave x u ≤ clave x v :=
  Prod.Lex.toLex_le_toLex.mpr
    ((lt_or_eq_of_le h).imp id fun heq => ⟨heq, le_refl x⟩)

theorem mem_delante (hx : db.users x = some u) : y ∈ delante db x ↔
    ∃ v, db.users y = some v ∧
      (u.points < v.points ∨ u.points = v.points ∧ x < y) := by
  unfold delante Ranking.aheadIn
  constructor
  · rintro ⟨u', hu', v, hv, hlt⟩
    cases hx.symm.trans hu'
    exact ⟨v, hv, clave_lt.mp hlt⟩
  · rintro ⟨v, hv, hlt⟩
    exact ⟨u, hx, v, hv, clave_lt.mpr hlt⟩

/-! ## The rows -/

theorem adapter_recorre (documents : List User) (f : UserRakingFragment) :
    (recorre documents f).adapter =
      if documents = [] then f.adapter else some (f.userList ++ documents) := by
  induction documents generalizing f with
  | nil => rfl
  | cons u documents ih =>
      rw [recorre, ih, if_neg (List.cons_ne_nil u documents)]
      cases documents with
      | nil => rfl
      | cons v documents => simp

/-- The rows are the documents of the reply. -/
theorem filas_onComplete (documents : List User) (position : ℕ) :
    (onComplete (some documents) {}).onBindViewHolder position =
      documents[position]?.map (fila position) := by
  unfold onBindViewHolder onComplete
  dsimp only
  rw [adapter_recorre]
  cases documents with
  | nil => rfl
  | cons u documents => rfl

/-- Where `docs` is the reply of the query, the row at `position` is that of the
user who has `position` others ahead of him; there is none from the hundredth
on. -/
theorem puestos_exactos {docs : List (String × User)} (h : Respuesta db docs)
    (position : ℕ) (r : ViewHolder) :
    (onComplete (some (docs.map Prod.snd)) {}).onBindViewHolder position =
        some r ↔
      position < 100 ∧ ∃ x u, db.users x = some u ∧
        (delante db x).encard = position ∧ r = fila position u := by
  rw [filas_onComplete, List.getElem?_map, Option.map_map,
    Option.map_eq_some_iff]
  constructor
  · rintro ⟨⟨x, u⟩, hxu, rfl⟩
    obtain ⟨hlt, hx, hcard⟩ := (Ranking.Top.getElem? h).mp hxu
    exact ⟨hlt, x, u, hx, hcard, rfl⟩
  · rintro ⟨hlt, x, u, hx, hcard, rfl⟩
    exact ⟨(x, u), (Ranking.Top.getElem? h).mpr ⟨hlt, hx, hcard⟩, rfl⟩

/-- Ana has five points and Blas seven. -/
def baseSiete : BaseDatos :=
  (BaseDatos.vacia.conUser "a" (User.nuevo "Ana" 5 0 "a")).conUser "b"
    (User.nuevo "Blas" 7 0 "b")

theorem puestos_exactos_blas :
    (onComplete (some [User.nuevo "Blas" 7 0 "b", User.nuevo "Ana" 5 0 "a"])
        {}).onBindViewHolder 0 =
      some
        { etPosicion := "1°", etAciertos := "7", etnombre := "Blas"
          imFoto := "images/b.jpg" } := by
  have hrespuesta : Respuesta baseSiete
      [("b", User.nuevo "Blas" 7 0 "b"), ("a", User.nuevo "Ana" 5 0 "a")] := by
    refine ⟨?_, ?_, by decide, ?_⟩
    · intro x u hmem
      rcases List.mem_pair.mp hmem with heq | heq
      · cases heq
        rfl
      · cases heq
        rfl
    · simp [clave_lt, User.nuevo]
    · intro x u hx hno
      exfalso
      by_cases hb : x = "b"
      · subst hb
        cases hx
        exact hno List.mem_cons_self
      · by_cases ha : x = "a"
        · subst ha
          cases hx
          exact hno (List.mem_cons_of_mem _ List.mem_cons_self)
        · simp [baseSiete, BaseDatos.conUser, BaseDatos.vacia, ha, hb] at hx
  refine (puestos_exactos hrespuesta 0 _).mpr ⟨by decide, "b", _, rfl, ?_, rfl⟩
  exact (Ranking.Top.encard_aheadIn hrespuesta List.mem_cons_self).trans
    (congrArg Nat.cast (by decide))

end UserRakingFragment

end Tocate

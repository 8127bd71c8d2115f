import Mathlib.Data.Option.Basic
import Mathlib.Logic.Function.Basic

/-!
# Stores of documents with named fields

A document is what its fields hold.  A store keeps documents in collections:
`set` puts a whole document, `update` changes named fields of a document that is
there, and `add` puts a document under an id that has not been given before.

A collection shows a table of records when it has a document for each record of
the table and no others.  The requests keep it so if they do to the documents
what is done to the records.
-/

namespace Fields

variable {V α : Type*}

/-- What the fields hold; `none` where there is no such field. -/
abbrev Doc (V : Type*) := String → Option V

/-- The document with just these fields. -/
def Doc.of (fields : List (String × V)) : Doc V := fun name =>
  fields.lookup name

/-- The named fields are changed, the others stay. -/
def Doc.put (d : Doc V) (fields : List (String × V)) : Doc V := fun name =>
  (fields.lookup name).or (d name)

/-- One update of some fields, or two. -/
theorem Doc.put_put (d : Doc V) (xs ys : List (String × V)) :
    (d.put xs).put ys = d.put (ys ++ xs) := by
  funext name
  show (ys.lookup name).or ((xs.lookup name).or (d name)) =
    ((ys ++ xs).lookup name).or (d name)
  rw [List.lookup_append, Option.or_assoc]

/-- The field `name` with another value. -/
def renew (name : String) (v : V) (p : String × V) : String × V :=
  if p.1 = name then (p.1, v) else p

theorem lookup_map_renew (name : String) (v : V) (fields : List (String × V))
    (n : String) :
    (fields.map (renew name v)).lookup n =
      if n = name then (fields.lookup n).map fun _ => v
      else fields.lookup n := by
  induction fields with
  | nil => simp
  | cons p fields ih =>
      obtain ⟨m, w⟩ := p
      by_cases hn : n = m
      · subst hn
        by_cases hname : n = name
        · simp [renew, hname]
        · simp [renew, hname]
      · have hm : (n == m) = false := beq_false_of_ne hn
        by_cases hname : m = name
        · simpa [renew, hname, List.lookup_cons, hname ▸ hm] using ih
        · simpa [renew, hname, List.lookup_cons, hm] using ih

/-- An update of a field that is there. -/
theorem Doc.put_of {fields : List (String × V)} {name : String} (v : V)
    (h : (fields.lookup name).isSome) :
    (Doc.of fields).put [(name, v)] = Doc.of (fields.map (renew name v)) := by
  funext n
  show (List.lookup n [(name, v)]).or (fields.lookup n) =
    (fields.map (renew name v)).lookup n
  rw [lookup_map_renew]
  by_cases hn : n = name
  · subst hn
    obtain ⟨w, hw⟩ := Option.isSome_iff_exists.mp h
    simp [hw]
  · have hname : (n == name) = false := beq_false_of_ne hn
    simp [List.lookup_cons, hn, hname]

structure Store (V : Type*) where
  docs : String → String → Option (Doc V)
  /-- The ids that have been given in a collection. -/
  given : String → String → Bool

def Store.empty : Store V where
  docs := fun _ _ => none
  given := fun _ _ => false

inductive Request (V : Type*) where
  | add (coll id : String) (d : Doc V)
  | set (coll id : String) (d : Doc V)
  | update (coll id : String) (fields : List (String × V))
  | delete (coll id : String)

namespace Store

/-- Another collection in the place of `coll`. -/
def withDocs (s : Store V) (coll : String) (docs : String → Option (Doc V)) :
    Store V :=
  { s with docs := Function.update s.docs coll docs }

def withDoc (s : Store V) (coll id : String) (o : Option (Doc V)) : Store V :=
  s.withDocs coll (Function.update (s.docs coll) id o)

def give (s : Store V) (coll id : String) : Store V :=
  { s with
    given := Function.update s.given coll
      (Function.update (s.given coll) id true) }

/-- A request is served; `false` where it fails. -/
def serve (s : Store V) : Request V → Store V × Bool
  | .add coll id d =>
      if s.given coll id then (s, false)
      else ((s.withDoc coll id (some d)).give coll id, true)
  | .set coll id d => (s.withDoc coll id (some d), true)
  | .update coll id fields =>
      match s.docs coll id with
      | none => (s, false)
      | some d => (s.withDoc coll id (some (d.put fields)), true)
  | .delete coll id => (s.withDoc coll id none, true)

@[simp] theorem withDoc_self (s : Store V) (coll id : String)
    (o : Option (Doc V)) :
    (s.withDoc coll id o).docs coll = Function.update (s.docs coll) id o :=
  Function.update_self coll _ s.docs

theorem withDoc_ne (s : Store V) {coll coll' : String} (id : String)
    (o : Option (Doc V)) (h : coll' ≠ coll) :
    (s.withDoc coll id o).docs coll' = s.docs coll' :=
  Function.update_of_ne h _ s.docs

@[simp] theorem withDoc_given (s : Store V) (coll id : String)
    (o : Option (Doc V)) : (s.withDoc coll id o).given = s.given := rfl

@[simp] theorem give_docs (s : Store V) (coll id : String) :
    (s.give coll id).docs = s.docs := rfl

@[simp] theorem give_given (s : Store V) (coll id : String) :
    (s.give coll id).given coll = Function.update (s.given coll) id true :=
  Function.update_self coll _ s.given

theorem serve_update_some {s : Store V} {coll id : String} {d : Doc V}
    (h : s.docs coll id = some d) (fields : List (String × V)) :
    s.serve (.update coll id fields) =
      (s.withDoc coll id (some (d.put fields)), true) := by
  simp only [serve, h]

theorem serve_update_none {s : Store V} {coll id : String}
    (h : s.docs coll id = none) (fields : List (String × V)) :
    s.serve (.update coll id fields) = (s, false) := by
  simp only [serve, h]

/-- What `whereEqualTo(name, v)` finds in the collection. -/
def Finds (s : Store V) (coll name : String) (v : V) (id : String) : Prop :=
  ∃ d, s.docs coll id = some d ∧ d name = some v

end Store

/-! ## Records -/

/-- The collection has a document for each record, and no others. -/
def Shows (R : Doc V → α → Prop) (docs : String → Option (Doc V))
    (table : String → Option α) : Prop :=
  ∀ id, Option.Rel R (docs id) (table id)

section Shows

variable {R : Doc V → α → Prop} {docs : String → Option (Doc V)}
  {table : String → Option α}

theorem Shows.update (h : Shows R docs table) (id : String)
    {o : Option (Doc V)} {r : Option α} (hr : Option.Rel R o r) :
    Shows R (Function.update docs id o) (Function.update table id r) := by
  intro id'
  by_cases hid : id' = id
  · subst hid
    rw [Function.update_self, Function.update_self]
    exact hr
  · rw [Function.update_of_ne hid, Function.update_of_ne hid]
    exact h id'

theorem Shows.some_left (h : Shows R docs table) {id : String} {d : Doc V}
    (hd : docs id = some d) : ∃ a, table id = some a ∧ R d a := by
  have hid := h id
  rw [hd] at hid
  cases ha : table id with
  | none =>
      rw [ha] at hid
      cases hid
  | some a =>
      rw [ha] at hid
      cases hid with
      | some hR => exact ⟨a, rfl, hR⟩

theorem Shows.some_right (h : Shows R docs table) {id : String} {a : α}
    (ha : table id = some a) : ∃ d, docs id = some d ∧ R d a := by
  have hid := h id
  rw [ha] at hid
  cases hd : docs id with
  | none =>
      rw [hd] at hid
      cases hid
  | some d =>
      rw [hd] at hid
      cases hid with
      | some hR => exact ⟨d, rfl, hR⟩

theorem Shows.none_iff (h : Shows R docs table) (id : String) :
    docs id = none ↔ table id = none := by
  constructor
  · intro hd
    by_contra ha
    obtain ⟨a, ha⟩ := Option.ne_none_iff_exists'.mp ha
    obtain ⟨d, hd', -⟩ := h.some_right ha
    rw [hd] at hd'
    cases hd'
  · intro ha
    by_contra hd
    obtain ⟨d, hd⟩ := Option.ne_none_iff_exists'.mp hd
    obtain ⟨a, ha', -⟩ := h.some_left hd
    rw [ha] at ha'
    cases ha'

/-- Reading the documents gives the records. -/
theorem Shows.bind_eq (h : Shows R docs table) {read : Doc V → Option α}
    (hread : ∀ d a, R d a → read d = some a) (id : String) :
    (docs id).bind read = table id := by
  cases hd : docs id with
  | none => exact ((h.none_iff id).mp hd).symm
  | some d =>
      obtain ⟨a, ha, hR⟩ := h.some_left hd
      rw [ha]
      exact hread d a hR

/-- A query by a field finds the records that a test picks, if the test is
about what the field shows. -/
theorem Shows.finds_iff {s : Store V} {coll name : String}
    (h : Shows R (s.docs coll) table) {v : V} {P : α → Prop}
    (hP : ∀ d a, R d a → (d name = some v ↔ P a)) (id : String) :
    s.Finds coll name v id ↔ ∃ a, table id = some a ∧ P a := by
  constructor
  · rintro ⟨d, hd, hv⟩
    obtain ⟨a, ha, hR⟩ := h.some_left hd
    exact ⟨a, ha, (hP d a hR).mp hv⟩
  · rintro ⟨a, ha, hPa⟩
    obtain ⟨d, hd, hR⟩ := h.some_right ha
    exact ⟨d, hd, (hP d a hR).mpr hPa⟩

end Shows

/-! ## Requests one after the other -/

section Replies

variable {σ τ β γ : Type*}

/-- The state that is reached, and the outcomes. -/
def replies (f : σ → α → σ × β) (s : σ) : List α → σ × List β
  | [] => (s, [])
  | a :: acts =>
      ((replies f (f s a).1 acts).1, (f s a).2 :: (replies f (f s a).1 acts).2)

/-- Two systems answer alike as long as related states answer alike and remain
related. -/
theorem replies_simulate {f : σ → α → σ × β} {g : τ → γ → τ × β} {m : γ → α}
    {R : σ → τ → Prop}
    (hstep : ∀ s t c, R s t →
      R (f s (m c)).1 (g t c).1 ∧ (f s (m c)).2 = (g t c).2)
    {s : σ} {t : τ} (h : R s t) (acts : List γ) :
    R (replies f s (acts.map m)).1 (replies g t acts).1 ∧
      (replies f s (acts.map m)).2 = (replies g t acts).2 := by
  induction acts generalizing s t with
  | nil => exact ⟨h, rfl⟩
  | cons c acts ih =>
      obtain ⟨hR, hout⟩ := hstep s t c h
      obtain ⟨hend, houts⟩ := ih hR
      refine ⟨hend, ?_⟩
      show (f s (m c)).2 :: _ = (g t c).2 :: _
      rw [hout]
      exact congrArg _ houts

end Replies

end Fields

import Mathlib.Data.List.Basic

/-!
# Rejection sampling

Values are drawn until one is accepted.  A draw may fail, and the loop with
it; a list of draws stands for the draws that have been made.
-/

namespace Sampling

variable {δ α : Type*}

/-- The first accepted value, if one of the draws `seeds` gives it. -/
def reject (draw : δ → Option α) (accept : α → Prop) [DecidablePred accept]
    (seeds : List δ) : Option α :=
  (seeds.filterMap draw).find? fun a => accept a

variable {draw : δ → Option α} {accept : α → Prop} [DecidablePred accept]

/-- What the loop returns has been drawn and accepted. -/
theorem reject_eq_some {seeds : List δ} {a : α}
    (h : reject draw accept seeds = some a) :
    accept a ∧ ∃ d ∈ seeds, draw d = some a := by
  have haccept := List.find?_some h
  have hmem := List.mem_of_find?_eq_some h
  exact ⟨of_decide_eq_true haccept, List.mem_filterMap.mp hmem⟩

theorem reject_singleton {d : δ} {a : α} (hd : draw d = some a)
    (ha : accept a) : reject draw accept [d] = some a := by
  unfold reject
  rw [List.filterMap_cons_some hd]
  exact List.find?_cons_of_pos (by simpa using ha)

/-- Some sequence of draws ends the loop exactly when some draw is accepted. -/
theorem exists_reject_isSome_iff :
    (∃ seeds, (reject draw accept seeds).isSome = true) ↔
      ∃ d a, draw d = some a ∧ accept a := by
  constructor
  · rintro ⟨seeds, h⟩
    obtain ⟨a, ha⟩ := Option.isSome_iff_exists.mp h
    obtain ⟨haccept, d, -, hd⟩ := reject_eq_some ha
    exact ⟨d, a, hd, haccept⟩
  · rintro ⟨d, a, hd, haccept⟩
    refine ⟨[d], ?_⟩
    rw [reject_singleton hd haccept]
    rfl

end Sampling

import Mathlib.Data.List.DropRight

/-!
# Cutting lists

A list is cut at the last occurrence of an element, or after the first
occurrence of a word.
-/

namespace Cut

variable {α : Type*} [DecidableEq α]

/-- What follows the last `a`; everything where there is none. -/
def afterLast (a : α) (l : List α) : List α :=
  l.rtakeWhile fun x => x ≠ a

/-- What stands before the last `a`, if there is one. -/
def beforeLast (a : α) (l : List α) : Option (List α) :=
  if a ∈ l then some (l.rdropWhile fun x => x ≠ a).dropLast else none

/-- What follows the first occurrence of the word `w`, if there is one. -/
def afterWord (w : List α) : List α → Option (List α)
  | [] => if w = [] then some [] else none
  | a :: l =>
      if w <+: a :: l then some ((a :: l).drop w.length) else afterWord w l

variable {a : α} {l x y : List α}

/-! ## The last occurrence -/

omit [DecidableEq α] in
theorem exists_last (h : a ∈ l) : ∃ x y, l = x ++ a :: y ∧ a ∉ y := by
  obtain ⟨y, x, hl, hy⟩ := List.eq_append_cons_of_mem (List.mem_reverse.mpr h)
  refine ⟨x.reverse, y.reverse, ?_, fun hmem => hy (List.mem_reverse.mp hmem)⟩
  rw [← l.reverse_reverse, hl]
  simp only [List.reverse_append, List.reverse_cons, List.append_assoc,
    List.singleton_append]

theorem beforeLast_of_notMem (h : a ∉ l) : beforeLast a l = none := if_neg h

theorem afterLast_append (h : a ∉ y) : afterLast a (x ++ a :: y) = y := by
  induction y using List.reverseRecOn with
  | nil => exact List.rtakeWhile_concat_neg _ x a (by simp)
  | append_singleton y b ih =>
      have hb : b ≠ a := by
        rintro rfl
        exact h (List.mem_append_right y List.mem_cons_self)
      have hy : a ∉ y := fun hmem => h (List.mem_append_left [b] hmem)
      unfold afterLast at ih ⊢
      rw [← List.cons_append, ← List.append_assoc,
        List.rtakeWhile_concat_pos _ _ b (decide_eq_true hb), ih hy]

theorem notMem_afterLast : a ∉ afterLast a l := by
  intro h
  have hne := List.mem_rtakeWhile_imp h
  simp at hne

theorem beforeLast_append (h : a ∉ y) :
    beforeLast a (x ++ a :: y) = some x := by
  have hmem : a ∈ x ++ a :: y := List.mem_append_right x List.mem_cons_self
  unfold beforeLast
  rw [if_pos hmem]
  have hcut : (x ++ a :: y).rdropWhile (fun b => b ≠ a) ++ y =
      x ++ [a] ++ y := by
    have htake : (x ++ a :: y).rtakeWhile (fun b => b ≠ a) = y :=
      afterLast_append h
    have hall := List.rdropWhile_append_rtakeWhile (p := fun b => b ≠ a)
      (l := x ++ a :: y)
    rw [htake] at hall
    rw [hall, List.append_assoc, List.singleton_append]
  rw [List.append_cancel_right hcut, List.dropLast_concat]

/-! ## The first occurrence of a word -/

theorem takeWhile_append_cons (h : a ∉ x) :
    (x ++ a :: y).takeWhile (fun b => b ≠ a) = x := by
  have hpos : ∀ b ∈ x, (fun b => decide (b ≠ a)) b = true := by
    intro b hb
    exact decide_eq_true fun hba => h (hba ▸ hb)
  rw [List.takeWhile_append_of_pos hpos, List.takeWhile_cons_of_neg (by simp),
    List.append_nil]

/-- A word that ends in its only `a` does not start before the first `a`
does. -/
theorem not_isPrefix_of_notMem {w : List α} {b : α} (hw : a ∉ w)
    (hx : a ∉ b :: x) : ¬w ++ [a] <+: b :: (x ++ (w ++ a :: y)) := by
  rintro ⟨z, hz⟩
  rw [List.append_assoc, List.singleton_append, ← List.cons_append,
    ← List.append_assoc] at hz
  have hbx : a ∉ b :: x ++ w := List.not_mem_append hx hw
  have hcut : w = b :: x ++ w :=
    calc
      w = (w ++ a :: z).takeWhile (fun b => b ≠ a) :=
        (takeWhile_append_cons hw).symm
      _ = (b :: x ++ w ++ a :: y).takeWhile (fun b => b ≠ a) := by rw [hz]
      _ = b :: x ++ w := takeWhile_append_cons hbx
  have hlength := congrArg List.length hcut
  rw [List.length_append, List.length_cons] at hlength
  omega

/-- A word that ends in its only `a` is found where the first `a` ends it. -/
theorem afterWord_append {w : List α} (hw : a ∉ w) (hx : a ∉ x) :
    afterWord (w ++ [a]) (x ++ (w ++ a :: y)) = some y := by
  induction x with
  | nil =>
      have hfirst : [] ++ (w ++ a :: y) = (w ++ [a]) ++ y := by
        rw [List.nil_append, List.append_assoc, List.singleton_append]
      have hne : w ++ [a] ≠ [] := List.concat_ne_nil a w
      rw [hfirst]
      obtain ⟨b, v, hbv⟩ := List.exists_cons_of_ne_nil hne
      have hprefix : b :: v <+: b :: (v ++ y) := List.prefix_append (b :: v) y
      rw [hbv, List.cons_append, afterWord, if_pos hprefix, ← List.cons_append,
        List.drop_left]
  | cons b x ih =>
      rw [List.cons_append, afterWord, if_neg (not_isPrefix_of_notMem hw hx)]
      exact ih fun hmem => hx (List.mem_cons_of_mem b hmem)

end Cut

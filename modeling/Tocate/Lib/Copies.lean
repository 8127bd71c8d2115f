import Tocate.Lib.Runs
import Mathlib.Logic.Function.Basic
import Mathlib.Data.Int.Notation

/-!
# Writing back from a copy

A value is kept in one place.  Holders take copies of it, and a holder changes
the value by applying a function to its own copy and writing the result back,
whatever has become of the value in the meantime.  The version of the value is
the number of writes so far, and every holder is remembered with the version it
has read or written last.

A write is *exact* if it leaves what the function makes of the value itself, and
*fresh* if nobody else has written since the holder's copy was taken.  Fresh
writes are exact; the converse holds along runs of exact writes when a rank of
the value counts the writes.

Other writes undo what was written meanwhile.  Even so no write ever counts
twice, as the last section shows.
-/

namespace Copies

variable {C V : Type*}

structure Store (C V : Type*) where
  value : V
  copy : C → Option V
  version : ℕ
  seen : C → ℕ

inductive Op (C V : Type*) where
  | read (c : C)
  | drop (c : C)
  | write (c : C) (f : V → V)

/-- What an operation makes of the value when it is applied to the value
itself. -/
def Op.effect : Op C V → V → V
  | .read _, v | .drop _, v => v
  | .write _ f, v => f v

/-- The copy that is written back. -/
def Op.write? : Op C V → Option C
  | .write c _ => some c
  | _ => none

/-- Nobody has a copy yet. -/
def Store.start (v : V) : Store C V where
  value := v
  copy := fun _ => none
  version := 0
  seen := fun _ => 0

variable [DecidableEq C]

def step (s : Store C V) : Op C V → Option (Store C V)
  | .read c =>
      some
        { s with
          copy := Function.update s.copy c (some s.value)
          seen := Function.update s.seen c s.version }
  | .drop c => some { s with copy := Function.update s.copy c none }
  | .write c f =>
      (s.copy c).map fun v =>
        { value := f v
          copy := Function.update s.copy c (some (f v))
          version := s.version + 1
          seen := Function.update s.seen c (s.version + 1) }

omit [DecidableEq C] in
/-- The copy that is written back has the version of the value. -/
def Fresh (s : Store C V) (o : Op C V) : Prop :=
  ∀ c ∈ o.write?, s.seen c = s.version

instance (s : Store C V) (o : Op C V) : Decidable (Fresh s o) :=
  inferInstanceAs (Decidable (∀ c ∈ o.write?, _))

/-- The write leaves what its function makes of the value. -/
def Exact (s : Store C V) : Op C V → Prop
  | .write c f => ∀ v, s.copy c = some v → f v = f s.value
  | .read _ | .drop _ => True

/-- The rank counts the write. -/
def Counted (rank : V → ℤ) : Op C V → Prop
  | .write _ f => ∀ v, rank (f v) = rank v + 1
  | .read _ | .drop _ => True

/-- A copy lags behind by the writes since its version. -/
structure Tracked (rank : V → ℤ) (s : Store C V) : Prop where
  seen : ∀ c, s.seen c ≤ s.version
  same : ∀ c v, s.copy c = some v → s.seen c = s.version → v = s.value
  lag : ∀ c v, s.copy c = some v →
    rank v + (s.version - s.seen c : ℕ) = rank s.value

omit [DecidableEq C] in
theorem tracked_start (rank : V → ℤ) (v : V) :
    Tracked rank (Store.start v : Store C V) :=
  ⟨fun _ => Nat.le_refl 0, nofun, nofun⟩

section Steps

variable {rank : V → ℤ} {s s' : Store C V} {o : Op C V}

/-- Fresh steps keep track of the copies. -/
theorem Tracked.step (h : Tracked rank s) (hcount : Counted rank o)
    (hfresh : Fresh s o) (hstep : step s o = some s') : Tracked rank s' := by
  cases o with
  | read c =>
      obtain rfl := Option.some.inj hstep
      refine ⟨fun d => ?_, fun d v hv hd => ?_, fun d v hv => ?_⟩
      · by_cases hdc : d = c
        · subst hdc
          simp
        · simp only [Function.update_of_ne hdc]
          exact h.seen d
      · by_cases hdc : d = c
        · subst hdc
          simp only [Function.update_self] at hv
          exact (Option.some.inj hv).symm
        · simp only [Function.update_of_ne hdc] at hv hd
          exact h.same d v hv hd
      · by_cases hdc : d = c
        · subst hdc
          simp only [Function.update_self] at hv ⊢
          rw [← Option.some.inj hv]
          simp
        · simp only [Function.update_of_ne hdc] at hv ⊢
          exact h.lag d v hv
  | drop c =>
      obtain rfl := Option.some.inj hstep
      have hother : ∀ d v, Function.update s.copy c none d = some v →
          s.copy d = some v := by
        intro d v hv
        by_cases hdc : d = c
        · subst hdc
          rw [Function.update_self] at hv
          exact absurd hv (by simp)
        · rwa [Function.update_of_ne hdc] at hv
      exact ⟨h.seen, fun d v hv => h.same d v (hother d v hv),
        fun d v hv => h.lag d v (hother d v hv)⟩
  | write c f =>
      obtain ⟨v, hv, rfl⟩ := Option.map_eq_some_iff.mp hstep
      have hvalue : v = s.value := h.same c v hv (hfresh c rfl)
      refine ⟨fun d => ?_, fun d w hw hd => ?_, fun d w hw => ?_⟩
      · by_cases hdc : d = c
        · subst hdc
          simp
        · simp only [Function.update_of_ne hdc]
          exact Nat.le_succ_of_le (h.seen d)
      · by_cases hdc : d = c
        · subst hdc
          simp only [Function.update_self] at hw
          exact (Option.some.inj hw).symm
        · simp only [Function.update_of_ne hdc] at hd
          have hle := h.seen d
          omega
      · by_cases hdc : d = c
        · subst hdc
          simp only [Function.update_self] at hw ⊢
          rw [← Option.some.inj hw]
          simp
        · simp only [Function.update_of_ne hdc] at hw ⊢
          have hlag := h.lag d w hw
          have hle := h.seen d
          have hrank : rank (f v) = rank s.value + 1 := by
            rw [hcount v, hvalue]
          rw [hrank]
          omega

/-- A write is exact if and only if it is fresh. -/
theorem Tracked.exact_iff (h : Tracked rank s) (hcount : Counted rank o)
    (hstep : Copies.step s o = some s') : Exact s o ↔ Fresh s o := by
  cases o with
  | read c => exact iff_of_true trivial nofun
  | drop c => exact iff_of_true trivial nofun
  | write c f =>
      obtain ⟨v, hv, -⟩ := Option.map_eq_some_iff.mp hstep
      constructor
      · intro hexact
        have hrank : rank (f v) = rank (f s.value) :=
          congrArg rank (hexact v hv)
        rw [hcount v, hcount s.value] at hrank
        have hlag := h.lag c v hv
        have hle := h.seen c
        rintro d ⟨⟩
        omega
      · intro hfresh w hw
        rw [h.same c w hw (hfresh c rfl)]

/-- An exact step does to the value what its operation says. -/
theorem value_of_exact (hexact : Exact s o) (hstep : Copies.step s o = some s') :
    s'.value = o.effect s.value := by
  cases o with
  | read c =>
      obtain rfl := Option.some.inj hstep
      rfl
  | drop c =>
      obtain rfl := Option.some.inj hstep
      rfl
  | write c f =>
      obtain ⟨v, hv, rfl⟩ := Option.map_eq_some_iff.mp hstep
      exact hexact v hv

end Steps

/-! ## Writes that are lost -/

/-- `v` is what some of the functions, in their order, make of `v₀`. -/
def Made (v₀ : V) (log : List (V → V)) (v : V) : Prop :=
  ∃ fs, List.Sublist fs log ∧ v = fs.foldl (fun w f => f w) v₀

/-- The functions that an operation writes with. -/
def Op.writes : Op C V → List (V → V)
  | .read _ | .drop _ => []
  | .write _ f => [f]

/-- The value and all copies are made by some of the writes so far. -/
structure Traced (v₀ : V) (log : List (V → V)) (s : Store C V) : Prop where
  value : Made v₀ log s.value
  copy : ∀ c v, s.copy c = some v → Made v₀ log v

theorem made_self (v₀ : V) (log : List (V → V)) : Made v₀ log v₀ :=
  ⟨[], List.nil_sublist log, rfl⟩

section Lost

variable {v₀ v : V} {log : List (V → V)} {s s' : Store C V} {o : Op C V}

theorem Made.append (h : Made v₀ log v) (more : List (V → V)) :
    Made v₀ (log ++ more) v := by
  obtain ⟨fs, hfs, rfl⟩ := h
  exact ⟨fs, hfs.trans (List.sublist_append_left log more), rfl⟩

/-- One more write on a value that is made. -/
theorem Made.write (h : Made v₀ log v) (f : V → V) :
    Made v₀ (log ++ [f]) (f v) := by
  obtain ⟨fs, hfs, rfl⟩ := h
  refine ⟨fs ++ [f], hfs.append (List.Sublist.refl [f]), ?_⟩
  rw [List.foldl_append]
  rfl

omit [DecidableEq C] in
theorem traced_start (v₀ : V) : Traced v₀ [] (Store.start v₀ : Store C V) :=
  ⟨made_self v₀ [], nofun⟩

/-- Writes may be lost, but none counts twice: every step leaves a value that is
made by some of the writes, in the order in which they came. -/
theorem Traced.step (h : Traced v₀ log s)
    (hstep : Copies.step s o = some s') : Traced v₀ (log ++ o.writes) s' := by
  cases o with
  | read c =>
      obtain rfl := Option.some.inj hstep
      refine ⟨h.value.append [], fun d v hv => Made.append ?_ []⟩
      by_cases hdc : d = c
      · subst hdc
        simp only [Function.update_self] at hv
        rw [← Option.some.inj hv]
        exact h.value
      · simp only [Function.update_of_ne hdc] at hv
        exact h.copy d v hv
  | drop c =>
      obtain rfl := Option.some.inj hstep
      refine ⟨h.value.append [], fun d v hv => Made.append ?_ []⟩
      by_cases hdc : d = c
      · subst hdc
        simp only [Function.update_self] at hv
        cases hv
      · simp only [Function.update_of_ne hdc] at hv
        exact h.copy d v hv
  | write c f =>
      obtain ⟨w, hw, rfl⟩ := Option.map_eq_some_iff.mp hstep
      have hnew : Made v₀ (log ++ [f]) (f w) := (h.copy c w hw).write f
      refine ⟨hnew, fun d v hv => ?_⟩
      by_cases hdc : d = c
      · subst hdc
        simp only [Function.update_self] at hv
        rw [← Option.some.inj hv]
        exact hnew
      · simp only [Function.update_of_ne hdc] at hv
        exact (h.copy d v hv).append [f]

end Lost

end Copies

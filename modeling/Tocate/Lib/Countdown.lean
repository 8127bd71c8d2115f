import Mathlib.Data.Nat.Notation

/-!
# Countdowns

A countdown of some time ticks when it is started and then after every
interval, and it expires when its time has passed.  A variable that every tick
sets to the time left holds, between two ticks, more than what is left.
-/

/-- A countdown of `total` that has been running for `elapsed`. -/
structure Countdown where
  total : ℕ
  elapsed : ℕ := 0
deriving DecidableEq, Repr

namespace Countdown

def left (c : Countdown) : ℕ := c.total - c.elapsed

def pass (d : ℕ) (c : Countdown) : Countdown :=
  { c with elapsed := c.elapsed + d }

section

variable (interval : ℕ)

def Ticks (c : Countdown) : Prop :=
  c.elapsed % interval = 0 ∧ c.elapsed < c.total

instance (c : Countdown) : Decidable (c.Ticks interval) :=
  inferInstanceAs (Decidable (_ ∧ _))

/-- The time to the next tick or to the end. -/
def due (c : Countdown) : ℕ :=
  min (interval - c.elapsed % interval) c.left

/-- What a variable with value `v` holds now, if every tick sets it. -/
def saved (c : Countdown) (v : ℕ) : ℕ :=
  if c.Ticks interval then c.left else v

/-- A variable that every tick has set. -/
structure Noted (c : Countdown) (v : ℕ) : Prop where
  pos : 0 < v
  left_le : c.left ≤ v
  eq_left_iff : v = c.left ↔ c.Ticks interval

end

variable {interval v d : ℕ} {c : Countdown}

theorem due_le_left : c.due interval ≤ c.left := Nat.min_le_right _ _

theorem left_pass : (c.pass d).left = c.left - d :=
  (Nat.sub_sub c.total c.elapsed d).symm

theorem left_start (total : ℕ) : ({ total := total } : Countdown).left = total :=
  rfl

/-- A countdown ticks before its end only. -/
theorem Ticks.left_pos (h : c.Ticks interval) : 0 < c.left :=
  Nat.sub_pos_of_lt h.2

theorem ticks_start {total : ℕ} (h : 0 < total) :
    ({ total := total } : Countdown).Ticks interval :=
  ⟨Nat.zero_mod interval, h⟩

/-- The first tick comes with the start. -/
theorem noted_start {total : ℕ} (h : 0 < total) :
    ({ total := total } : Countdown).Noted interval
      (({ total := total } : Countdown).saved interval v) := by
  have ht : ({ total := total } : Countdown).Ticks interval := ticks_start h
  unfold saved
  rw [if_pos ht]
  exact ⟨h, Nat.le_refl _, iff_of_true rfl ht⟩

/-- Time passes up to the next tick or a part of it. -/
theorem Noted.pass (h : c.Noted interval v) (hd : 0 < d)
    (hdue : d ≤ c.due interval) :
    (c.pass d).Noted interval ((c.pass d).saved interval v) := by
  have hleft : d ≤ c.left := Nat.le_trans hdue due_le_left
  have hle := h.left_le
  unfold saved
  split
  next ht => exact ⟨ht.left_pos, Nat.le_refl _, iff_of_true rfl ht⟩
  next ht =>
    have hlt : (c.pass d).left < v := by
      rw [left_pass]
      omega
    exact ⟨h.pos, Nat.le_of_lt hlt,
      iff_of_false (Nat.ne_of_gt hlt) ht⟩

end Countdown

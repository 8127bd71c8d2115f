import Mathlib.Data.Option.Basic

/-!
# The life cycle of a screen

The callbacks that the system makes to one instance of a screen, in the order in
which it makes them.  An instance that has been destroyed has no further
callbacks.
-/

namespace LifeCycle

inductive Callback where
  | onCreate
  | onStart
  | onResume
  | onPause
  | onStop
  | onRestart
deriving DecidableEq, Repr

/-- The last callback that the instance has had, if it has had any. -/
inductive Phase where
  | launched
  | created
  | started
  | resumed
  | paused
  | stopped
  | restarted
deriving DecidableEq, Repr

namespace Phase

def next : Phase → Callback → Option Phase
  | .launched, .onCreate => some .created
  | .created, .onStart => some .started
  | .started, .onResume => some .resumed
  | .started, .onStop => some .stopped
  | .resumed, .onPause => some .paused
  | .paused, .onResume => some .resumed
  | .paused, .onStop => some .stopped
  | .stopped, .onRestart => some .restarted
  | .restarted, .onStart => some .started
  | _, _ => none

/-- The phase after an event, which may be a callback. -/
def after (p : Phase) : Option Callback → Option Phase
  | none => some p
  | some c => p.next c

/-- The instance is started, or the system is starting it. -/
def up : Phase → Bool
  | .launched | .stopped => false
  | .created | .started | .resumed | .paused | .restarted => true

/-- An instance comes down by `onStop` only, and comes up by every other
callback. -/
theorem up_next {p q : Phase} {c : Callback} (h : p.next c = some q) :
    q.up = decide (c ≠ .onStop) := by
  cases p <;> cases c <;> cases h <;> rfl

/-- An event that is no callback, or another callback than `onStop`, takes no
instance down. -/
theorem up_after {p q : Phase} {o : Option Callback} (h : p.after o = some q)
    (ho : o ≠ some .onStop) (hp : p.up = true) : q.up = true := by
  cases o with
  | none =>
      cases h
      exact hp
  | some c =>
      rw [up_next h]
      exact decide_eq_true fun hc => ho (congrArg some hc)

end Phase

end LifeCycle

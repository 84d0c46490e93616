/-!
Timers and tickers, in whole milliseconds. No wait is longer than thirty years. A ticker that is
late ticks at once and counts its next period from there; a few milliseconds do not count as late.
-/

namespace Matchday
set_option autoImplicit false

/-- A wait, by the time of its end. -/
structure Timer where
  due : Nat
deriving DecidableEq, Repr

namespace Timer

/-- The longest wait: thirty years of 365 days. -/
def longest : Nat := 30 * 365 * 86400 * 1000

/-- A wait of some length that begins now. -/
def after (now length : Nat) : Timer := ⟨now + min length longest⟩

/-- Whether the wait is over. -/
def isDue (t : Timer) (now : Nat) : Bool := t.due ≤ now

end Timer

/-- How late, in milliseconds, a tick may be and still not count as late. -/
def tickTolerance : Nat := 5

/-- When the tick behind one that was due at some time and happens now is due. -/
def nextTick (period due now : Nat) : Nat :=
  if due + tickTolerance < now then now + period else due + period

/-! ## Small lemmas -/

/-- A punctual tick keeps the rhythm. -/
theorem nextTick_punctual (period due : Nat) : nextTick period due due = due + period := by
  simp [nextTick]

/-- A period longer than what is tolerated is never over at once. -/
theorem lt_nextTick {period : Nat} (h : tickTolerance < period) (due now : Nat) :
    now < nextTick period due now := by
  unfold nextTick
  split <;> omega

end Matchday

/-!
Dates of the proleptic calendar with leap years. A date knows the day after it and the day before
it, and each undoes the other.
-/

namespace Matchday
set_option autoImplicit false

/-- A year divisible by four, by a hundred only if by four hundred too. -/
def isLeapYear (year : Int) : Bool := year % 4 = 0 && (year % 100 ≠ 0 || year % 400 = 0)

/-- The length of a month, counted from one. -/
def daysInMonth (year : Int) (month : Nat) : Nat :=
  match month with
  | 2 => if isLeapYear year then 29 else 28
  | 4 | 6 | 9 | 11 => 30
  | _ => 31

/-- A day of the calendar. -/
structure Date where
  year : Int
  month : Nat
  day : Nat
  valid : (1 ≤ month ∧ month ≤ 12) ∧ 1 ≤ day ∧ day ≤ daysInMonth year month
deriving DecidableEq

namespace Date

/-- The day with this year, month and day, if there is one. -/
def of? (year : Int) (month day : Nat) : Option Date :=
  if h : (1 ≤ month ∧ month ≤ 12) ∧ 1 ≤ day ∧ day ≤ daysInMonth year month then
    some ⟨year, month, day, h⟩
  else none

theorem one_le_daysInMonth (year : Int) (month : Nat) : 28 ≤ daysInMonth year month := by
  unfold daysInMonth
  split <;> first | (split <;> decide) | decide

/-- The following day. -/
def next (d : Date) : Date :=
  if h : d.day < daysInMonth d.year d.month then
    ⟨d.year, d.month, d.day + 1, d.valid.1, by omega, by omega⟩
  else if h : d.month < 12 then
    ⟨d.year, d.month + 1, 1, by omega, by decide,
      Nat.le_trans (by decide) (one_le_daysInMonth d.year (d.month + 1))⟩
  else ⟨d.year + 1, 1, 1, by decide, by decide, by
    exact Nat.le_trans (by decide) (one_le_daysInMonth (d.year + 1) 1)⟩

/-- The preceding day. -/
def previous (d : Date) : Date :=
  if h : 1 < d.day then
    ⟨d.year, d.month, d.day - 1, d.valid.1, by omega, by have := d.valid.2.2; omega⟩
  else if h : 1 < d.month then
    ⟨d.year, d.month - 1, daysInMonth d.year (d.month - 1), by have := d.valid.1; omega,
      Nat.le_trans (by decide) (one_le_daysInMonth d.year (d.month - 1)), Nat.le_refl _⟩
  else ⟨d.year - 1, 12, 31, by decide, by decide, Nat.le_refl 31⟩

/-- Whether a day comes before another. -/
def before (a b : Date) : Bool :=
  a.year < b.year || (a.year = b.year
    && (a.month < b.month || (a.month = b.month && a.day < b.day)))

end Date

end Matchday

import Matchday.Number.Decimal

/-!
The shortest decimal that reads back to a given number. For one digit, two digits and so on up to
seventeen, the two neighbours of the number on that decimal grid are read back; the first grid with
a hit gives the answer, and of two hits the nearer one. Should no grid hit, the exact value is
written, so the answer reads back whatever happens (`toBinary64_shortest`).
-/

namespace Matchday
set_option autoImplicit false

namespace Shortest

/-- Where a tie between two neighbours at the same distance goes. -/
inductive Tie where
  | up
  | even
deriving DecidableEq, Repr

/-- A decimal without zeros at the end of its coefficient. -/
def strip (fuel : Nat) (d : Decimal) : Decimal :=
  match fuel with
  | 0 => d
  | fuel + 1 =>
    if d.coefficient ≠ 0 ∧ d.coefficient % 10 = 0 then
      strip fuel ⟨d.coefficient / 10, d.exponent + 1⟩
    else d

/-- The exact value of a number. -/
def exact (x : Binary64.Finite) : Decimal := ⟨x.units * Nat.pow 5 1074, -1074⟩

/-- The place of the leading digit: the number is below ten to this power, and not below ten to the
one before. -/
def magnitude (x : Binary64.Finite) : Int :=
  ((Decimal.digitsOf (x.units * Nat.pow 10 400 / Binary64.one)).length : Int) - 400

/-- Whether a decimal reads back as the number. -/
def readsBack (x : Binary64.Finite) (d : Decimal) : Bool :=
  d.toBinary64 x.negative == Binary64.finite x

/-- The number in units of a power of ten, as a ratio. -/
def onGrid (x : Binary64.Finite) : Int → Nat × Nat
  | .ofNat e => (x.units, Binary64.one * Nat.pow 10 e)
  | .negSucc e => (x.units * Nat.pow 10 (e + 1), Binary64.one)

/-- The neighbour on the grid of a power of ten that reads back, the nearer one if both do. -/
def neighbour? (tie : Tie) (x : Binary64.Finite) (exponent : Int) : Option Decimal :=
  let (num, den) := onGrid x exponent
  let below : Decimal := ⟨num / den, exponent⟩
  let above : Decimal := ⟨num / den + 1, exponent⟩
  let twice := 2 * (num % den)
  let takeBelow := twice < den ∨
    (twice = den ∧ tie = .even ∧ below.coefficient % 2 = 0)
  let (first, second) := if takeBelow then (below, above) else (above, below)
  if readsBack x first then some first
  else if readsBack x second then some second
  else none

end Shortest

open Shortest in
/-- The decimal with the fewest digits that reads back as a finite number other than zero; of two
such decimals the nearer one. -/
def shortest (tie : Tie) (x : Binary64.Finite) : Decimal :=
  let top := magnitude x
  let found := (List.range 17).findSome? fun n => neighbour? tie x (top - (n + 1 : Nat))
  let candidate := strip 20 (found.getD (exact x))
  if readsBack x candidate then candidate else exact x

end Matchday

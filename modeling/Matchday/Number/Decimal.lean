import Matchday.Number.Binary64

/-!
Decimal numbers and the binary number nearest to one. Very large and very small decimals are settled
by their size alone, so an exponent of any length can be read.
-/

namespace Matchday
set_option autoImplicit false

/-- The number `coefficient * 10 ^ exponent`. -/
structure Decimal where
  coefficient : Nat
  exponent : Int
deriving DecidableEq, Repr

namespace Decimal

/-- The number that a row of digits spells, the first counting most. -/
def ofDigits (digits : List Nat) : Nat := digits.foldl (fun n d => n * 10 + d) 0

/-- The digits of a number, without leading zeros; zero has none. -/
def digitsOf (n : Nat) : List Nat :=
  if n = 0 then [] else digitsOf (n / 10) ++ [n % 10]
termination_by n

/-- The value of a decimal digit. -/
def digitValue? (c : Char) : Option Nat :=
  if '0' ≤ c ∧ c ≤ '9' then some (c.toNat - '0'.toNat) else none

/-- A digit below ten as a character. -/
def digitChar (d : Nat) : Char := Char.ofNat ('0'.toNat + d)

/-- The leading digits of a text, and what follows them. -/
def takeDigits : List Char → List Nat × List Char
  | [] => ([], [])
  | c :: rest =>
    match digitValue? c with
    | none => ([], c :: rest)
    | some d => ((d :: (takeDigits rest).1), (takeDigits rest).2)

/-- A natural number in decimal. -/
def natText (n : Nat) : List Char :=
  if n = 0 then ['0'] else (digitsOf n).map digitChar

/-- The nearest number of the 64-bit format. A positive exponent above 400 is beyond the format
whatever the coefficient, and so is, towards zero, a negative one that exceeds the coefficient's
length by as much. -/
def toBinary64 (negative : Bool) (d : Decimal) : Binary64 :=
  if d.coefficient = 0 then Binary64.zero negative
  else match d.exponent with
    | .ofNat e =>
      if 400 < e then Binary64.infinite negative
      else Binary64.ofRatio negative (d.coefficient * Nat.pow 10 e) 1
    | .negSucc e =>
      if 400 + d.coefficient.log2 < e then Binary64.zero negative
      else Binary64.ofRatio negative d.coefficient (Nat.pow 10 (e + 1))

end Decimal

end Matchday

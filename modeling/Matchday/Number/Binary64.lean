/-!
Floating-point numbers in the 64-bit binary format, as exact values. A finite number is a whole
number of units of 2⁻¹⁰⁷⁴, the gap between the two smallest ones; rounding a ratio goes to the
nearest number of the format, and from half-way to the one with the even mantissa.
-/

namespace Matchday
set_option autoImplicit false

/-- A finite number of the format: `mantissa * 2 ^ scale` units of 2⁻¹⁰⁷⁴ on one side of zero. Zero
has a sign too. Only the numbers of scale zero may have a short mantissa, so each is written once.
-/
structure Binary64.Finite where
  negative : Bool
  mantissa : Nat
  scale : Nat
  normal : mantissa < Nat.pow 2 53 ∧ scale ≤ 2045 ∧ (scale = 0 ∨ Nat.pow 2 52 ≤ mantissa)
deriving DecidableEq

/-- A number of the format: finite, infinite on either side, or not a number. -/
inductive Binary64 where
  | finite (x : Binary64.Finite)
  | infinite (negative : Bool)
  | nan
deriving DecidableEq

namespace Binary64

/-- The number of units in one. -/
def one : Nat := Nat.pow 2 1074

namespace Finite

/-- The distance from zero, in units. -/
def units (x : Finite) : Nat := x.mantissa * Nat.pow 2 x.scale

/-- The place on the number line, in units. -/
def signedUnits (x : Finite) : Int := if x.negative then -(x.units : Int) else x.units

/-- Zero, with a sign. -/
def zero (negative : Bool) : Finite := ⟨negative, 0, 0, by decide⟩

/-- The same distance from zero on the other side. -/
def neg (x : Finite) : Finite := { x with negative := !x.negative }

end Finite

/-- The same distance from zero on the other side. -/
def neg : Binary64 → Binary64
  | finite x => finite x.neg
  | infinite n => infinite (!n)
  | nan => nan

/-- Zero, with a sign. -/
def zero (negative : Bool) : Binary64 := finite (Finite.zero negative)

/-- A finite number no further from zero than a whole number is. -/
def within (bound : Nat) : Binary64 → Bool
  | finite x => x.units ≤ bound * one
  | _ => false

/-! ## Rounding -/

/-- The nearest natural number to a ratio; from half-way, the even one. -/
def nearest (num den : Nat) : Nat :=
  let below := num / den
  let twice := 2 * (num % den)
  if twice < den ∨ (twice = den ∧ below % 2 = 0) then below else below + 1

/-- The number with a given mantissa and scale; a mantissa of 2⁵³ counts as the next scale's
smallest, and what lies beyond the largest finite number is infinite. -/
def ofMantissa (negative : Bool) (mantissa scale : Nat) : Binary64 :=
  let (m, s) :=
    if mantissa = Nat.pow 2 53 then (Nat.pow 2 52, scale + 1) else (mantissa, scale)
  if h : m < Nat.pow 2 53 ∧ s ≤ 2045 ∧ (s = 0 ∨ Nat.pow 2 52 ≤ m) then
    finite ⟨negative, m, s, h⟩
  else infinite negative

/-- The number nearest to the ratio of two natural numbers, with the given sign. The denominator is
positive. -/
def ofRatio (negative : Bool) (num den : Nat) : Binary64 :=
  let whole := num * one / den
  let scale := whole.log2 + 1 - 53
  ofMantissa negative (nearest (num * one) (den * Nat.pow 2 scale)) scale

/-- The number nearest to a natural number. -/
def ofNat (n : Nat) : Binary64 := ofRatio false n 1

/-! ## Arithmetic with powers of ten -/

/-- The number nearest to a power of ten. -/
def powerOfTen (k : Nat) : Binary64 := ofNat (Nat.pow 10 k)

/-- The product, rounded. Used only on numbers that are not negative. -/
def mul : Binary64 → Binary64 → Binary64
  | finite x, finite y => ofRatio (x.negative != y.negative) (x.units * y.units) (one * one)
  | nan, _ | _, nan => nan
  | infinite a, infinite b => infinite (a != b)
  | infinite a, finite y => if y.units = 0 then nan else infinite (a != y.negative)
  | finite x, infinite b => if x.units = 0 then nan else infinite (x.negative != b)

/-- The quotient, rounded. -/
def div : Binary64 → Binary64 → Binary64
  | finite x, finite y =>
    if y.units = 0 then
      if x.units = 0 then nan else infinite (x.negative != y.negative)
    else ofRatio (x.negative != y.negative) x.units y.units
  | nan, _ | _, nan => nan
  | infinite _, infinite _ => nan
  | infinite a, finite y => infinite (a != y.negative)
  | finite x, infinite b => zero (x.negative != b)

/-- A number that is neither infinite nor NaN. -/
def isFinite : Binary64 → Bool
  | finite _ => true
  | _ => false

/-! ## Small lemmas -/

theorem neg_neg (x : Binary64) : x.neg.neg = x := by
  cases x <;> simp [neg, Finite.neg]

theorem isFinite_of_within {bound : Nat} {x : Binary64} (h : x.within bound = true) :
    x.isFinite = true := by
  cases x <;> simp_all [within, isFinite]

theorem nearest_mul_self {n d : Nat} (hd : 0 < d) : nearest (n * d) d = n := by
  simp [nearest, Nat.mul_div_cancel n hd, hd]

end Binary64

end Matchday

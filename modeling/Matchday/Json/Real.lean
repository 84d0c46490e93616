import Matchday.Json.Basic
import Matchday.Number.Shortest

/-!
Floating-point numbers in JSON. They are written with the fewest digits that read back as the
number, always with a point or an exponent. They are read in two steps: the digits that fit into
sixty-four bits are rounded to a binary number, which is then multiplied or divided by a power of
ten; so a long row of digits need not give the nearest number, while one of up to fifteen digits
does.
-/

namespace Matchday.Json
set_option autoImplicit false

/-! ## Reading -/

/-- Digits appended to a number as long as the result fits into sixty-four bits, and those left. -/
def fill (n : Nat) : List Nat → Nat × List Nat
  | [] => (n, [])
  | d :: ds => if n * 10 + d < Nat.pow 2 64 then fill (n * 10 + d) ds else (n, d :: ds)

/-- Division by a power of ten, in steps of at most 10³⁰⁸. -/
def scaleDown (x : Binary64) (k : Nat) : Binary64 :=
  if k ≤ 308 then x.div (Binary64.powerOfTen k)
  else if x = Binary64.zero false then x
  else scaleDown (x.div (Binary64.powerOfTen 308)) (k - 308)
termination_by k

/-- A number times a power of ten; none if it is infinite. -/
def scale? (x : Binary64) : Int → Option Binary64
  | .ofNat k =>
    if x = Binary64.zero false then some x
    else if 308 < k then none
    else
      let y := x.mul (Binary64.powerOfTen k)
      if y.isFinite then some y else none
  | .negSucc k => some (scaleDown x (k + 1))

/-- The floating-point number that a JSON number stands for. -/
def Number.real? (n : Number) : Option Binary64 :=
  let (leading, dropped) := fill 0 n.whole
  let fraction := n.fraction.getD []
  let (digits, ignored) := fill leading fraction
  let exponent : Int :=
    dropped.length - (fraction.length - ignored.length : Nat) + n.exponent.getD 0
  (scale? (Binary64.ofNat digits) exponent).map fun x => if n.negative then x.neg else x

/-- A floating-point number. -/
def real? : Json → Option Binary64
  | .number n => n.real?
  | _ => none

/-! ## Writing -/

/-- A decimal as a JSON number: positional if its leading digit stands between the fifth place
behind the point and the sixteenth in front of it, with an exponent otherwise. -/
def Number.ofDecimal (negative : Bool) (d : Decimal) : Number :=
  let digits := Decimal.digitsOf d.coefficient
  let point : Int := digits.length + d.exponent
  if 16 < point ∨ point < -4 then
    ⟨negative, digits.take 1, if digits.length = 1 then none else some (digits.drop 1),
      some (point - 1)⟩
  else if point ≤ 0 then
    ⟨negative, [0], some (List.replicate (-point).toNat 0 ++ digits), none⟩
  else
    let places := point.toNat
    if digits.length ≤ places then
      ⟨negative, digits ++ List.replicate (places - digits.length) 0, some [0], none⟩
    else ⟨negative, digits.take places, some (digits.drop places), none⟩

/-- A floating-point number as JSON; one that is not finite becomes null. -/
def ofReal : Binary64 → Json
  | .finite x =>
    .number (if x.mantissa = 0 then ⟨x.negative, [0], some [0], none⟩
      else Number.ofDecimal x.negative (shortest .even x))
  | _ => .null

end Matchday.Json

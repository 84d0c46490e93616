import Matchday.Number.Shortest

/-!
A number as messages show it: its shortest digits in positional notation, whatever its size, and
with no point unless digits follow it.
-/

namespace Matchday
set_option autoImplicit false

/-- The digits of a decimal in positional notation. -/
def Decimal.positional (d : Decimal) : List Char :=
  let digits := (Decimal.digitsOf d.coefficient).map Decimal.digitChar
  match d.exponent with
  | .ofNat e => digits ++ List.replicate e '0'
  | .negSucc e =>
    let places := e + 1
    if digits.length ≤ places then
      ['0', '.'] ++ List.replicate (places - digits.length) '0' ++ digits
    else
      digits.take (digits.length - places) ++ '.' :: digits.drop (digits.length - places)

/-- The text of a number; a tie between shortest forms goes away from zero. -/
def Binary64.plainText : Binary64 → String
  | nan => "NaN"
  | infinite negative => if negative then "-inf" else "inf"
  | finite x =>
    let digits := if x.mantissa = 0 then ['0'] else (shortest .up x).positional
    String.ofList (if x.negative then '-' :: digits else digits)

end Matchday

import Matchday.Number.Decimal
import Matchday.Text.Case

/-!
Reading a number from text: an optional sign, then digits with an optional point (a digit on one
side of it is enough) and an optional exponent, or one of the words `inf`, `infinity` and `nan` in
any case. The result is the nearest number of the 64-bit format; too large a number is infinite.
-/

namespace Matchday
set_option autoImplicit false

/-- Why a text is not a number. -/
inductive LiteralError where
  | empty
  | malformed
deriving DecidableEq, Repr

/-- The wording of the two causes. -/
def LiteralError.message : LiteralError → String
  | empty => "cannot parse float from empty string"
  | malformed => "invalid float literal"

namespace Literal

/-- A sign in front of a text, `true` for minus, and what follows it. -/
def takeSign : List Char → Bool × List Char
  | '+' :: rest => (false, rest)
  | '-' :: rest => (true, rest)
  | rest => (false, rest)

/-- The exponent after the digits: nothing, or a marker, an optional sign and digits. -/
def readExponent? : List Char → Option Int
  | [] => some 0
  | c :: rest =>
    if Text.lower c = 'e' then
      let signed := takeSign rest
      match Decimal.takeDigits signed.2 with
      | ([], _) => none
      | (ds, []) =>
        let n : Int := Decimal.ofDigits ds
        some (if signed.1 then -n else n)
      | (_, _ :: _) => none
    else none

/-- The digits in front of and behind the point, and what follows them. -/
def takeParts (cs : List Char) : List Nat × List Nat × List Char :=
  match Decimal.takeDigits cs with
  | (whole, '.' :: rest) => (whole, (Decimal.takeDigits rest).1, (Decimal.takeDigits rest).2)
  | (whole, rest) => (whole, [], rest)

/-- A number written in digits. -/
def readDecimal? (cs : List Char) : Option Decimal :=
  match takeParts cs with
  | ([], [], _) => none
  | (whole, fraction, rest) =>
    (readExponent? rest).map fun e => ⟨Decimal.ofDigits (whole ++ fraction), e - fraction.length⟩

/-- A number without its sign: one of the three words, or digits. -/
def readUnsigned? (negative : Bool) (cs : List Char) : Option Binary64 :=
  let word := cs.map Text.lower
  if word = "inf".toList ∨ word = "infinity".toList then some (Binary64.infinite negative)
  else if word = "nan".toList then some Binary64.nan
  else (readDecimal? cs).map (Decimal.toBinary64 negative)

/-- A number from the whole of a text. -/
def read (cs : List Char) : Except LiteralError Binary64 :=
  if cs = [] then .error .empty
  else
    let signed := takeSign cs
    match readUnsigned? signed.1 signed.2 with
    | some x => .ok x
    | none => .error .malformed

end Literal

end Matchday

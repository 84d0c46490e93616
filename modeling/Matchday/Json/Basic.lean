import Matchday.Number.Decimal

/-!
JSON documents. Numbers keep their digits and objects keep their members in order, repeated names
included, because a record's decoder refuses a repeated field. A string that pairs surrogates badly
has no text: it may stand where nobody reads it and nowhere else.
-/

namespace Matchday
set_option autoImplicit false

/-- A number as it is written: the digits before the point, those behind it if there is one, and the
exponent if one is given. -/
structure Json.Number where
  negative : Bool
  whole : List Nat
  fraction : Option (List Nat)
  exponent : Option Int
deriving DecidableEq, Repr

/-- A JSON value. -/
inductive Json where
  | null
  | bool (b : Bool)
  | number (n : Json.Number)
  | string (text : Option String)
  | array (items : List Json)
  | object (members : List (Option String × Json))

namespace Json

/-- The number of an integer. -/
def ofInt (n : Int) : Json :=
  .number ⟨n < 0, if n = 0 then [0] else Decimal.digitsOf n.natAbs, none, none⟩

/-- A string with this text. -/
def ofText (s : String) : Json := .string (some s)

/-- An object with these members. -/
def record (members : List (String × Json)) : Json :=
  .object (members.map fun m => (some m.1, m.2))

end Json

end Matchday

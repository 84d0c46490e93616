import Matchday.Json.Basic
import Matchday.Text.Quoted

/-!
The compact text of a JSON document: no blanks, members in their order. Quotation mark, backslash
and control characters are escaped in strings and nothing else is; a positive exponent has its sign.
-/

namespace Matchday.Json
set_option autoImplicit false

/-- One character inside a string. -/
def stringChar (c : Char) : List Char :=
  if c = '"' then ['\\', '"']
  else if c = '\\' then ['\\', '\\']
  else if c = '\x08' then ['\\', 'b']
  else if c = '\x0c' then ['\\', 'f']
  else if c = '\n' then ['\\', 'n']
  else if c = '\r' then ['\\', 'r']
  else if c = '\t' then ['\\', 't']
  else if c.toNat < 0x20 then
    ['\\', 'u', '0', '0', Text.hexDigit (c.toNat / 16), Text.hexDigit (c.toNat % 16)]
  else [c]

/-- A string; one without text is empty. -/
def stringText (s : Option String) : List Char :=
  '"' :: (s.getD "").toList.flatMap stringChar ++ ['"']

/-- The digits of a number as they are written. -/
def digitsText (ds : List Nat) : List Char := ds.map Decimal.digitChar

/-- An exponent, with its sign. -/
def exponentText (e : Int) : List Char :=
  'e' :: (if e < 0 then '-' else '+') :: Decimal.natText e.natAbs

/-- A number. -/
def Number.render (n : Number) : List Char :=
  (if n.negative then ['-'] else []) ++ digitsText n.whole
    ++ (match n.fraction with
      | none => []
      | some ds => '.' :: digitsText ds)
    ++ (match n.exponent with
      | none => []
      | some e => exponentText e)

mutual

/-- A value. -/
def render : Json → List Char
  | .null => "null".toList
  | .bool true => "true".toList
  | .bool false => "false".toList
  | .number n => n.render
  | .string s => stringText s
  | .array items => '[' :: renderItems items ++ [']']
  | .object members => '\x7b' :: renderMembers members ++ ['\x7d']

/-- The items of an array, with commas between them. -/
def renderItems : List Json → List Char
  | [] => []
  | [v] => render v
  | v :: w :: vs => render v ++ ',' :: renderItems (w :: vs)

/-- The members of an object, with commas between them. -/
def renderMembers : List (Option String × Json) → List Char
  | [] => []
  | [(name, v)] => stringText name ++ ':' :: render v
  | (name, v) :: m :: ms => stringText name ++ ':' :: render v ++ ',' :: renderMembers (m :: ms)

end

/-- The text of a document. -/
def toText (v : Json) : String := String.ofList (render v)

end Matchday.Json

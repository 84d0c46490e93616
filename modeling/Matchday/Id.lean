import Matchday.Text.Case
import Matchday.Text.Hex

/-!
Identifiers of sixteen bytes that know what they identify: an event's identifier is no member's. The
written form is 32 lower-case hexadecimal digits in groups of 8, 4, 4, 4 and 12 with hyphens between
them. Read are this form, alone, in braces or behind `urn:uuid:`, and the digits without hyphens;
letters may be of either case.
-/

namespace Matchday
set_option autoImplicit false

/-- What an identifier can stand for. -/
inductive Entity where
  | event
  | member
  | payment
deriving DecidableEq, Repr

/-- The name of a kind of entity. -/
def Entity.name : Entity → String
  | event => "Event"
  | member => "Member"
  | payment => "Payment"

/-- Sixteen bytes that identify an entity of one kind. -/
structure Id (e : Entity) where
  bytes : List UInt8
  size : bytes.length = 16
deriving DecidableEq

/-- The identifier of an event. -/
abbrev EventId := Id .event

/-- The identifier of a member. -/
abbrev MemberId := Id .member

/-- The identifier of a payment. -/
abbrev PaymentId := Id .payment

namespace Id
variable {e : Entity}

/-! ## Order -/

/-- The order of two rows of bytes, decided by the first difference. -/
def compareBytes : List UInt8 → List UInt8 → Ordering
  | [], [] => .eq
  | [], _ :: _ => .lt
  | _ :: _, [] => .gt
  | a :: as, b :: bs => if a < b then .lt else if b < a then .gt else compareBytes as bs

/-- The order of two identifiers is that of their bytes. -/
protected def compare (a b : Id e) : Ordering := compareBytes a.bytes b.bytes

/-- Identifiers in their order. -/
def sort (ids : List (Id e)) : List (Id e) := ids.mergeSort fun a b => (a.compare b).isLE

/-- The number of different identifiers in a list. -/
def countDistinct (ids : List (Id e)) : Nat := ids.eraseDups.length

/-! ## Text -/

/-- The lengths of the groups of digits. -/
def groups : List Nat := [8, 4, 4, 4, 12]

/-- The 32 digits, in lower case. -/
def digits (id : Id e) : List Char :=
  id.bytes.flatMap fun b => [Text.hexDigit (b.toNat / 16), Text.hexDigit (b.toNat % 16)]

/-- Digits in groups of given lengths, with hyphens between them. -/
def group : List Nat → List Char → List Char
  | [], cs => cs
  | [_], cs => cs
  | n :: ns, cs => cs.take n ++ '-' :: group ns (cs.drop n)

/-- The digits of a text in groups of given lengths with hyphens between them. -/
def ungroup? : List Nat → List Char → Option (List Char)
  | [], cs => if cs = [] then some [] else none
  | [n], cs => if cs.length = n then some cs else none
  | n :: ns, cs =>
    match cs.drop n with
    | '-' :: rest => (ungroup? ns rest).map (cs.take n ++ ·)
    | _ => none

/-- The bytes of a row of digits, two each. -/
def ofDigits? : List Char → Option (List UInt8)
  | [] => some []
  | [_] => none
  | a :: b :: rest => do
    let high ← Text.hexValue? a
    let low ← Text.hexValue? b
    let tail ← ofDigits? rest
    some (UInt8.ofNat (high * 16 + low) :: tail)

/-- The part of a text that holds the grouped digits: all of it, or what stands in braces or behind
the word. -/
def unwrap? (cs : List Char) : Option (List Char) :=
  if cs.length = 36 then some cs
  else if cs.length = 38 then
    if cs.head? = some '\x7b' ∧ cs.getLast? = some '\x7d' then some (cs.drop 1).dropLast else none
  else if cs.length = 45 ∧ (cs.take 9).map Text.lower = "urn:uuid:".toList then some (cs.drop 9)
  else none

/-- The 32 digits of a text in any of the accepted forms. -/
def digits? (cs : List Char) : Option (List Char) :=
  if cs.length = 32 then some cs else (unwrap? cs).bind (ungroup? groups)

/-- The identifier with these bytes, if there are sixteen. -/
def ofBytes? (bytes : List UInt8) : Option (Id e) :=
  if h : bytes.length = 16 then some ⟨bytes, h⟩ else none

/-- The identifier that a text spells. -/
def read? (text : String) : Option (Id e) :=
  (digits? text.toList).bind fun ds => (ofDigits? ds).bind ofBytes?

/-- The written form. -/
def toText (id : Id e) : String := String.ofList (group groups id.digits)

/-- The written form with the kind of entity around it. -/
def describe (id : Id e) : String := "Id<" ++ e.name ++ ">(" ++ id.toText ++ ")"

/-! ## In a database -/

/-- The bytes sent to a database, as digits. -/
def binaryText (id : Id e) : String := String.ofList id.digits

/-- The database's type for an identifier. -/
def columnType : String := "UUID"

/-- The database's type for a list of identifiers. -/
def columnArrayType : String := columnType ++ "[]"

end Id

end Matchday

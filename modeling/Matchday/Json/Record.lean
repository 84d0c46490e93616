import Matchday.Json.Basic

/-!
Decoding records. A record is given as an object or, in the order of its fields, as an array. In an
object fields may come in any order, unknown members are passed over, a known field may not come
twice, and every name must be text. In an array nothing may follow the last field.
-/

namespace Matchday.Json
set_option autoImplicit false

/-- Whether a field may be left out: never, from an object only, or, at the end, from an array as
well. -/
inductive Presence where
  | required
  | optional
  | defaulted
deriving DecidableEq, Repr

/-- A field's name and whether it may be left out. -/
structure Field where
  name : String
  presence : Presence
deriving DecidableEq, Repr

/-- A field that must be given. -/
def Field.must (name : String) : Field := ⟨name, .required⟩

/-- A field that an object may leave out. -/
def Field.may (name : String) : Field := ⟨name, .optional⟩

/-- The values given for a name. -/
def valuesOf (name : String) (members : List (Option String × Json)) : List Json :=
  (members.filter fun m => m.1 = some name).map Prod.snd

/-- The value of one field of an object; `none` inside means that it is left out. -/
def memberField? (members : List (Option String × Json)) (f : Field) : Option (Option Json) :=
  match valuesOf f.name members with
  | [] => if f.presence = .required then none else some none
  | [v] => some (some v)
  | _ :: _ :: _ => none

/-- The values of the fields from an array. -/
def itemFields? : List Field → List Json → Option (List (Option Json))
  | [], [] => some []
  | [], _ :: _ => none
  | f :: fs, [] => if f.presence = .defaulted then (itemFields? fs []).map (none :: ·) else none
  | _ :: fs, v :: vs => (itemFields? fs vs).map (some v :: ·)

/-- What is given for each field of a record, in the order of the fields. -/
def fields? (fs : List Field) : Json → Option (List (Option Json))
  | .object members =>
    if members.all fun m => m.1.isSome then fs.mapM (memberField? members) else none
  | .array items => itemFields? fs items
  | _ => none

/-! ## Single values -/

/-- The text of a string. -/
def text? : Json → Option String
  | .string s => s
  | _ => none

/-- The items of an array, each decoded. -/
def listOf? {α : Type} (decode : Json → Option α) : Json → Option (List α)
  | .array items => items.mapM decode
  | _ => none

/-- A value that may be absent or null. -/
def nullable? {α : Type} (decode : Json → Option α) : Option Json → Option (Option α)
  | none | some .null => some none
  | some v => (decode v).map some

/-- An integer between two bounds: digits alone, and no sign in front of zero. -/
def intBetween? (low high : Int) : Json → Option Int
  | .number ⟨negative, whole, none, none⟩ =>
    let n : Int := Decimal.ofDigits whole
    if negative then
      if n = 0 ∨ -n < low then none else some (-n)
    else if high < n then none else some n
  | _ => none

/-- One of several names: a string, or an object with that one member, which is null. -/
def choice? {α : Type} (ofName : String → Option α) : Json → Option α
  | .string (some s) => ofName s
  | .object [(some s, .null)] => ofName s
  | _ => none

end Matchday.Json

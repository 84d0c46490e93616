import Matchday.Json.Token

/-!
Reading a JSON document. The tokens drive a machine whose stack holds the arrays and objects that
are still open, so documents may be nested to any depth.
-/

namespace Matchday.Json
set_option autoImplicit false

/-- An array or object that is still open, last item first; an object may wait for the value of a
member. -/
inductive Frame where
  | array (items : List Json)
  | object (members : List (Option String × Json))
  | member (members : List (Option String × Json)) (name : Option String)

/-- What may come next. -/
inductive Due where
  | value
  | itemOrClose
  | nameOrClose
  | name
  | colon (name : Option String)
  | commaOrClose
  | nothing (document : Json)

/-- The open arrays and objects, innermost first, and what may come next. -/
structure Machine where
  stack : List Frame
  due : Due

/-- A value is complete: it goes into the innermost open array or object. -/
def Machine.complete (v : Json) : List Frame → Option Machine
  | [] => some ⟨[], .nothing v⟩
  | .array items :: stack => some ⟨.array (v :: items) :: stack, .commaOrClose⟩
  | .member members name :: stack => some ⟨.object ((name, v) :: members) :: stack, .commaOrClose⟩
  | .object _ :: _ => none

/-- A token where a value is due. -/
def Machine.value (stack : List Frame) : Token → Option Machine
  | .openArray => some ⟨.array [] :: stack, .itemOrClose⟩
  | .openObject => some ⟨.object [] :: stack, .nameOrClose⟩
  | .null => complete .null stack
  | .bool b => complete (.bool b) stack
  | .number n => complete (.number n) stack
  | .string s => complete (.string s) stack
  | .closeArray | .closeObject | .comma | .colon => none

/-- The innermost array or object is closed. -/
def Machine.close : List Frame → Token → Option Machine
  | .array items :: stack, .closeArray => complete (.array items.reverse) stack
  | .object members :: stack, .closeObject => complete (.object members.reverse) stack
  | _, _ => none

/-- One more token. -/
def Machine.step (m : Machine) (t : Token) : Option Machine :=
  match m.due, t with
  | .value, t => value m.stack t
  | .itemOrClose, .closeArray => close m.stack t
  | .itemOrClose, t => value m.stack t
  | .nameOrClose, .closeObject => close m.stack t
  | .nameOrClose, .string s | .name, .string s => some ⟨m.stack, .colon s⟩
  | .colon name, .colon =>
    match m.stack with
    | .object members :: stack => some ⟨.member members name :: stack, .value⟩
    | _ => none
  | .commaOrClose, .comma =>
    match m.stack with
    | .array items :: stack => some ⟨.array items :: stack, .value⟩
    | .object members :: stack => some ⟨.object members :: stack, .name⟩
    | _ => none
  | .commaOrClose, t => close m.stack t
  | _, _ => none

/-- The document at the end of the tokens. -/
def Machine.document? (m : Machine) : Option Json :=
  match m.due with
  | .nothing v => some v
  | _ => none

/-- The document that a row of tokens spells. -/
def ofTokens? (ts : List Token) : Option Json :=
  (ts.foldlM Machine.step ⟨[], .value⟩).bind Machine.document?

/-- The document of a text, if the whole of it is one. -/
def read? (text : String) : Option Json := (tokens? text.toList).bind ofTokens?

end Matchday.Json

import Matchday.Json.Basic
import Matchday.Text.Hex

/-!
The tokens of a JSON text. The text is read one character at a time; what has been seen of the
current token is the state between two characters. White space is space, tab, line feed and carriage
return. Escapes by code come in units of sixteen bits, which are joined only when the string ends.
-/

namespace Matchday.Json
set_option autoImplicit false

/-- The smallest meaningful parts of a text. -/
inductive Token where
  | openArray
  | closeArray
  | openObject
  | closeObject
  | comma
  | colon
  | null
  | bool (b : Bool)
  | number (n : Number)
  | string (text : Option String)
deriving DecidableEq

/-- A part of a string: a character, or a unit of sixteen bits given by its code. -/
inductive Piece where
  | char (c : Char)
  | code (n : Nat)
deriving DecidableEq

/-- The text of a string's parts: a leading surrogate is joined with the trailing one that has to
follow it, and a surrogate by itself has no text. -/
def Piece.text : List Piece → Option (List Char)
  | [] => some []
  | .char c :: rest => (text rest).map (c :: ·)
  | .code n :: rest =>
    if n < 0xd800 ∨ 0xe000 ≤ n then (text rest).map (Char.ofNat n :: ·)
    else if n < 0xdc00 then
      match rest with
      | .code m :: rest =>
        if 0xdc00 ≤ m ∧ m < 0xe000 then
          (text rest).map (Char.ofNat (0x10000 + (n - 0xd800) * 0x400 + (m - 0xdc00)) :: ·)
        else none
      | _ => none
    else none

/-- Space, tab, line feed or carriage return. -/
def isSpace (c : Char) : Bool := c = ' ' || c = '\t' || c = '\n' || c = '\r'

/-- A character that numbers are made of. -/
def isNumeric (c : Char) : Bool :=
  (Decimal.digitValue? c).isSome || c = '-' || c = '+' || c = '.' || c = 'e' || c = 'E'

/-- A letter of the three words. -/
def isLetter (c : Char) : Bool := 'a' ≤ c && c ≤ 'z'

/-! ## Numbers -/

/-- The exponent of a number: a marker, an optional sign and digits. -/
def exponent? : List Char → Option (Option Int)
  | [] => some none
  | c :: rest =>
    if c = 'e' ∨ c = 'E' then
      let (negative, digits) := match rest with
        | '+' :: r => (false, r)
        | '-' :: r => (true, r)
        | r => (false, r)
      match Decimal.takeDigits digits with
      | (d :: ds, []) =>
        let n : Int := Decimal.ofDigits (d :: ds)
        some (some (if negative then -n else n))
      | _ => none
    else none

/-- A number without its sign: no zero in front of another digit, and digits behind a point. -/
def unsigned? (negative : Bool) (cs : List Char) : Option Number :=
  match Decimal.takeDigits cs with
  | ([], _) => none
  | (0 :: _ :: _, _) => none
  | (whole, '.' :: rest) =>
    match Decimal.takeDigits rest with
    | ([], _) => none
    | (fraction, rest) => (exponent? rest).map fun e => ⟨negative, whole, some fraction, e⟩
  | (whole, rest) => (exponent? rest).map fun e => ⟨negative, whole, none, e⟩

/-- A number from the whole of a text. -/
def Number.read? : List Char → Option Number
  | '-' :: rest => unsigned? true rest
  | cs => unsigned? false cs

/-- One of the three words. -/
def word? (cs : List Char) : Option Token :=
  if cs = "null".toList then some .null
  else if cs = "true".toList then some (.bool true)
  else if cs = "false".toList then some (.bool false)
  else none

/-! ## Reading character by character -/

/-- What has been seen of the current token, last character first. -/
inductive Scan where
  | between
  | number (seen : List Char)
  | word (seen : List Char)
  | string (seen : List Piece)
  | escape (seen : List Piece)
  | code (seen : List Piece) (value digits : Nat)

/-- The tokens so far, last one first, and what has been seen of the next. -/
structure Lexer where
  done : List Token
  scan : Scan

/-- The character that an escape letter stands for. -/
def escaped? : Char → Option Char
  | '"' => some '"'
  | '\\' => some '\\'
  | '/' => some '/'
  | 'b' => some '\x08'
  | 'f' => some '\x0c'
  | 'n' => some '\n'
  | 'r' => some '\r'
  | 't' => some '\t'
  | _ => none

/-- What a character begins when no token is under way. -/
def Lexer.start (done : List Token) (c : Char) : Option Lexer :=
  if isSpace c then some ⟨done, .between⟩
  else if c = '[' then some ⟨.openArray :: done, .between⟩
  else if c = ']' then some ⟨.closeArray :: done, .between⟩
  else if c = '\x7b' then some ⟨.openObject :: done, .between⟩
  else if c = '\x7d' then some ⟨.closeObject :: done, .between⟩
  else if c = ',' then some ⟨.comma :: done, .between⟩
  else if c = ':' then some ⟨.colon :: done, .between⟩
  else if c = '"' then some ⟨done, .string []⟩
  else if isNumeric c then some ⟨done, .number [c]⟩
  else if isLetter c then some ⟨done, .word [c]⟩
  else none

/-- The text of a finished string. -/
def stringToken (seen : List Piece) : Token :=
  .string ((Piece.text seen.reverse).map String.ofList)

/-- One more character. -/
def Lexer.step (l : Lexer) (c : Char) : Option Lexer :=
  match l.scan with
  | .between => start l.done c
  | .number seen =>
    if isNumeric c then some ⟨l.done, .number (c :: seen)⟩
    else (Number.read? seen.reverse).bind fun n => start (.number n :: l.done) c
  | .word seen =>
    if isLetter c then some ⟨l.done, .word (c :: seen)⟩
    else (word? seen.reverse).bind fun t => start (t :: l.done) c
  | .string seen =>
    if c = '"' then some ⟨stringToken seen :: l.done, .between⟩
    else if c = '\\' then some ⟨l.done, .escape seen⟩
    else if c.toNat < 0x20 then none
    else some ⟨l.done, .string (.char c :: seen)⟩
  | .escape seen =>
    if c = 'u' then some ⟨l.done, .code seen 0 0⟩
    else (escaped? c).map fun e => ⟨l.done, .string (.char e :: seen)⟩
  | .code seen value digits =>
    (Text.hexValue? c).map fun d =>
      if digits = 3 then ⟨l.done, .string (.code (value * 16 + d) :: seen)⟩
      else ⟨l.done, .code seen (value * 16 + d) (digits + 1)⟩

/-- The tokens at the end of the text. -/
def Lexer.finish (l : Lexer) : Option (List Token) :=
  match l.scan with
  | .between => some l.done.reverse
  | .number seen => (Number.read? seen.reverse).map fun n => (.number n :: l.done).reverse
  | .word seen => (word? seen.reverse).map fun t => (t :: l.done).reverse
  | _ => none

/-- The tokens of a text. -/
def tokens? (cs : List Char) : Option (List Token) :=
  (cs.foldlM Lexer.step ⟨[], .between⟩).bind Lexer.finish

end Matchday.Json

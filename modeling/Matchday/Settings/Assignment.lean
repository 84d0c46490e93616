import Matchday.Text.Alphanumeric
import Matchday.Text.Blank

/-!
One line of a file of assignments: a name, an equals sign and a value, with blanks around them and
the word `export` in front if wanted; or nothing but a comment. A value may be quoted in whole or in
part, and ends at the first blank outside quotation marks, behind which only a comment may stand. A
dollar sign, except in single quotation marks, stands in front of the name of a variable whose value
takes its place; the character that ends the name is taken as it is.
-/

namespace Matchday.AssignmentFile
set_option autoImplicit false

/-! ## Values -/

/-- What is being read of a value: plain text, the character behind a backslash, a text in single
quotation marks, the name of a variable (last character first) behind a dollar sign or in braces,
the blanks behind the value, or a comment. -/
inductive Mode where
  | plain
  | escape
  | single
  | bareName (name : List Char)
  | bracedName (name : List Char)
  | over
  | comment
deriving DecidableEq, Repr

/-- The text of a value so far, last character first; whether double quotation marks are open; and
what is being read. -/
structure ValueReader where
  text : List Char
  isDouble : Bool
  mode : Mode
deriving DecidableEq, Repr

namespace ValueReader

/-- The reader in another mode. -/
def become (r : ValueReader) (mode : Mode) : ValueReader := { r with mode }

/-- The reader with one more character of text, in plain mode. -/
def push (r : ValueReader) (c : Char) : ValueReader := ⟨c :: r.text, r.isDouble, .plain⟩

/-- The reader with the value of a variable put in, in plain mode. -/
def insert (r : ValueReader) (valueOf : String → String) (name : List Char) : ValueReader :=
  ⟨(valueOf (String.ofList name.reverse)).toList.reverse ++ r.text, r.isDouble, .plain⟩

/-- The character that stands behind a backslash for another one, or for itself. -/
def unescaped? (c : Char) : Option Char :=
  if c = 'n' then some '\n'
  else if c = '\\' || c = '\'' || c = '"' || c = '$' || c = ' ' then some c
  else none

/-- One more character in plain mode. -/
def stepPlain (r : ValueReader) (c : Char) : ValueReader :=
  if c = '$' then r.become (.bareName [])
  else if c = '\\' then r.become .escape
  else if c = '"' then { r with isDouble := !r.isDouble }
  else if r.isDouble then r.push c
  else if c = '\'' then r.become .single
  else if c = ' ' || c = '\t' then r.become .over
  else r.push c

/-- One more character in a name behind a dollar sign. -/
def stepBareName (r : ValueReader) (valueOf : String → String) (name : List Char) (c : Char) :
    ValueReader :=
  if Text.isAlphanumeric c then r.become (.bareName (c :: name))
  else if c = '\x7b' ∧ name = [] then r.become (.bracedName [])
  else if c = '$' then (r.insert valueOf name).become (.bareName [])
  else (r.insert valueOf name).push c

/-- One more character of a value; fails on a backslash in front of a character that needs none, and
on text behind the value. -/
def step (valueOf : String → String) (r : ValueReader) (c : Char) : Option ValueReader :=
  match r.mode with
  | .plain => some (r.stepPlain c)
  | .escape => (unescaped? c).map r.push
  | .single => some (if c = '\'' then r.become .plain else { r with text := c :: r.text })
  | .bareName name => some (r.stepBareName valueOf name c)
  | .bracedName name =>
    some (if c = '\x7d' then r.insert valueOf name else r.become (.bracedName (c :: name)))
  | .over =>
    if c = ' ' ∨ c = '\t' then some r else if c = '#' then some (r.become .comment) else none
  | .comment => some r

/-- The value at its end; fails if quotation marks or braces are open. -/
def finish? (valueOf : String → String) (r : ValueReader) : Option String :=
  if r.isDouble then none
  else match r.mode with
    | .single | .bracedName _ => none
    | .bareName name => some (String.ofList (r.insert valueOf name).text.reverse)
    | .plain | .escape | .over | .comment => some (String.ofList r.text.reverse)

end ValueReader

/-- The value that a text spells, when variables have the given values. -/
def value? (valueOf : String → String) (cs : List Char) : Option String :=
  (cs.foldlM (ValueReader.step valueOf) ⟨[], false, .plain⟩).bind (ValueReader.finish? valueOf)

/-! ## Lines -/

/-- A character that may begin a name. -/
def beginsName (c : Char) : Bool := ('A' ≤ c && c ≤ 'Z') || ('a' ≤ c && c ≤ 'z') || c = '_'

/-- A character that a name may hold. -/
def inName (c : Char) : Bool := beginsName c || ('0' ≤ c && c ≤ '9') || c = '.'

/-- A name, and what follows it and the blanks behind it. -/
def takeName? : List Char → Option (List Char × List Char)
  | [] => none
  | c :: cs =>
    if beginsName c then
      some (c :: cs.takeWhile inName, Text.trimStart (cs.dropWhile inName))
    else none

/-- What follows an equals sign and the blanks behind it. -/
def takeEquals? : List Char → Option (List Char)
  | '=' :: cs => some (Text.trimStart cs)
  | _ => none

/-- The name of an assignment, and its value as it is written. -/
def parts? (cs : List Char) : Option (List Char × List Char) := do
  let (first, rest) ← takeName? cs
  let (name, rest) ←
    if first = "export".toList ∧ rest.head? ≠ some '=' then takeName? rest else some (first, rest)
  some (name, ← takeEquals? rest)

/-- Whether nothing but a comment is left. -/
def isVoid (cs : List Char) : Bool := cs.head?.all (· = '#')

/-- An assignment from a text without blanks around it. -/
def assignment? (valueOf : String → String) (cs : List Char) : Option (String × String) := do
  let (name, written) ← parts? cs
  let value ← if isVoid written then some "" else value? valueOf written
  some (String.ofList name, value)

end Matchday.AssignmentFile

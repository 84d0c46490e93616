import Matchday.Text.Blank

/-!
The lines of a file of assignments. A line ends where the text's line does, unless a quotation mark
is still open there: then it goes on. A number sign begins a comment at the start of a line or right
behind a blank, and the rest of the text's line is dropped. A line that the end of the text finds
open, or right behind a blank or a backslash, is none.
-/

namespace Matchday.AssignmentFile
set_option autoImplicit false

/-- Where in a line a character stands: behind blanks only, in plain text, right behind a blank or a
backslash, in quotation marks of one of the two kinds or behind a backslash in them, or in a
comment. -/
inductive Place where
  | start
  | plain
  | blank
  | escape
  | double
  | doubleEscape
  | single
  | singleEscape
  | comment
deriving DecidableEq, Repr

namespace Place

/-- The place behind a character in plain text. -/
def afterPlain (c : Char) : Place :=
  if c = '\\' then escape
  else if c = '"' then double
  else if c = '\'' then single
  else if Text.isBlank c && c ≠ '\n' && c ≠ '\r' then blank
  else plain

/-- The place behind a character right behind a blank: a second blank counts as plain text. -/
def afterBlank (c : Char) : Place :=
  if c = '#' then comment
  else if Text.isBlank c then plain
  else afterPlain c

/-- The place behind a character. -/
def after (c : Char) : Place → Place
  | start => if c = '#' then comment else if Text.isBlank c then start else afterPlain c
  | plain => afterPlain c
  | blank => afterBlank c
  | escape => plain
  | double => if c = '\\' then doubleEscape else if c = '"' then plain else double
  | doubleEscape => double
  | single => if c = '\\' then singleEscape else if c = '\'' then plain else single
  | singleEscape => single
  | comment => comment

/-- Whether a line that has come to some place may end there. -/
def isClosed : Place → Bool
  | start | plain | comment => true
  | blank | escape | double | doubleEscape | single | singleEscape => false

end Place

/-- The lines so far, and the current one with its place, last character first. -/
structure Cutter where
  done : List (List Char)
  current : List Char
  place : Place

namespace Cutter

/-- One more character. -/
def step (k : Cutter) (c : Char) : Cutter :=
  let place := k.place.after c
  if c = '\n' && place.isClosed then ⟨k.current.reverse :: k.done, [], .start⟩
  else if place = .comment then ⟨k.done, k.current, place⟩
  else ⟨k.done, c :: k.current, place⟩

/-- The lines at the end of the text, in order. -/
def finish (k : Cutter) : List (List Char) :=
  (if k.place.isClosed then k.current.reverse :: k.done else k.done).reverse

end Cutter

/-- The lines of a text. -/
def lines (text : List Char) : List (List Char) := (text.foldl Cutter.step ⟨[], [], .start⟩).finish

end Matchday.AssignmentFile

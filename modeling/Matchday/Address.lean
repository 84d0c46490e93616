import Matchday.Text.Blank

/-!
Postal addresses in the form that a map search expects. The words up to the city mark are dropped,
of what follows a house mark only the house number stays, and the abbreviated types of streets are
written out. Words are joined by single spaces.
-/

namespace Matchday.Address
set_option autoImplicit false

/-- A word of an address. -/
abbrev Word := List Char

/-- The mark in front of a city's name. -/
def cityMark : Word := "г".toList

/-- Whether a word is a mark in front of a house number. -/
def isHouseMark (w : Word) : Bool := w = "д".toList || w = "дом".toList

/-- The abbreviated types of streets and what they stand for. -/
def streetTypes : List (String × String) := [
  ("ал", "аллея"), ("б-р", "бульвар"), ("взв", "взвоз"), ("взд", "въезд"), ("дор", "дорога"),
  ("ззд", "заезд"), ("км", "километр"), ("к-цо", "кольцо"), ("лн", "линия"),
  ("мгстр", "магистраль"), ("наб", "набережная"), ("пер-д", "переезд"), ("пер", "переулок"),
  ("пл-ка", "площадка"), ("пл", "площадь"), ("пр-д", "проезд"), ("пр-кт", "проспект"),
  ("пр-ка", "просека"), ("пр-к", "просек"), ("пр-лок", "проселок"), ("проул", "проулок"),
  ("рзд", "разъезд"), ("с-р", "сквер"), ("с-к", "спуск"), ("сзд", "съезд"), ("туп", "тупик"),
  ("ул", "улица"), ("ш", "шоссе"), ("тер", "территория")]

/-- What an abbreviated type of street stands for. -/
def fullType? (w : Word) : Option Word :=
  (streetTypes.find? fun t => t.1.toList = w).map fun t => t.2.toList

/-- A word without one given character at its end, if it ends so. -/
def dropLast? (c : Char) (w : Word) : Option Word :=
  if w.getLast? = some c then some w.dropLast else none

/-- The abbreviation that a word may be, without its comma and then without its point, and the comma
that stays behind its full form. -/
def abbreviation (w : Word) : Word × Word :=
  let (core, comma) := match dropLast? ',' w with
    | some core => (core, [','])
    | none => (w, [])
  ((dropLast? '.' core).getD core, comma)

/-- A word with an abbreviated type of street written out; any other word stays as it is. -/
def expand (w : Word) : Word :=
  match fullType? (abbreviation w).1 with
  | some full => full ++ (abbreviation w).2
  | none => w

/-- The words behind the first city mark; all words if there is none. -/
def afterCity (ws : List Word) : List Word :=
  match ws.dropWhile (· ≠ cityMark) with
  | [] => ws
  | _ :: rest => rest

/-- The words up to the first house mark and the one word behind it; all words if there is none. -/
def upToHouse (ws : List Word) : List Word :=
  ws.takeWhile (!isHouseMark ·) ++ ((ws.dropWhile (!isHouseMark ·)).drop 1).take 1

/-- The words of the search form, from the words of an address. -/
def searchWords (ws : List Word) : List Word := (upToHouse (afterCity ws)).map expand

/-- Words with single spaces between them. -/
def join : List Word → List Char
  | [] => []
  | [w] => w
  | w :: v :: ws => w ++ ' ' :: join (v :: ws)

/-- The form of an address that a map search expects. -/
def searchForm (address : String) : String :=
  String.ofList (join (searchWords (Text.words address.toList)))

end Matchday.Address

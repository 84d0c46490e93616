import Matchday.Calendar.Date
import Matchday.Number.Decimal
import Matchday.Text.Blank
import Matchday.Text.Case

/-!
Instants of time, in universal time, to the nanosecond. They are written as a date and a time of day
with a `Z` behind them and as few fraction digits as needed, three at a time. They are read from any
offset; blanks may stand around the parts of the date, of the time and in front of the offset. A
second may be numbered sixty: it is a leap second, later than any other of its minute.
-/

namespace Matchday
set_option autoImplicit false

/-- An instant: the day, the minute of the day, the second of the minute and the nanosecond. -/
structure Instant where
  date : Date
  minute : Nat
  second : Nat
  nano : Nat
  valid : minute < 1440 ∧ second ≤ 60 ∧ nano < 1000000000
deriving DecidableEq

namespace Instant

/-- Whether an instant is earlier than another. -/
def before (a b : Instant) : Bool :=
  a.date.before b.date || (a.date = b.date
    && (a.minute < b.minute || (a.minute = b.minute
      && (a.second < b.second || (a.second = b.second && a.nano < b.nano)))))

/-- The instant at the start of a day. -/
def midnight (d : Date) : Instant := ⟨d, 0, 0, 0, by decide⟩

/-- An instant some whole seconds later, or earlier if their number is negative. Leap seconds count
as the second before them. -/
def addSeconds (t : Instant) (seconds : Int) : Instant :=
  let total : Int := (t.minute * 60 + min t.second 59 : Nat) + seconds
  let days := total / 86400
  let rest := (total % 86400).toNat
  let date := if days < 0 then Nat.repeat Date.previous days.natAbs t.date
    else Nat.repeat Date.next days.natAbs t.date
  if h : rest / 60 < 1440 ∧ rest % 60 ≤ 60 ∧ t.nano < 1000000000 then
    ⟨date, rest / 60, rest % 60, t.nano, h⟩
  else t

/-! ## Writing -/

/-- A number with at least so many digits. -/
def padded (width n : Nat) : List Char :=
  let digits := (Decimal.digitsOf n).map Decimal.digitChar
  List.replicate (width - digits.length) '0' ++ digits

/-- A year: four digits, or a sign and at least four. -/
def yearText (year : Int) : List Char :=
  if 0 ≤ year ∧ year ≤ 9999 then padded 4 year.natAbs
  else (if year < 0 then '-' else '+') :: padded 4 year.natAbs

/-- The fraction of a second, in groups of three digits. -/
def fractionText (nano : Nat) : List Char :=
  if nano = 0 then []
  else if nano % 1000000 = 0 then '.' :: padded 3 (nano / 1000000)
  else if nano % 1000 = 0 then '.' :: padded 6 (nano / 1000)
  else '.' :: padded 9 nano

/-- The text of an instant. -/
def render (t : Instant) : List Char :=
  yearText t.date.year ++ '-' :: padded 2 t.date.month ++ '-' :: padded 2 t.date.day
    ++ 'T' :: padded 2 (t.minute / 60) ++ ':' :: padded 2 (t.minute % 60)
    ++ ':' :: padded 2 t.second ++ fractionText t.nano ++ ['Z']

/-! ## Reading -/

/-- The first digits of a text, at most so many, and what follows them. -/
def takeUpTo : Nat → List Char → List Nat × List Char
  | 0, cs => ([], cs)
  | _, [] => ([], [])
  | k + 1, c :: rest =>
    match Decimal.digitValue? c with
    | none => ([], c :: rest)
    | some d => (d :: (takeUpTo k rest).1, (takeUpTo k rest).2)

/-- A number of at most so many digits, blanks before it. -/
def number? (width : Nat) (cs : List Char) : Option (Nat × List Char) :=
  match takeUpTo width (Text.trimStart cs) with
  | ([], _) => none
  | (ds, rest) => some (Decimal.ofDigits ds, rest)

/-- One given character, blanks before it. -/
def mark? (c : Char) (cs : List Char) : Option (List Char) :=
  match Text.trimStart cs with
  | d :: rest => if d = c then some rest else none
  | [] => none

/-- A year: up to four digits, or a sign and any number of them; blanks before it. -/
def year? (cs : List Char) : Option (Int × List Char) :=
  match Text.trimStart cs with
  | '-' :: rest =>
    match Decimal.takeDigits rest with
    | ([], _) => none
    | (ds, rest) => some (-(Decimal.ofDigits ds : Int), rest)
  | '+' :: rest =>
    match Decimal.takeDigits rest with
    | ([], _) => none
    | (ds, rest) => some ((Decimal.ofDigits ds : Int), rest)
  | cs => (number? 4 cs).map fun r => ((r.1 : Int), r.2)

/-- The fraction of a second in nanoseconds; digits beyond the ninth do not count. -/
def nano? : List Char → Option (Nat × List Char)
  | '.' :: rest =>
    match Decimal.takeDigits rest with
    | ([], _) => none
    | (ds, rest) =>
      let kept := ds.take 9
      some (Decimal.ofDigits kept * Nat.pow 10 (9 - kept.length), rest)
  | cs => some (0, cs)

/-- Two digits. -/
def twoDigits? : List Char → Option (Nat × List Char)
  | a :: b :: rest => do
    let tens ← Decimal.digitValue? a
    let ones ← Decimal.digitValue? b
    some (tens * 10 + ones, rest)
  | _ => none

/-- The hours and minutes of an offset, in minutes, with colons or blanks between them. -/
def amount? (cs : List Char) : Option (Nat × List Char) := do
  let (hours, cs) ← twoDigits? cs
  let (minutes, cs) ← twoDigits? (cs.dropWhile fun c => c = ':' || Text.isBlank c)
  if minutes < 60 then some (hours * 60 + minutes, cs) else none

/-- An offset in minutes: a `Z`, or a sign and an amount. -/
def signed? : List Char → Option (Int × List Char)
  | 'Z' :: rest | 'z' :: rest => some (0, rest)
  | '+' :: rest => (amount? rest).map fun r => ((r.1 : Int), r.2)
  | '-' :: rest | '\u2212' :: rest => (amount? rest).map fun r => (-(r.1 : Int), r.2)
  | _ => none

/-- The offset of a local time in minutes: the word `UTC` in any case, a `Z`, or a signed amount. -/
def offset? (cs : List Char) : Option (Int × List Char) :=
  if (cs.take 3).map Text.lower = "utc".toList then some (0, cs.drop 3) else signed? cs

/-- The years that a date may have. -/
def yearInRange (year : Int) : Bool := -262143 ≤ year && year ≤ 262142

/-- An instant from a local day and minute, which are some minutes ahead of universal time. -/
def ofLocal? (date : Date) (minute second nano : Nat) (ahead : Int) : Option Instant :=
  let total : Int := minute - ahead
  let (date, total) :=
    if total < 0 then (date.previous, total + 1440)
    else if 1440 ≤ total then (date.next, total - 1440)
    else (date, total)
  if h : total.toNat < 1440 ∧ second ≤ 60 ∧ nano < 1000000000 then
    if yearInRange date.year then some ⟨date, total.toNat, second, nano, h⟩ else none
  else none

/-- The date in front of the time, and what follows it. -/
def date? (cs : List Char) : Option (Date × List Char) := do
  let (year, cs) ← year? cs
  let cs ← mark? '-' cs
  let (month, cs) ← number? 2 cs
  let cs ← mark? '-' cs
  let (day, cs) ← number? 2 cs
  if yearInRange year then
    let date ← Date.of? year month day
    some (date, cs)
  else none

/-- The time of day, as minute, second and nanosecond, and what follows it. -/
def time? (cs : List Char) : Option (Nat × Nat × Nat × List Char) := do
  let (hour, cs) ← number? 2 cs
  let cs ← mark? ':' cs
  let (minute, cs) ← number? 2 cs
  let cs ← mark? ':' cs
  let (second, cs) ← number? 2 cs
  let (nano, cs) ← nano? cs
  if hour < 24 ∧ minute < 60 ∧ second ≤ 60 then some (hour * 60 + minute, second, nano, cs)
  else none

/-- An instant from the whole of a text. -/
def read? (cs : List Char) : Option Instant := do
  let (date, cs) ← date? cs
  let cs ← match cs with
    | 't' :: rest | 'T' :: rest | ' ' :: rest => some rest
    | _ => none
  let (minute, second, nano, cs) ← time? cs
  let (ahead, cs) ← offset? (Text.trimStart cs)
  if Text.trimStart cs = [] ∧ ahead.natAbs < 1440 then ofLocal? date minute second nano ahead
  else none

end Instant

end Matchday

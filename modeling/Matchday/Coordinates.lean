import Matchday.Number.Literal
import Matchday.Number.Plain
import Matchday.Text.Blank
import Matchday.Text.Quoted

/-!
Points on the map, as latitude and longitude in degrees. A checked point lies within the usual
range; a point from text is read first and checked then, its latitude before its longitude.
-/

namespace Matchday
set_option autoImplicit false

/-- Latitude and longitude in degrees. -/
structure Coordinates where
  latitude : Binary64
  longitude : Binary64
deriving DecidableEq

/-- Why there is no such point. -/
inductive CoordinatesError where
  | latitudeRange (latitude : Binary64)
  | longitudeRange (longitude : Binary64)
  | latitudeText (text : String) (cause : LiteralError)
  | longitudeText (text : String) (cause : LiteralError)
deriving DecidableEq

/-- The wording of each cause. -/
def CoordinatesError.message : CoordinatesError → String
  | latitudeRange x => "latitude out of range: " ++ x.plainText
  | longitudeRange x => "longitude out of range: " ++ x.plainText
  | latitudeText t e => "Invalid latitude " ++ Text.quoted t ++ ": " ++ e.message
  | longitudeText t e => "Invalid longitude " ++ Text.quoted t ++ ": " ++ e.message

namespace Coordinates

/-- Latitude from -90 to 90 and longitude from -180 to 180 degrees. -/
def inRange (c : Coordinates) : Bool := c.latitude.within 90 && c.longitude.within 180

/-- A point within the range. -/
def check (latitude longitude : Binary64) : Except CoordinatesError Coordinates :=
  if !latitude.within 90 then .error (.latitudeRange latitude)
  else if !longitude.within 180 then .error (.longitudeRange longitude)
  else .ok ⟨latitude, longitude⟩

/-- A number from a text, blanks around it aside. -/
def degrees (text : String) : Except LiteralError Binary64 := Literal.read (Text.trim text.toList)

/-- A point within the range from the texts of its two numbers. -/
def read (latitude longitude : String) : Except CoordinatesError Coordinates :=
  match degrees latitude with
  | .error e => .error (.latitudeText latitude e)
  | .ok lat =>
    match degrees longitude with
    | .error e => .error (.longitudeText longitude e)
    | .ok lon => check lat lon

/-! ## Small lemmas -/

theorem inRange_of_check {latitude longitude : Binary64} {c : Coordinates}
    (h : check latitude longitude = .ok c) : c.inRange = true := by
  unfold check at h
  split at h
  · simp at h
  · split at h
    · simp at h
    · injection h with h
      subst h
      simp_all [inRange]

theorem inRange_of_read {latitude longitude : String} {c : Coordinates}
    (h : read latitude longitude = .ok c) : c.inRange = true := by
  unfold read at h
  split at h
  · simp at h
  · split at h
    · simp at h
    · exact inRange_of_check h

end Coordinates

end Matchday

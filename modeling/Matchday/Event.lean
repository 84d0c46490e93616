import Matchday.Calendar.Instant
import Matchday.Coordinates
import Matchday.Id

/-!
Where an event takes place. Its address is known from the start; its point on the map may be looked
up later, and not before the time that the event names.
-/

namespace Matchday
set_option autoImplicit false

/-- The address of an event and what is known of its point on the map. -/
structure EventLocation where
  id : EventId
  address : String
  latitude : Option Binary64
  longitude : Option Binary64
  recheckAfter : Instant
deriving DecidableEq

namespace EventLocation

/-- The point on the map, if both its numbers are known. -/
def coordinates? (l : EventLocation) : Option Coordinates :=
  match l.latitude, l.longitude with
  | some latitude, some longitude => some ⟨latitude, longitude⟩
  | _, _ => none

/-- Whether a number of the point is missing. -/
def needsCoordinates (l : EventLocation) : Bool := l.coordinates?.isNone

/-- The location with its point. -/
def place (l : EventLocation) (c : Coordinates) : EventLocation :=
  { l with latitude := some c.latitude, longitude := some c.longitude }

end EventLocation

end Matchday

import Matchday.Geocoding.Error
import Matchday.Json.Reader
import Matchday.Json.Record

/-!
Reading the providers' answers. One sends a list of results, which must hold exactly one; the other
nests its results, names the longitude first and lists the best result first. Every listed result
has to have the right form, also those that are not used.
-/

namespace Matchday
set_option autoImplicit false

/-! ## Nominatim -/

namespace Nominatim

/-- The latitude and longitude of one result, as texts. -/
def result? (v : Json) : Option (String × String) := do
  match ← Json.fields? [.must "lat", .must "lon"] v with
  | [some lat, some lon] => some (← lat.text?, ← lon.text?)
  | _ => none

/-- The results of an answer. -/
def results? (v : Json) : Option (List (String × String)) := Json.listOf? result? v

/-- The only result. -/
def single : List (String × String) → Except GeocodeError Coordinates
  | [(lat, lon)] => (Coordinates.read lat lon).mapError .coordinates
  | results => .error (.resultCount results.length)

/-- The point that an answer gives. -/
def answer (body : String) : Except GeocodeError Coordinates :=
  match (Json.read? body).bind results? with
  | none => .error (.otherForm .nominatim)
  | some results => single results

end Nominatim

/-! ## Yandex -/

namespace Yandex

/-- The one field of a record. -/
def only? (name : String) (v : Json) : Option Json := do
  match ← Json.fields? [.must name] v with
  | [some w] => some w
  | _ => none

/-- The position text of one result. -/
def result? (v : Json) : Option String := do
  let object ← only? "GeoObject" v
  let point ← only? "Point" object
  let pos ← only? "pos" point
  pos.text?

/-- The results of a collection; one without the field has none. -/
def collection? (v : Json) : Option (List String) := do
  match ← Json.fields? [⟨"featureMember", .defaulted⟩] v with
  | [none] => some []
  | [some members] => Json.listOf? result? members
  | _ => none

/-- The results of an answer. -/
def results? (v : Json) : Option (List String) := do
  let response ← only? "response" v
  let collection ← only? "GeoObjectCollection" response
  collection? collection

/-- The point at a position: longitude, then latitude. -/
def point (pos : String) : Except GeocodeError Coordinates :=
  match Text.words pos.toList with
  | [lon, lat] =>
    (Coordinates.read (String.ofList lat) (String.ofList lon)).mapError .coordinates
  | _ => .error (.position pos)

/-- The best result. -/
def best : List String → Except GeocodeError Coordinates
  | [] => .error .noResults
  | pos :: _ => point pos

/-- The point that an answer gives. -/
def answer (body : String) : Except GeocodeError Coordinates :=
  match (Json.read? body).bind results? with
  | none => .error (.otherForm .yandex)
  | some results => best results

end Yandex

end Matchday

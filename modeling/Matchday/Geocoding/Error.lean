import Matchday.Coordinates

/-!
Why a lookup fails, and the wording of each cause.
-/

namespace Matchday
set_option autoImplicit false

/-- The providers of map searches. -/
inductive Provider where
  | nominatim
  | yandex
deriving DecidableEq, Repr

/-- A provider's name in error messages. -/
def Provider.title : Provider → String
  | nominatim => "Nominatim"
  | yandex => "Yandex"

/-- A provider's short name, by which lookups name it. -/
def Provider.label : Provider → String
  | nominatim => "open map"
  | yandex => "yandex"

/-- Why a provider gives no point: it was set up to fail or to give nothing, it has no key, its
server cannot be reached, answers with an error or breaks off, its answer has another form, holds
another number of results than one, none at all or a position of another form, or the numbers of the
point are wrong. -/
inductive GeocodeError where
  | scripted (text : String)
  | scriptEnded
  | keyMissing
  | unanswered (p : Provider)
  | errorStatus (p : Provider)
  | brokenOff (p : Provider)
  | otherForm (p : Provider)
  | resultCount (n : Nat)
  | noResults
  | position (text : String)
  | coordinates (cause : CoordinatesError)
deriving DecidableEq

/-- The wording of each cause. -/
def GeocodeError.message : GeocodeError → String
  | scripted text => text
  | scriptEnded => "no scripted response"
  | keyMissing => "Yandex API key is not configured"
  | unanswered p => p.title ++ " request failed"
  | errorStatus p => p.title ++ " returned an error status"
  | brokenOff p => "Failed to read " ++ p.title ++ " response"
  | otherForm p => "Failed to parse " ++ p.title ++ " response"
  | resultCount n => "Invalid coordinates count: " ++ toString n
  | noResults => "Yandex returned no results"
  | position text => "Malformed Yandex coordinates: " ++ Text.quoted text
  | coordinates e => e.message

/-- Why neither of two geocoders gives a point. -/
structure ResolveError where
  primary : String
  primaryError : GeocodeError
  secondary : String
  secondaryError : GeocodeError
deriving DecidableEq

/-- The wording: each geocoder's name with its own cause. -/
def ResolveError.message (e : ResolveError) : String :=
  e.primary ++ ": " ++ e.primaryError.message ++ ", " ++ e.secondary ++ ": "
    ++ e.secondaryError.message

end Matchday

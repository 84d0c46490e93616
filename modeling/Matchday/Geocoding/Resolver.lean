import Matchday.Geocoding.Geocoder
import Matchday.Timer

/-!
From an address to a point, with two geocoders: the second is asked only if the first fails. A
lookup is done at once by `Geocoders.resolve`, or step by step by `Lookup.step`, which waits for
each answer.
-/

namespace Matchday
set_option autoImplicit false

/-- Two geocoders; the second stands in for the first. -/
structure Geocoders where
  primary : Geocoder
  secondary : Geocoder

/-- The outcome of a lookup. -/
abbrev Resolution := Except ResolveError Coordinates

namespace Geocoders

/-- The names of both geocoders with their causes. -/
def exhausted (g : Geocoders) (primaryError secondaryError : GeocodeError) : ResolveError :=
  ⟨g.primary.name, primaryError, g.secondary.name, secondaryError⟩

/-- The geocoders after a call of the first. -/
def callPrimary (g : Geocoders) (address : String) (caller : Caller) : Geocoders :=
  { g with primary := g.primary.called address caller }

/-- The geocoders after a call of the second. -/
def callSecondary (g : Geocoders) (address : String) (caller : Caller) : Geocoders :=
  { g with secondary := g.secondary.called address caller }

/-- The outcome once the first geocoder has failed and the second has answered. -/
def conclude (g : Geocoders) (primaryError : GeocodeError) : Answer → Resolution
  | .ok c => .ok c
  | .error e => .error (g.exhausted primaryError e)

/-- What is logged once the first geocoder has failed and the second has answered. -/
def concludingRemarks (g : Geocoders) (address : String) (a : Answer) : List LogEntry :=
  g.secondary.remarks address a ++
    match a with
    | .ok _ => []
    | .error _ => [.allGeocodersFailed address]

/-- Looks an address up: the outcome, the geocoders after it and what is logged. -/
def resolve (g : Geocoders) (address : String) (caller : Caller) :
    Resolution × Geocoders × List LogEntry :=
  let g' := g.callPrimary address caller
  let remarks := g.primary.remarks address g.primary.answer
  match g.primary.answer with
  | .ok c => (.ok c, g', remarks)
  | .error e =>
    (g.conclude e g.secondary.answer, g'.callSecondary address caller,
      remarks ++ g.concludingRemarks address g.secondary.answer)

/-- What someone who searches is told if no point is found. -/
def notFoundMessage (address : String) : String :=
  "Failed to find coordinates for " ++ Text.quoted address

/-- The most time that a lookup takes. -/
def slowest (g : Geocoders) : Nat := g.primary.latency + g.secondary.latency

end Geocoders

/-! ## Step by step -/

/-- How far a lookup has come: not begun, waiting for one of the two answers, or done. -/
inductive Lookup where
  | starting
  | primaryAsked (answer : Answer) (timer : Timer)
  | secondaryAsked (primaryError : GeocodeError) (answer : Answer) (timer : Timer)
  | finished (result : Resolution)

namespace Lookup

/-- What a lookup waits for. -/
def timer? : Lookup → Option Timer
  | starting | finished _ => none
  | primaryAsked _ timer | secondaryAsked _ _ timer => some timer

/-- The outcome of a lookup that is done. -/
def result? : Lookup → Option Resolution
  | finished result => some result
  | _ => none

/-- The next step of a lookup, at some time. -/
def step (now : Nat) (address : String) (caller : Caller) (g : Geocoders) :
    Lookup → Lookup × Geocoders × List LogEntry
  | starting =>
    (primaryAsked g.primary.answer (.after now g.primary.latency), g.callPrimary address caller, [])
  | primaryAsked (.ok c) _ => (finished (.ok c), g, g.primary.remarks address (.ok c))
  | primaryAsked (.error e) _ =>
    (secondaryAsked e g.secondary.answer (.after now g.secondary.latency),
      g.callSecondary address caller, g.primary.remarks address (.error e))
  | secondaryAsked e answer _ =>
    (finished (g.conclude e answer), g, g.concludingRemarks address answer)
  | finished result => (finished result, g, [])

end Lookup

end Matchday

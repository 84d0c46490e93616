import Matchday.Geocoding.Error
import Matchday.Services.Ending
import Matchday.Settlement.Error

/-!
The entries of the log. An entry is what happened; its level, its text and its fields follow from
that. Of what is logged for information the beginnings and the ends are here, of the workers, of their
services and of the application; left out are that a membership was updated, that a payment was settled
and that an event was given its point, and all that is logged for debugging.
-/

namespace Matchday
set_option autoImplicit false

/-- How serious an entry is. -/
inductive Level where
  | info
  | warn
  | error
deriving DecidableEq, Repr

/-- The name of a level. -/
def Level.name : Level → String
  | info => "INFO"
  | warn => "WARN"
  | error => "ERROR"

/-- What happened. -/
inductive LogEntry where
  | addressNotResolved (searched : String) (cause : GeocodeError)
  | allGeocodersFailed (address : String)
  | lookupFailed (event : EventId) (address : String) (cause : ResolveError)
  | writeFailed (event : EventId) (address : String) (cause : EventStoreError)
  | loadFailed (cause : EventStoreError)
  | membershipChanged (event : EventId) (attempt : Nat)
  | settlementRefused (payment : PaymentId)
  | settlementAbandoned (payment : PaymentId)
  | settlementFailed (payment : PaymentId) (cause : SettleError)
  | awaitingSettlements (mode : ShutdownMode) (inFlight : Nat)
  | sweepStarting (seconds : Nat)
  | sweepStopped
  | consumerStarting (milliseconds : Nat)
  | consumerStopped
  | serviceStarting (service : String)
  | serviceEnded (service : String) (ending : Ending)
  | fallbackDisabled
  | shuttingDown
  | shutdownComplete
deriving DecidableEq

namespace LogEntry

/-- How serious an entry is. -/
def level : LogEntry → Level
  | addressNotResolved _ _ | allGeocodersFailed _ | membershipChanged _ _ | settlementRefused _
  | fallbackDisabled => .warn
  | lookupFailed _ _ _ | writeFailed _ _ _ | loadFailed _ | settlementFailed _ _
  | serviceEnded _ (.failed _) | serviceEnded _ (.panicked _ _) => .error
  | settlementAbandoned _ | awaitingSettlements _ _ | sweepStarting _ | sweepStopped
  | consumerStarting _ | consumerStopped | serviceStarting _ | serviceEnded _ .stopped
  | shuttingDown | shutdownComplete => .info

/-- The text of an entry. -/
def message : LogEntry → String
  | addressNotResolved _ _ => "Nominatim could not resolve address"
  | allGeocodersFailed _ => "all geocoders failed"
  | lookupFailed _ _ _ => "failed to resolve coordinates"
  | writeFailed _ _ _ => "failed to persist coordinates"
  | loadFailed _ => "failed to load events missing coordinates"
  | membershipChanged _ _ => "membership changed concurrently, retrying"
  | settlementRefused _ => "scheduler is shutting down, settlement not scheduled"
  | settlementAbandoned _ => "settlement abandoned"
  | settlementFailed _ _ => "settlement failed"
  | awaitingSettlements _ _ => "waiting for settlements"
  | sweepStarting _ => "coordinate sweep starting"
  | sweepStopped => "coordinate sweep stopped"
  | consumerStarting _ => "coordinate consumer starting"
  | consumerStopped => "coordinate consumer stopped"
  | serviceStarting _ => "starting service"
  | serviceEnded _ .stopped => "service stopped"
  | serviceEnded _ (.failed _) => "service failed"
  | serviceEnded _ (.panicked _ _) => "service panicked"
  | fallbackDisabled => "YANDEX_API_KEY not set, fallback geocoder disabled"
  | shuttingDown => "Shutting down background services"
  | shutdownComplete => "Shutdown complete"

/-- The named details of an entry. -/
def fields : LogEntry → List (String × String)
  | addressNotResolved searched e => [("address", searched), ("error", e.message)]
  | allGeocodersFailed address => [("address", address)]
  | lookupFailed event address e =>
    [("event_id", event.toText), ("address", address), ("error", e.message)]
  | writeFailed event address e =>
    [("event_id", event.toText), ("address", address), ("error", e.message)]
  | loadFailed e => [("error", e.message)]
  | membershipChanged event attempt => [("event_id", event.toText), ("attempt", toString attempt)]
  | settlementRefused p | settlementAbandoned p => [("payment_id", p.toText)]
  | settlementFailed p e => [("payment_id", p.toText), ("error", e.message)]
  | awaitingSettlements mode n => [("mode", mode.name), ("in_flight", toString n)]
  | sweepStarting seconds => [("period_secs", toString seconds)]
  | consumerStarting milliseconds => [("interval_ms", toString milliseconds)]
  | serviceStarting service => [("service", service)]
  | serviceEnded service ending =>
    ("service", service) :: ending.error?.toList.map fun error => ("error", error)
  | sweepStopped | consumerStopped | fallbackDisabled | shuttingDown | shutdownComplete => []

/-- Whether an entry tells of trouble. -/
def isTrouble (e : LogEntry) : Bool := e.level ≠ .info

end LogEntry

end Matchday

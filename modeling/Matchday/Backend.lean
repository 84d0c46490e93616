import Matchday.Geocoding.Resolver
import Matchday.Locating.Queue
import Matchday.Settlement.Schedule
import Matchday.Store.Events
import Matchday.Store.Payments

/-!
What all tasks share: two clocks, the stores, the geocoders, the queue of lookups, the schedule of
settlements and the log. The calendar decides about recheck times and the ends of events; timers
follow a clock of their own, which counts milliseconds.
-/

namespace Matchday
set_option autoImplicit false

/-- The shared state. -/
structure Backend where
  calendar : Instant
  now : Nat
  events : EventStore
  payments : PaymentStore
  geocoders : Geocoders
  queue : LookupQueue
  schedule : Schedule
  log : List LogEntry

namespace Backend

/-- A state in which nothing has happened yet. -/
def create (calendar : Instant) (events : EventStore) (payments : PaymentStore)
    (geocoders : Geocoders) (settlementDelay : Nat) : Backend :=
  ⟨calendar, 0, events, payments, geocoders, .empty, .create settlementDelay, []⟩

/-- Adds entries to the log. -/
def record (b : Backend) (entries : List LogEntry) : Backend := { b with log := b.log ++ entries }

/-! ## Queueing lookups -/

/-- Queues a lookup of an event's address, unless it is too early or the event is tracked. -/
def mark (b : Backend) (event : EventId) (address : String) (recheckAfter : Instant) :
    Bool × Backend :=
  let (queued, queue) := b.queue.mark event address recheckAfter b.calendar
  (queued, { b with queue })

/-- Queues a lookup for a location that was just read, if it has no point. -/
def observe (b : Backend) (l : EventLocation) : Bool × Backend :=
  let (queued, queue) := b.queue.observe l b.calendar
  (queued, { b with queue })

end Backend

end Matchday

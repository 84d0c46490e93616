import Matchday.Concurrent.Machine

/-!
Runs of a machine: any sequence of changes from outside, of calls, of steps and of time that passes.
What holds of every run holds whichever way the tasks take turns and however long each step takes.
-/

namespace Matchday
set_option autoImplicit false

/-- A change from outside: what is kept in the stores, which of their calls fail, what geocoders
answer, and what the calendar shows. -/
inductive Change where
  | addEvent (event : StoredEvent)
  | setCapacity (event : EventId) (capacity : Option Int32)
  | endEvent (event : EventId) (time : Instant)
  | deleteEvent (event : EventId)
  | delayRecheck (event : EventId) (time : Instant)
  | failEvents (call : EventCall) (n : Nat)
  | setRivals (n : Nat)
  | addPayment (payment : Payment)
  | setStatus (payment : PaymentId) (status : PaymentStatus)
  | failPayments (call : PaymentCall) (n : Nat)
  | extendPrimary (answers : List Answer)
  | extendSecondary (answers : List Answer)
  | delayPrimary (latency : Nat)
  | delaySecondary (latency : Nat)
  | setCalendar (time : Instant)

namespace Backend

/-- Changes the store of events. -/
def onEvents (b : Backend) (f : EventStore → EventStore) : Backend :=
  { b with events := f b.events }

/-- Changes the store of payments. -/
def onPayments (b : Backend) (f : PaymentStore → PaymentStore) : Backend :=
  { b with payments := f b.payments }

/-- Changes the first geocoder. -/
def onPrimary (b : Backend) (f : Geocoder → Geocoder) : Backend :=
  { b with geocoders := { b.geocoders with primary := f b.geocoders.primary } }

/-- Changes the second geocoder. -/
def onSecondary (b : Backend) (f : Geocoder → Geocoder) : Backend :=
  { b with geocoders := { b.geocoders with secondary := f b.geocoders.secondary } }

/-- The shared state after a change. -/
def change (b : Backend) : Change → Backend
  | .addEvent event => b.onEvents (·.insert event)
  | .setCapacity event capacity => b.onEvents (·.setCapacity event capacity)
  | .endEvent event time => b.onEvents (·.endAt event time)
  | .deleteEvent event => b.onEvents (·.delete event)
  | .delayRecheck event time => b.onEvents (·.delayRecheck event time)
  | .failEvents call n => b.onEvents (·.fail call n)
  | .setRivals n => b.onEvents fun s => { s with rivals := n }
  | .addPayment payment => b.onPayments fun s => (s.insert payment).2
  | .setStatus payment status => b.onPayments fun s => (s.updateStatus payment status).2
  | .failPayments call n => b.onPayments (·.fail call n)
  | .extendPrimary answers => b.onPrimary (·.extend answers)
  | .extendSecondary answers => b.onSecondary (·.extend answers)
  | .delayPrimary latency => b.onPrimary (·.delayBy latency)
  | .delaySecondary latency => b.onSecondary (·.delayBy latency)
  | .setCalendar time => { b with calendar := time }

end Backend

/-- One thing that can happen to a machine. -/
inductive Action where
  | change (c : Change)
  | call (c : Call)
  | step (id : TaskId) (goOn : Bool)
  | cancel (crew : Crew)
  | wait (milliseconds : Nat)

namespace Machine

/-- The machine after one thing has happened. -/
def act (m : Machine) : Action → Machine
  | .change c => m.modify (·.change c)
  | .call c => m.call c
  | .step id goOn => m.step id goOn
  | .cancel crew => m.cancel crew
  | .wait milliseconds => m.setTime (m.now + milliseconds)

/-- The machine after a row of things have happened. -/
def run (m : Machine) (actions : List Action) : Machine := actions.foldl act m

end Machine

end Matchday

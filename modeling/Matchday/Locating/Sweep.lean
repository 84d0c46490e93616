import Matchday.Backend

/-!
The two ways by which events without a point come into the queue: a sweep over the stored events,
and the reading of one event. Both load locations first and look at them then, so they can be done
at once or step by step.
-/

namespace Matchday
set_option autoImplicit false

/-! ## Sweeping -/

namespace Backend

/-- The locations of the stored events that still need their point. -/
def loadMissing (b : Backend) : Except EventStoreError (List EventLocation) × Backend :=
  let (answer, events) := b.events.findMissing b.calendar
  (answer, { b with events })

/-- Queues lookups for a row of locations, and counts those that were queued. -/
def observeAll (b : Backend) : List EventLocation → Nat × Backend
  | [] => (0, b)
  | l :: ls =>
    let (queued, b) := b.observe l
    let (rest, b) := b.observeAll ls
    (queued.toNat + rest, b)

/-- Queues a lookup for every stored event that still needs its point; the answer is how many were
queued. -/
def sweep (b : Backend) : Except EventStoreError Nat × Backend :=
  match b.loadMissing with
  | (.error e, b) => (.error e, b)
  | (.ok missing, b) =>
    let (queued, b) := b.observeAll missing
    (.ok queued, b)

end Backend

/-- How far a sweep has come. -/
inductive Sweep where
  | starting
  | observing (missing : List EventLocation) (queued : Nat)
  | finished (result : Except EventStoreError Nat)

namespace Sweep

/-- The next step of a sweep: loading the locations, or looking at one of them. -/
def step (b : Backend) : Sweep → Sweep × Backend
  | starting =>
    match b.loadMissing with
    | (.error e, b) => (finished (.error e), b)
    | (.ok missing, b) => (observing missing 0, b)
  | observing [] queued => (finished (.ok queued), b)
  | observing (l :: ls) queued =>
    let (added, b) := b.observe l
    (observing ls (queued + added.toNat), b)
  | finished result => (finished result, b)

/-- The outcome of a sweep that is done. -/
def result? : Sweep → Option (Except EventStoreError Nat)
  | finished result => some result
  | _ => none

end Sweep

/-! ## Reading one event -/

/-- The outcome of reading an event: its location, nothing if there is no such event, or a failure
of the store. -/
abbrev Located := Except EventStoreError (Option EventLocation)

namespace Backend

/-- The stored location of an event. -/
def loadLocation (b : Backend) (event : EventId) : Located × Backend :=
  let (answer, events) := b.events.findLocation event
  (answer, { b with events })

/-- Looks at what was read. -/
def observeRead (b : Backend) : Located → Backend
  | .ok (some l) => (b.observe l).2
  | .ok none | .error _ => b

/-- Reads where an event takes place, and queues a lookup if its point is missing. -/
def readLocation (b : Backend) (event : EventId) : Located × Backend :=
  let (answer, b) := b.loadLocation event
  (answer, b.observeRead answer)

end Backend

/-- How far the reading of an event has come. -/
inductive Reading where
  | starting
  | observing (answer : Located)
  | finished (answer : Located)

namespace Reading

/-- The next step of reading an event: loading the location, or looking at it. -/
def step (b : Backend) (event : EventId) : Reading → Reading × Backend
  | starting =>
    let (answer, b) := b.loadLocation event
    (observing answer, b)
  | observing answer => (finished answer, b.observeRead answer)
  | finished answer => (finished answer, b)

/-- The outcome of a reading that is done. -/
def result? : Reading → Option Located
  | finished answer => some answer
  | _ => none

end Reading

end Matchday

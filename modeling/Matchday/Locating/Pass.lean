import Matchday.Backend

/-!
Working through the queue of lookups, one task at a time: the first task is taken out, its address
is looked up, and the point is written. Only then is the event no longer tracked; a lookup or a
write that fails puts the task at the end of the queue. A pass is done at once by
`Backend.processNext`, or step by step by `Pass.step`.
-/

namespace Matchday
set_option autoImplicit false

/-- What a pass has done with a task. -/
inductive Processed where
  | resolved (event : EventId) (coordinates : Coordinates)
  | requeued (event : EventId) (attempts : UInt32)
deriving DecidableEq

namespace Backend

/-- Takes the first task out of the queue. -/
def takeTask? (b : Backend) : Option (LookupTask × Backend) :=
  b.queue.pop?.map fun (task, queue) => (task, { b with queue })

/-- Puts a task that has failed at the end of the queue. -/
def requeue (b : Backend) (task : LookupTask) : Processed × Backend :=
  (.requeued task.event task.failed.attempts, { b with queue := b.queue.requeue task })

/-- Notes that a lookup has failed. -/
def noteLookupFailure (b : Backend) (task : LookupTask) (e : ResolveError) : Backend :=
  b.record [.lookupFailed task.event task.address e]

/-- Writes the point of a task's event; whether it was written. -/
def writePoint (b : Backend) (task : LookupTask) (c : Coordinates) : Bool × Backend :=
  match b.events.setCoordinates task.event c with
  | (.ok (), events) => (true, { b with events })
  | (.error e, events) => (false, { b with events }.record [.writeFailed task.event task.address e])

/-- Tracks a task's event no longer. -/
def untrack (b : Backend) (task : LookupTask) : Backend :=
  { b with queue := b.queue.untrack task.event }

/-- Looks an address up at the two geocoders. -/
def lookUp (b : Backend) (address : String) (caller : Caller) : Resolution × Backend :=
  let (result, geocoders, entries) := b.geocoders.resolve address caller
  (result, { b with geocoders }.record entries)

/-- Works on the first task of the queue; nothing happens if there is none. -/
def processNext (b : Backend) : Option Processed × Backend :=
  match b.takeTask? with
  | none => (none, b)
  | some (task, b) =>
    match b.lookUp task.address .refresh with
    | (.error e, b) =>
      let (outcome, b) := (b.noteLookupFailure task e).requeue task
      (some outcome, b)
    | (.ok c, b) =>
      match b.writePoint task c with
      | (false, b) =>
        let (outcome, b) := b.requeue task
        (some outcome, b)
      | (true, b) => (some (.resolved task.event c), b.untrack task)

/-- The next step of a lookup. -/
def stepLookup (b : Backend) (address : String) (caller : Caller) (l : Lookup) : Lookup × Backend :=
  let (l, geocoders, entries) := l.step b.now address caller b.geocoders
  (l, { b with geocoders }.record entries)

end Backend

/-- How far a pass has come. -/
inductive Pass where
  | starting
  | resolving (task : LookupTask) (lookup : Lookup)
  | writing (task : LookupTask) (coordinates : Coordinates)
  | untracking (task : LookupTask) (coordinates : Coordinates)
  | requeueing (task : LookupTask)
  | finished (outcome : Option Processed)

namespace Pass

/-- What a pass waits for. -/
def timer? : Pass → Option Timer
  | resolving _ lookup => lookup.timer?
  | _ => none

/-- The outcome of a pass that is done. -/
def result? : Pass → Option (Option Processed)
  | finished outcome => some outcome
  | _ => none

/-- The next step of a pass. -/
def step (b : Backend) : Pass → Pass × Backend
  | starting =>
    match b.takeTask? with
    | none => (finished none, b)
    | some (task, b) => (resolving task .starting, b)
  | resolving task (.finished (.ok c)) => (writing task c, b)
  | resolving task (.finished (.error e)) => (requeueing task, b.noteLookupFailure task e)
  | resolving task lookup =>
    let (lookup, b) := b.stepLookup task.address .refresh lookup
    (resolving task lookup, b)
  | writing task c =>
    match b.writePoint task c with
    | (true, b) => (untracking task c, b)
    | (false, b) => (requeueing task, b)
  | untracking task c => (finished (some (.resolved task.event c)), b.untrack task)
  | requeueing task =>
    let (outcome, b) := b.requeue task
    (finished (some outcome), b)
  | finished outcome => (finished outcome, b)

end Pass

end Matchday

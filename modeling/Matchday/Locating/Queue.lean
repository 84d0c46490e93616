import Matchday.Event

/-!
The queue of events whose point on the map is to be looked up. An event is tracked from the moment
it is queued until its point has been written, also while its task is being worked on, and a tracked
event is not queued a second time. A task that fails goes to the end of the queue.
-/

namespace Matchday
set_option autoImplicit false

/-- A lookup that is due, with the number of lookups that failed before it. -/
structure LookupTask where
  event : EventId
  address : String
  attempts : UInt32
deriving DecidableEq

/-- A task that has failed once more. -/
def LookupTask.failed (task : LookupTask) : LookupTask :=
  { task with attempts := task.attempts + 1 }

/-- The tasks that wait, and the tracked events. -/
structure LookupQueue where
  pending : List LookupTask
  tracked : List EventId
deriving DecidableEq

namespace LookupQueue

/-- A queue without tasks. -/
def empty : LookupQueue := ⟨[], []⟩

/-- Whether an event is tracked. -/
def isTracked (q : LookupQueue) (event : EventId) : Bool := q.tracked.contains event

/-- Whether a lookup would be queued: the event's recheck time has come, and it is not tracked. -/
def accepts (q : LookupQueue) (event : EventId) (recheckAfter now : Instant) : Bool :=
  !now.before recheckAfter && !q.isTracked event

/-- Tracks an event and appends its task. -/
def enqueue (q : LookupQueue) (event : EventId) (address : String) : LookupQueue :=
  ⟨q.pending ++ [⟨event, address, 0⟩], q.tracked ++ [event]⟩

/-- Queues a lookup if it is accepted; the answer says whether it was. -/
def mark (q : LookupQueue) (event : EventId) (address : String) (recheckAfter now : Instant) :
    Bool × LookupQueue :=
  if q.accepts event recheckAfter now then (true, q.enqueue event address) else (false, q)

/-- Queues a lookup for a location without a point. -/
def observe (q : LookupQueue) (l : EventLocation) (now : Instant) : Bool × LookupQueue :=
  if l.needsCoordinates then q.mark l.id l.address l.recheckAfter now else (false, q)

/-- The first task, and the queue without it; the event stays tracked. -/
def pop? (q : LookupQueue) : Option (LookupTask × LookupQueue) :=
  match q.pending with
  | [] => none
  | task :: rest => some (task, { q with pending := rest })

/-- Puts a failed task at the end. -/
def requeue (q : LookupQueue) (task : LookupTask) : LookupQueue :=
  { q with pending := q.pending ++ [task.failed] }

/-- An event is not tracked any more. -/
def untrack (q : LookupQueue) (event : EventId) : LookupQueue :=
  { q with tracked := q.tracked.erase event }

end LookupQueue

end Matchday

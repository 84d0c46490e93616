import Matchday.Locating.Pass
import Matchday.Locating.Sweep
import Matchday.Services.Worker
import Matchday.Settlement.Status
import Matchday.Settlement.Task
import Matchday.Subscription

/-!
Everything that can be under way at the same time, as tasks that share one state. A task begins with
a call, or settles a payment, and is carried on step by step; between two steps of a task the others
may do theirs. A task is ready when its next step need not wait: its timer is due, or what it waits
for has happened.
-/

namespace Matchday
set_option autoImplicit false

/-- Workers, by the numbers of the calls with which they began. -/
abbrev Crew := List Nat

/-! ## Calls -/

/-- What may be asked for. A worker is given the number of the task that it runs in. A call that closes
stops a crew of workers, and the settling too if it is given a way to. -/
inductive Call where
  | mark (event : EventId) (address : String) (recheckAfter : Instant)
  | observe (location : EventLocation)
  | sweep
  | read (event : EventId)
  | pass
  | lookup (address : String) (caller : Caller)
  | subscribe (wish : Wish) (lag start : Nat)
  | query (payment : PaymentId)
  | status (payment : PaymentId)
  | worker (kind : WorkerKind) (period task : Nat)
  | shutdown (mode : ShutdownMode)
  | close (crew : Crew) (mode : Option ShutdownMode)

/-! ## Tasks -/

/-- How far the end of the settling has come: not begun, waiting for settlements that are under way,
or done. -/
inductive Shutdown where
  | starting
  | waiting
  | finished
deriving DecidableEq, Repr

/-- How far the end of the application has come: not begun, waiting for the workers, waiting for the
settlements, or done. -/
inductive Closing where
  | starting
  | joining
  | settling (stage : Shutdown)
  | finished
deriving DecidableEq, Repr

/-- A task: what it works on and how far it has come. -/
inductive Task where
  | mark (event : EventId) (address : String) (recheckAfter : Instant) (answer : Option Bool)
  | observe (location : EventLocation) (answer : Option Bool)
  | sweep (stage : Sweep)
  | reading (event : EventId) (stage : Reading)
  | pass (stage : Pass)
  | lookup (address : String) (caller : Caller) (stage : Lookup)
  | subscription (wish : Wish) (lag : Nat) (stage : Subscription)
  | query (payment : PaymentId) (answer : Option Bool)
  | status (payment : PaymentId) (stage : StatusQuery)
  | settlement (payment : PaymentId) (stage : Settlement)
  | worker (w : Worker)
  | shutdown (mode : ShutdownMode) (stage : Shutdown)
  | closing (crew : Crew) (mode : Option ShutdownMode) (stage : Closing)

/-- The task with which a call begins, at some time. -/
def Call.task (now : Nat) : Call → Task
  | mark event address recheckAfter => .mark event address recheckAfter none
  | observe location => .observe location none
  | sweep => .sweep .starting
  | read event => .reading event .starting
  | pass => .pass .starting
  | lookup address caller => .lookup address caller .starting
  | subscribe wish lag start => .subscription wish lag (.waiting (.after now start))
  | query payment => .query payment none
  | status payment => .status payment .starting
  | worker kind period task => .worker (.create kind period task)
  | shutdown mode => .shutdown mode .starting
  | close crew mode => .closing crew mode .starting

namespace Task

/-- The timer that a task waits for. -/
def timer? : Task → Option Timer
  | pass stage => stage.timer?
  | lookup _ _ stage => stage.timer?
  | subscription _ _ stage => stage.timer?
  | settlement _ stage => stage.timer?
  | worker w => w.timer?
  | mark _ _ _ _ | observe _ _ | sweep _ | reading _ _ | query _ _ | status _ _ | shutdown _ _
  | closing _ _ _ => none

/-- Whether a task is done. -/
def isFinished : Task → Bool
  | mark _ _ _ answer => answer.isSome
  | observe _ answer => answer.isSome
  | sweep stage => stage.result?.isSome
  | reading _ stage => stage.result?.isSome
  | pass stage => stage.result?.isSome
  | lookup _ _ stage => stage.result?.isSome
  | subscription _ _ stage => stage.result?.isSome
  | query _ answer => answer.isSome
  | status _ stage => stage.result?.isSome
  | settlement _ stage => stage.result?.isSome
  | worker w => w.ending?.isSome
  | shutdown _ stage => stage = .finished
  | closing _ _ stage => stage = .finished

/-- Whether something has happened that ends a task's wait before its timer is due: the schedule was
abandoned, or the worker was told to stop. -/
def isInterrupted (b : Backend) : Task → Bool
  | settlement _ (.waiting _) => b.schedule.isAbandoned
  | worker w => w.isWaiting && w.isCancelled
  | _ => false

/-- Whether a task waits for settlements that are under way. -/
def awaitsSettlements : Task → Bool
  | shutdown _ .waiting | closing _ _ (.settling .waiting) => true
  | _ => false

/-- The workers whose ends a task waits for. -/
def awaitedCrew : Task → Crew
  | closing crew _ .joining => crew
  | _ => []

/-- Whether a task can take its next step, as far as the shared state decides that. -/
def isReady (b : Backend) (t : Task) : Bool :=
  !t.isFinished && (t.isInterrupted b || (t.timer?.all (·.isDue b.now)
    && (!t.awaitsSettlements || b.schedule.inFlight = 0)))

/-- The task told to stop, if it is a worker. -/
def cancel : Task → Task
  | worker w => worker { w with isCancelled := true }
  | t => t

/-- Whether a task has been told to stop. -/
def isCancelled : Task → Bool
  | worker w => w.isCancelled
  | _ => false

/-- A worker with the way it has ended. -/
def ending? : Task → Option (WorkerKind × Ending)
  | worker w => w.ending?.map fun ending => (w.kind, ending)
  | _ => none

end Task

/-! ## Steps -/

/-- The next step of the end of the settling. -/
def Shutdown.step (b : Backend) (mode : ShutdownMode) : Shutdown → Shutdown × Backend
  | starting =>
    (waiting, { b with schedule := b.schedule.close mode }.record
      [.awaitingSettlements mode b.schedule.inFlight])
  | waiting | finished => (finished, b)

namespace Task

/-- The next step of a task, as far as it does not look at other tasks: the task after it, the
shared state, and whether the settlement of the payment that it asks about begins. -/
def step (b : Backend) (goOn : Bool) : Task → Task × Backend × Bool
  | mark event address recheckAfter none =>
    let (queued, b) := b.mark event address recheckAfter
    (mark event address recheckAfter (some queued), b, false)
  | observe location none =>
    let (queued, b) := b.observe location
    (observe location (some queued), b, false)
  | sweep stage =>
    let (stage, b) := stage.step b
    (sweep stage, b, false)
  | reading event stage =>
    let (stage, b) := stage.step b event
    (reading event stage, b, false)
  | pass stage =>
    let (stage, b) := stage.step b
    (pass stage, b, false)
  | lookup address caller stage =>
    let (stage, b) := b.stepLookup address caller stage
    (lookup address caller stage, b, false)
  | subscription wish lag stage =>
    let (stage, b) := stage.step b wish lag
    (subscription wish lag stage, b, false)
  | query payment none =>
    let (scheduled, b) := b.query payment
    (query payment (some scheduled), b, scheduled)
  | status payment stage =>
    let (stage, scheduled, b) := stage.step b payment
    (status payment stage, b, scheduled)
  | settlement payment stage =>
    let (stage, b) := stage.step b payment goOn
    (settlement payment stage, b, false)
  | worker w =>
    let (w, b) := w.step b goOn
    (worker w, b, false)
  | shutdown mode stage =>
    let (stage, b) := stage.step b mode
    (shutdown mode stage, b, false)
  | t => (t, b, false)

/-- The payment that a task asks about. -/
def asked? : Task → Option PaymentId
  | query payment _ | status payment _ => some payment
  | _ => none

end Task

end Matchday

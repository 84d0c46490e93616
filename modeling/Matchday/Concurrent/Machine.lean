import Matchday.Concurrent.Task

/-!
The shared state with all tasks that ever began, in the order in which they are served: a task that
begins, or that has had its turn, goes behind the others. A call's task is known by the call's
number, a settlement by its payment. A step carries on one task that is ready; any order of steps is
a run of the machine, and time may pass between any two.
-/

namespace Matchday
set_option autoImplicit false

/-- The name of a task. -/
inductive TaskId where
  | call (n : Nat)
  | settlement (payment : PaymentId)
deriving DecidableEq

/-- The shared state, the tasks and the number of calls so far. -/
structure Machine where
  backend : Backend
  tasks : List (TaskId × Task)
  calls : Nat

namespace Machine

/-- A machine on which nothing has begun. -/
def create (b : Backend) : Machine := ⟨b, [], 0⟩

/-- The time. -/
def now (m : Machine) : Nat := m.backend.now

/-- Changes the shared state. -/
def modify (m : Machine) (f : Backend → Backend) : Machine := { m with backend := f m.backend }

/-- Adds entries to the log. -/
def record (m : Machine) (entries : List LogEntry) : Machine := m.modify (·.record entries)

/-- Time passes up to some moment. -/
def setTime (m : Machine) (time : Nat) : Machine := m.modify fun b => { b with now := time }

/-! ## Tasks -/

/-- The task with a name. -/
def task? (m : Machine) (id : TaskId) : Option Task := m.tasks.lookup id

/-- The task of a call. -/
def callTask? (m : Machine) (n : Nat) : Option Task := m.task? (.call n)

/-- Lets a task begin, behind the others. -/
def spawn (m : Machine) (id : TaskId) (t : Task) : Machine :=
  { m with tasks := m.tasks ++ [(id, t)] }

/-- Makes a call, whose number is that of the calls before it. -/
def call (m : Machine) (c : Call) : Machine :=
  { m.spawn (.call m.calls) (c.task m.now) with calls := m.calls + 1 }

/-- Puts another task in the place of one. -/
def put (m : Machine) (id : TaskId) (t : Task) : Machine :=
  { m with tasks := m.tasks.map fun e => if e.1 = id then (id, t) else e }

/-- Puts a task behind the others. -/
def sendBack (m : Machine) (id : TaskId) : Machine :=
  { m with tasks := m.tasks.filter (·.1 ≠ id) ++ m.tasks.filter (·.1 = id) }

/-- Whether the task of a call is done. -/
def isFinished (m : Machine) (n : Nat) : Bool := (m.callTask? n).all Task.isFinished

/-! ## Crews of workers -/

/-- The workers of a crew that have ended, with the ways they did, in the crew's order. -/
def endings (m : Machine) (crew : Crew) : List (WorkerKind × Ending) :=
  crew.filterMap fun n => (m.callTask? n).bind Task.ending?

/-- Whether all workers of a crew have ended. -/
def allEnded (m : Machine) (crew : Crew) : Bool := crew.all m.isFinished

/-- Tells the workers of a crew to stop. -/
def cancel (m : Machine) (crew : Crew) : Machine :=
  { m with tasks := m.tasks.map fun e =>
      if crew.any fun n => e.1 = .call n then (e.1, e.2.cancel) else e }

/-- Whether the workers of a crew have been told to stop. -/
def isCancelled (m : Machine) (crew : Crew) : Bool :=
  crew.all fun n => (m.callTask? n).all Task.isCancelled

/-- What is logged about the workers of a crew that have ended. -/
def endingEntries (m : Machine) (crew : Crew) : List LogEntry :=
  (m.endings crew).map fun e => .serviceEnded e.1.service e.2

/-- Lets the two workers begin, in tasks that are numbered like the calls: the machine and their crew. -/
def startWorkers (m : Machine) (sweepPeriod consumerPeriod : Nat) : Machine × Crew :=
  (((m.record [.serviceStarting WorkerKind.sweep.service,
      .serviceStarting WorkerKind.consumer.service]).call (.worker .sweep sweepPeriod m.calls)).call
        (.worker .consumer consumerPeriod (m.calls + 1)),
    [m.calls, m.calls + 1])

/-! ## Steps -/

/-- Whether a task can take its next step. -/
def canStep (m : Machine) (t : Task) : Bool := t.isReady m.backend && m.allEnded t.awaitedCrew

/-- The next step of a task that closes. -/
def stepClosing (m : Machine) (id : TaskId) (crew : Crew) (mode : Option ShutdownMode) :
    Closing → Machine
  | .starting =>
    ((m.record (mode.toList.map fun _ => .shuttingDown)).cancel crew).put id
      (.closing crew mode .joining)
  | .joining =>
    (m.record (m.endingEntries crew)).put id (.closing crew mode
      (if mode.isSome then .settling .starting else .finished))
  | .settling .finished =>
    (m.record [.shutdownComplete]).put id (.closing crew mode .finished)
  | .settling stage =>
    match mode with
    | none => m.put id (.closing crew mode .finished)
    | some way =>
      let (stage, b) := stage.step m.backend way
      { m with backend := b }.put id (.closing crew mode (.settling stage))
  | .finished => m

/-- Lets the settlement begin of the payment that a task asks about. -/
def settle (m : Machine) (t : Task) : Machine :=
  match t.asked? with
  | some payment => m.spawn (.settlement payment) (.settlement payment .starting)
  | none => m

/-- Carries on a task. -/
def stepTask (m : Machine) (id : TaskId) (goOn : Bool) : Task → Machine
  | .closing crew mode stage => m.stepClosing id crew mode stage
  | t =>
    let (t, b, settles) := t.step m.backend goOn
    let m := { m with backend := b }.put id t
    if settles then m.settle t else m

/-- Carries on the task with a name if it is ready. If it is interrupted and its timer is due as
well, `goOn` says which of the two it sees first. -/
def step (m : Machine) (id : TaskId) (goOn : Bool) : Machine :=
  match m.task? id with
  | none => m
  | some t => if m.canStep t then m.stepTask id goOn t else m

end Machine

end Matchday

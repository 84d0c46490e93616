import Matchday.Locating.Pass
import Matchday.Locating.Sweep

/-!
The two background workers: one sweeps over the stored events, at once and then in every period; the
other works on one task of the queue in every period, for the first time when one period has passed.
A worker stops between two rounds once it is told to; a round that has begun is completed. A worker
with a period of zero breaks down when it begins, since there is no ticker with such a period.
-/

namespace Matchday
set_option autoImplicit false

/-- The workers. -/
inductive WorkerKind where
  | sweep
  | consumer
deriving DecidableEq, Repr

namespace WorkerKind

/-- The name of a worker's service. -/
def service : WorkerKind → String
  | sweep => "coordinate-sweep"
  | consumer => "coordinate-consumer"

/-- What is logged when a worker with some period begins. -/
def startingEntry (period : Nat) : WorkerKind → LogEntry
  | sweep => .sweepStarting (period / 1000)
  | consumer => .consumerStarting period

/-- What is logged when a worker has been told to stop. -/
def stoppedEntry : WorkerKind → LogEntry
  | sweep => .sweepStopped
  | consumer => .consumerStopped

/-- The first tick of a worker that begins now. -/
def firstTick (now period : Nat) : WorkerKind → Timer
  | sweep => ⟨now⟩
  | consumer => ⟨now + period⟩

end WorkerKind

/-- One round of a worker. -/
inductive Round where
  | sweep (stage : Sweep)
  | pass (stage : Pass)

namespace Round

/-- The round of a worker, before its first step. -/
def ofKind : WorkerKind → Round
  | .sweep => sweep .starting
  | .consumer => pass .starting

/-- What a round waits for. -/
def timer? : Round → Option Timer
  | sweep _ => none
  | pass stage => stage.timer?

/-- Whether a round is done. -/
def isFinished : Round → Bool
  | sweep stage => stage.result?.isSome
  | pass stage => stage.result?.isSome

/-- The next step of a round. -/
def step (b : Backend) : Round → Round × Backend
  | sweep stage =>
    let (stage, b) := stage.step b
    (sweep stage, b)
  | pass stage =>
    let (stage, b) := stage.step b
    (pass stage, b)

/-- What is logged about a round that is done: a sweep that could not load. -/
def entries : Round → List LogEntry
  | sweep (.finished (.error e)) => [.loadFailed e]
  | sweep _ | pass _ => []

end Round

/-- What a worker does: not begun, waiting for its next tick, in a round whose next tick is known,
or at its end. -/
inductive WorkerStage where
  | starting
  | waiting (timer : Timer)
  | busy (next : Nat) (round : Round)
  | ended (ending : Ending)

/-- A worker; `isCancelled` says whether it has been told to stop, and `task` is the number of the task that it
runs in. -/
structure Worker where
  kind : WorkerKind
  period : Nat
  isCancelled : Bool
  stage : WorkerStage
  task : Nat

namespace Worker

/-- A worker that has not begun. -/
def create (kind : WorkerKind) (period task : Nat) : Worker := ⟨kind, period, false, .starting, task⟩

/-- The worker in another stage. -/
def become (w : Worker) (stage : WorkerStage) : Worker := { w with stage }

/-- What a worker waits for. -/
def timer? (w : Worker) : Option Timer :=
  match w.stage with
  | .waiting timer => some timer
  | .busy _ round => round.timer?
  | .starting | .ended _ => none

/-- Whether a worker waits for its next tick. -/
def isWaiting (w : Worker) : Bool :=
  match w.stage with
  | .waiting _ => true
  | _ => false

/-- How a worker has ended. -/
def ending? (w : Worker) : Option Ending :=
  match w.stage with
  | .ended ending => some ending
  | _ => none

/-- How a worker breaks down that has no ticker. -/
def breakdown (w : Worker) : Ending := .panicked w.task (some "`period` must be non-zero.")

/-- A worker begins: it announces itself, and waits for its first tick or breaks down. -/
def start (w : Worker) (b : Backend) : Worker × Backend :=
  (w.become (if w.period = 0 then .ended w.breakdown
      else .waiting (w.kind.firstTick b.now w.period)),
    b.record [w.kind.startingEntry w.period])

/-- A worker stops. -/
def stop (w : Worker) (b : Backend) : Worker × Backend :=
  (w.become (.ended .stopped), b.record [w.kind.stoppedEntry])

/-- The next step of a worker. One that has been told to stop does so at its next wait, unless its
next tick has come as well and the step is told to go on. -/
def step (w : Worker) (b : Backend) (goOn : Bool) : Worker × Backend :=
  match w.stage with
  | .starting => w.start b
  | .waiting timer =>
    if w.isCancelled && !(goOn && timer.isDue b.now) then w.stop b
    else (w.become (.busy (nextTick w.period timer.due b.now) (.ofKind w.kind)), b)
  | .busy next round =>
    if round.isFinished then (w.become (.waiting ⟨next⟩), b.record round.entries)
    else
      let (round, b) := round.step b
      (w.become (.busy next round), b)
  | .ended ending => (w.become (.ended ending), b)

end Worker

end Matchday

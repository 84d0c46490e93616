import Matchday.Concurrent.Machine

/-!
Running a machine in time. Tasks that are ready have their turns, one after another, each until it
waits or its turn is used up; only when no task is ready does time pass, and then up to the next
timer. Whenever a timer is due the calls that somebody waits for are carried on first, and then the
other tasks in the order in which they began to wait; a task whose turn is used up has the next one
when all others that are ready have had theirs. Which of two things that have both happened a task
sees first is left to chance.
-/

namespace Matchday
set_option autoImplicit false

/-- The order in which ready tasks have their turns: tasks that wait for no timer come first, the
others by their timers. -/
def Task.turn (t : Task) : Nat := (t.timer?.map (·.due + 1)).getD 0

/-! ## The length of a turn -/

/-- How often a task may take the queue or a timer in one turn. -/
def turnLength : Nat := 128

/-- Whether a look at a location takes the queue. -/
def Backend.admits (b : Backend) (l : EventLocation) : Bool :=
  l.needsCoordinates && !b.calendar.before l.recheckAfter

/-- Whether the next step of a sweep takes the queue. -/
def Sweep.takesQueue (b : Backend) : Sweep → Bool
  | observing (l :: _) _ => b.admits l
  | starting | observing [] _ | finished _ => false

/-- Whether the next step of a pass takes the queue. -/
def Pass.takesQueue : Pass → Bool
  | starting | untracking _ _ | requeueing _ => true
  | resolving _ _ | writing _ _ | finished _ => false

/-- Whether the next step of a worker takes the queue. -/
def Worker.takesQueue (b : Backend) (w : Worker) : Bool :=
  match w.stage with
  | .busy _ (.sweep stage) => stage.takesQueue b
  | .busy _ (.pass stage) => stage.takesQueue
  | .starting | .waiting _ | .ended _ => false

/-- Whether the next step of a task takes the queue. -/
def Task.takesQueue (b : Backend) : Task → Bool
  | mark _ _ recheckAfter _ => !b.calendar.before recheckAfter
  | observe location _ | reading _ (.observing (.ok (some location))) => b.admits location
  | sweep stage => stage.takesQueue b
  | pass stage => stage.takesQueue
  | worker w => w.takesQueue b
  | _ => false

/-- How much of its turn the next step of a task uses up. -/
def Task.cost (b : Backend) (t : Task) : Nat :=
  t.timer?.isSome.toNat + (t.takesQueue b).toNat

/-! ## The length of a call -/

/-- How many rounds one waits for a worker that was told to stop; hardly ever does it have as many. -/
def maxRounds : Nat := 64

/-- The most time that a call takes once every timer that is set is due: a wish may load several
times, workers that were told to stop may have some rounds more, and anything else has at most two
lookups before it. -/
def Call.patience (g : Geocoders) : Call → Nat
  | .subscribe _ lag start => start + maxAttempts * lag
  | .close _ _ => maxRounds * g.slowest
  | _ => 2 * g.slowest

namespace Machine

/-- The ready task whose turn it is, in a row of tasks, and its turn; of tasks with the same turn
the first. -/
def nextReadyOf (m : Machine) : List (TaskId × Task) → Option (TaskId × Nat)
  | [] => none
  | (id, t) :: ts =>
    if m.canStep t then
      match m.nextReadyOf ts with
      | some (other, turn) => if turn < t.turn then some (other, turn) else some (id, t.turn)
      | none => some (id, t.turn)
    else m.nextReadyOf ts

/-- The ready task whose turn it is, of those that are not to rest. -/
def nextReady? (m : Machine) (resting : List TaskId) : Option TaskId :=
  (m.nextReadyOf (m.tasks.filter fun t => !resting.contains t.1)).map (·.1)

/-- More steps than can be taken without time passing: a task takes a few, a sweep one more for
every stored event, a worker that is within the tolerance a few rounds, and each task can begin one
more. -/
def stepsAtOnce (m : Machine) : Nat :=
  (m.tasks.length + 1) * (m.backend.events.events.length + 16) * 16

/-- Whether the task with a name can take its next step. -/
def isReady (m : Machine) (id : TaskId) : Bool := (m.task? id).any m.canStep

/-- What a task sees first of two things that have both happened: chance is a bit in the middle of a
cube. -/
def chance (m : Machine) : TaskId → Bool
  | .call n => Nat.pow (1000 * m.now + n) 3 / Nat.pow 2 16 % 2 = 1
  | .settlement _ => false

/-- How much of its turn the next step of the task with a name uses up. -/
def cost (m : Machine) (id : TaskId) : Nat := ((m.task? id).map (·.cost m.backend)).getD 0

/-- Carries on a task until it waits or is done or has not enough left of its turn, in at most so many
steps. -/
def carryOn (id : TaskId) : Nat → Nat → Machine → Machine
  | 0, _, m => m
  | fuel + 1, left, m =>
    if m.isReady id ∧ m.cost id ≤ left then
      carryOn id fuel (left - m.cost id) (m.step id (m.chance id))
    else m

/-- Gives a task its turn, after which it is behind the others. -/
def giveTurn (m : Machine) (id : TaskId) : Machine :=
  (m.carryOn id m.stepsAtOnce turnLength).sendBack id

/-- Lets ready tasks have their turns, at most so many; the tasks that rest are ready as well, and have
theirs when no other is. -/
def takeTurns : Nat → List TaskId → Machine → Machine
  | 0, _, m => m
  | fuel + 1, resting, m =>
    match m.nextReady? resting with
    | some id =>
      let m := m.giveTurn id
      takeTurns fuel (if m.isReady id then resting ++ [id] else resting) m
    | none => if resting.isEmpty then m else takeTurns fuel [] m

/-- Lets ready tasks have their turns until no task is ready. -/
def quiesce (m : Machine) : Machine := takeTurns m.stepsAtOnce [] m

/-- When the next timer behind the present is due. -/
def nextDue? (m : Machine) : Option Nat :=
  (m.tasks.filterMap fun t => t.2.timer?.bind fun timer =>
    if m.now < timer.due then some timer.due else none).min?

/-- Carries on some calls, one after another, and then whatever is ready. -/
def quiesceAfter (m : Machine) (numbers : List Nat) : Machine :=
  (numbers.foldl (fun m n => m.giveTurn (.call n)) m).quiesce

/-- Lets time pass from timer to timer, at most so many and not beyond some moment, while something
is the case; some calls are carried on first. -/
def passWhile (numbers : List Nat) (goesOn : Machine → Bool) (limit : Nat) : Nat → Machine → Machine
  | 0, m => m.quiesceAfter numbers
  | fuel + 1, m =>
    let m := m.quiesceAfter numbers
    if goesOn m then
      match m.nextDue? with
      | some due =>
        if due ≤ limit then passWhile numbers goesOn limit fuel (m.setTime due) else m
      | none => m
    else m

/-- Lets time pass until some calls are done, but not beyond some moment. Each timer on the way
takes at least a millisecond. -/
def awaitCalls (m : Machine) (numbers : List Nat) (limit : Nat) : Machine :=
  passWhile numbers (fun m => !numbers.all m.isFinished) limit (limit - m.now) m

/-- Lets some milliseconds pass, as far as a wait can last; everything that is due at their end or
before happens. -/
def advance (m : Machine) (milliseconds : Nat) : Machine :=
  let limit := (Timer.after m.now milliseconds).due
  ((passWhile [] (fun _ => true) limit (limit - m.now) m).setTime limit).quiesce

/-- When the last timer is due, if one is still to come. -/
def lastDue (m : Machine) : Nat :=
  (m.tasks.filterMap fun t => t.2.timer?).foldl (fun t timer => max t timer.due) m.now

/-- Makes calls and waits until all of them are done: the machine then, and the calls' tasks. -/
def performAll (m : Machine) (cs : List Call) : Machine × List Task :=
  let numbers := (List.range cs.length).map (m.calls + ·)
  let m := cs.foldl call m
  let patience := cs.foldr (fun c rest => c.patience m.backend.geocoders + rest) 0
  let m := m.awaitCalls numbers (m.lastDue + patience)
  (m, numbers.filterMap m.callTask?)

/-- Makes a call and waits until it is done: the machine then, and the call's task. -/
def perform (m : Machine) (c : Call) : Machine × Option Task :=
  let (m, done) := m.performAll [c]
  (m, done.head?)

end Machine

end Matchday

import Matchday.Proofs.Settlement.Closed

/-!
Clocks that move only when they have to. On such a clock no time passes while a settlement, or a task that
waits for the end of the settling, can go on, and none beyond the end of a settlement's delay. The last
deadline of the settlements under way then stays where it is until they all have ended, and this is the
time at which who waits for them returns (`Machine.returns_run`).
-/

namespace Matchday
set_option autoImplicit false

/-- The time up to which a settlement waits; anything else, and a settlement that has left its delay, waits
no longer. -/
def Task.deadline (b : Backend) : Task → Nat
  | settlement _ .starting => (Timer.after b.now b.schedule.delay).due
  | settlement _ (.waiting timer) => timer.due
  | _ => b.now

/-- Whether no time is to pass while a task can go on. -/
def Task.isUrgent : Task → Bool
  | settlement _ _ => true
  | t => t.isShuttingDown

namespace Machine

/-- Whether time may pass: nothing urgent can go on, and no settlement's wait is over before. -/
def allows (m : Machine) : Action → Bool
  | .wait milliseconds => m.tasks.all fun e => !e.2.isUrgent || !m.canStep e.2 &&
      e.2.timer?.all fun timer => m.now + milliseconds ≤ timer.due
  | _ => true

/-- Whether time passes by a run only when it may. -/
def isPunctual (m : Machine) : List Action → Bool
  | [] => true
  | a :: rest => m.allows a && (m.act a).isPunctual rest

/-- Whether a task has returned. -/
def isDone (id : TaskId) (m : Machine) : Bool := (m.task? id).any Task.isFinished

/-- The time at which a task returns. -/
def returns (id : TaskId) (m : Machine) (a : Action) : List Nat :=
  if m.isDone id = false ∧ (m.act a).isDone id = true then [m.now] else []

variable {m : Machine} {id : TaskId}

theorem isDone_iff (named : m.Named) :
    m.isDone id = true ↔ ∃ t, (id, t) ∈ m.tasks ∧ t.isFinished = true := by
  rw [isDone, Option.any_eq_true]
  refine exists_congr fun t => and_congr_left' ?_
  exact ⟨mem_of_task?, task?_of_mem named.nodup⟩

end Machine

theorem Task.deadline_congr {b b' : Backend} (now : b'.now = b.now)
    (delay : b'.schedule.delay = b.schedule.delay) (t : Task) : t.deadline b' = t.deadline b := by
  cases t with
  | settlement payment stage =>
    cases stage with
    | starting =>
      show (Timer.after b'.now b'.schedule.delay).due = _
      rw [now, delay]
      rfl
    | waiting timer => rfl
    | _ => exact now
  | _ => exact now

namespace Machine

variable {m : Machine} {id : TaskId}

theorem delay_act (named : m.Named) (a : Action) :
    (m.act a).backend.schedule.delay = m.backend.schedule.delay := by
  obtain ⟨id, goOn, t, rfl, -, -, heq⟩ | calm := act_cases named a
  · rw [heq, carried_backend]
    exact (t.step_schedules m.backend goOn).delay_eq
  · exact calm.delay_eq

theorem of_allows_wait {milliseconds : Nat} (allowed : m.allows (.wait milliseconds) = true)
    {t : Task} (mem : (id, t) ∈ m.tasks) (urgent : t.isUrgent = true) :
    m.canStep t = false ∧ ∀ timer, t.timer? = some timer → m.now + milliseconds ≤ timer.due := by
  have hall := List.all_eq_true.1 allowed (id, t) mem
  simp only [urgent, Bool.not_true, Bool.false_or, Bool.and_eq_true, Bool.not_eq_true'] at hall
  refine ⟨hall.1, fun timer htimer => ?_⟩
  have hdue := hall.2
  rw [htimer] at hdue
  exact of_decide_eq_true hdue

/-- A settlement under way that cannot go on waits for the end of its delay. -/
theorem exists_timer_of_canStep {payment : PaymentId} {stage : Settlement}
    (stuck : m.canStep (.settlement payment stage) = false) (running : stage.result? = none) :
    ∃ timer, stage = .waiting timer ∧ m.backend.schedule.isAbandoned = false ∧
      m.now < timer.due := by
  cases stage with
  | waiting timer =>
    refine ⟨timer, rfl, ?_⟩
    simpa [canStep, Task.isReady, Task.isFinished, Settlement.result?, Task.isInterrupted, Task.timer?,
      Settlement.timer?, Task.awaitsSettlements, Timer.isDue, Task.awaitedCrew, allEnded, now] using stuck
  | finished outcome => cases running
  | _ => cases stuck

/-- A task that waits for the end of the settling goes on when no settlement is under way. -/
theorem canStep_of_rests {t : Task} (shutting : t.isShuttingDown = true)
    (rests : m.backend.schedule.inFlight = 0) : m.canStep t = true := by
  unfold Task.isShuttingDown at shutting
  split at shutting
  · simp [canStep, Task.isReady, Task.isFinished, Task.isInterrupted, Task.timer?, rests,
      Task.awaitedCrew, allEnded]
  · simp [canStep, Task.isReady, Task.isFinished, Task.isInterrupted, Task.timer?, rests,
      Task.awaitedCrew, allEnded]
  · simp [canStep, Task.isReady, Task.isFinished, Task.isInterrupted, Task.timer?, rests,
      Task.awaitedCrew, allEnded]
  · cases shutting

end Machine

end Matchday

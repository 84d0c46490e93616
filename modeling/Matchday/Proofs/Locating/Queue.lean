import Matchday.Proofs.Concurrent.Footprint
import Mathlib.Data.List.Nodup

/-!
What a step does to the queue of lookups, together with the lookup task that the stepping task
holds. A pass holds the task that it has taken out until it puts it back or untracks its event; no
other task holds one. So every step leaves the queue alone or is one of its four operations
(`Task.step_queue`), and each of them keeps the queue and the held task in balance with the tracked
events (`LookupQueue.Moves.balance`).
-/

namespace Matchday
set_option autoImplicit false

/-- The lookup task that a pass has taken out of the queue and not yet dealt with. -/
def Pass.held? : Pass → Option LookupTask
  | resolving task _ | writing task _ | untracking task _ | requeueing task => some task
  | starting | finished _ => none

/-- The pass that a task goes through: a call's own, or a worker's present round. -/
def Task.pass? : Task → Option Pass
  | pass stage => some stage
  | worker ⟨_, _, _, .busy _ (.pass stage), _⟩ => some stage
  | _ => none

/-- The lookup task that a task holds. -/
def Task.held? (t : Task) : Option LookupTask := t.pass?.bind Pass.held?

@[simp] theorem Task.held?_cancel (t : Task) : t.cancel.held? = t.held? := by
  cases t with
  | worker w =>
    obtain ⟨kind, period, isCancelled, stage, task⟩ := w
    cases stage with
    | busy next round => cases round <;> rfl
    | starting | waiting timer | ended ending => rfl
  | _ => rfl

theorem Task.held?_task (c : Call) (now : Nat) : (c.task now).held? = none := by
  cases c <;> rfl

namespace LookupQueue

/-- What a step does to a queue and to the task that is held: nothing, or one operation. -/
inductive Moves : LookupQueue → Option LookupTask → LookupQueue → Option LookupTask → Prop where
  | none (q : LookupQueue) (held : Option LookupTask) : Moves q held q held
  | queued (q : LookupQueue) (event : EventId) (address : String)
      (new : q.isTracked event = false) : Moves q .none (q.enqueue event address) .none
  | taken {q q' : LookupQueue} {task : LookupTask} (h : q.pop? = some (task, q')) :
      Moves q .none q' (some task)
  | requeued (q : LookupQueue) (task : LookupTask) : Moves q (some task) (q.requeue task) .none
  | untracked (q : LookupQueue) (task : LookupTask) :
      Moves q (some task) (q.untrack task.event) .none

theorem mark_moves (q : LookupQueue) (event : EventId) (address : String)
    (recheckAfter now : Instant) :
    q.Moves .none (q.mark event address recheckAfter now).2 .none := by
  by_cases h : q.accepts event recheckAfter now = true
  · have hnew : q.isTracked event = false := by
      simp only [accepts, Bool.and_eq_true, Bool.not_eq_true'] at h
      exact h.2
    rw [mark, if_pos h]
    exact .queued q event address hnew
  · rw [mark, if_neg h]
    exact .none q _

theorem observe_moves (q : LookupQueue) (l : EventLocation) (now : Instant) :
    q.Moves .none (q.observe l now).2 .none := by
  rw [observe]
  split
  · exact q.mark_moves l.id l.address l.recheckAfter now
  · exact .none q _

/-- How many of the tasks that wait are an event's. -/
def waiting (q : LookupQueue) (event : EventId) : Nat := (q.pending.map (·.event)).count event

/-- How many held tasks are an event's: one or none. -/
def share (event : EventId) (held : Option LookupTask) : Nat :=
  (held.toList.map (·.event)).count event

theorem isTracked_iff {q : LookupQueue} {event : EventId} :
    q.isTracked event = true ↔ event ∈ q.tracked :=
  List.contains_iff_mem

/-- Each operation moves an event's task between the queue and the hand, or brings the event's task
and its tracking into being together, or ends both together. -/
theorem Moves.balance {q q' : LookupQueue} {held held' : Option LookupTask}
    (h : q.Moves held q' held') (distinct : q.tracked.Nodup)
    (tracked : ∀ task ∈ held, task.event ∈ q.tracked) :
    q'.tracked.Nodup ∧ ∀ event,
      q'.waiting event + share event held' + q.tracked.count event =
        q.waiting event + share event held + q'.tracked.count event := by
  cases h with
  | none => exact ⟨distinct, fun event => rfl⟩
  | queued event address new =>
    have hnew : event ∉ q.tracked := by
      intro hmem
      rw [isTracked_iff.2 hmem] at new
      exact absurd new (by decide)
    refine ⟨?_, fun e => ?_⟩
    · rw [enqueue, List.nodup_append]
      refine ⟨distinct, List.nodup_singleton _, ?_⟩
      intro other hother e he heq
      rw [List.mem_singleton.1 he] at heq
      exact hnew (heq ▸ hother)
    · simp only [waiting, enqueue, List.map_append, List.count_append, List.map_cons, List.map_nil]
      omega
  | @taken q' task h =>
    unfold pop? at h
    split at h
    · exact absurd h (by simp)
    · rename_i first rest hpending
      injection h with h
      injection h with hfirst hrest
      rw [← hfirst, ← hrest]
      refine ⟨distinct, fun e => ?_⟩
      simp only [waiting, share, hpending, Option.toList, List.map_cons, List.map_nil,
        List.count_cons, List.count_nil]
      omega
  | requeued task =>
    refine ⟨distinct, fun e => ?_⟩
    simp only [waiting, share, requeue, LookupTask.failed, Option.toList, List.map_append,
      List.map_cons, List.map_nil, List.count_append, List.count_nil]
    omega
  | untracked task =>
    have hmem : task.event ∈ q.tracked := tracked task rfl
    refine ⟨distinct.erase _, fun e => ?_⟩
    simp only [waiting, share, untrack, Option.toList, List.map_cons, List.map_nil,
      List.count_nil, List.count_cons, List.count_erase]
    have hpos : 0 < q.tracked.count task.event := List.count_pos_iff.2 hmem
    by_cases he : task.event = e
    · rw [← he, if_pos (beq_self_eq_true task.event)]
      omega
    · rw [if_neg (by simpa using he)]
      omega

end LookupQueue

/-! ## The steps of tasks -/

theorem Sweep.step_queue (b : Backend) (s : Sweep) :
    b.queue.Moves none (s.step b).2.queue none := by
  cases s with
  | starting =>
    rw [Sweep.step]
    split
    all_goals
      rename_i h
      have hqueue : b.loadMissing.2.queue = b.queue := rfl
      rw [h] at hqueue
      rw [← hqueue]
      exact .none _ _
  | observing missing queued =>
    cases missing with
    | nil => exact .none _ _
    | cons l rest => exact b.queue.observe_moves l b.calendar
  | finished result => exact .none _ _

theorem Reading.step_queue (b : Backend) (event : EventId) (s : Reading) :
    b.queue.Moves none (s.step b event).2.queue none := by
  cases s with
  | starting => exact .none _ _
  | observing answer =>
    rcases answer with e | l
    · exact .none _ _
    · cases l with
      | none => exact .none _ _
      | some l => exact b.queue.observe_moves l b.calendar
  | finished answer => exact .none _ _

theorem Pass.step_queue (b : Backend) (p : Pass) :
    b.queue.Moves p.held? (p.step b).2.queue (p.step b).1.held? := by
  cases p with
  | starting =>
    rw [Pass.step, Backend.takeTask?]
    cases h : b.queue.pop? with
    | none => exact .none _ _
    | some r => exact .taken h
  | resolving task lookup =>
    cases lookup with
    | finished result => cases result <;> exact .none _ _
    | starting | primaryAsked answer timer | secondaryAsked e answer timer => exact .none _ _
  | writing task c =>
    obtain ⟨log, h⟩ := b.writePoint_footprint task c
    rw [Pass.step]
    split
    all_goals
      rename_i heq
      rw [heq] at h
      rw [h]
      exact .none _ _
  | untracking task c => exact .untracked _ _
  | requeueing task => exact .requeued _ _
  | finished outcome => exact .none _ _

theorem Worker.step_queue (b : Backend) (goOn : Bool) (w : Worker) :
    b.queue.Moves (Task.worker w).held? (w.step b goOn).2.queue
      (Task.worker (w.step b goOn).1).held? := by
  obtain ⟨kind, period, isCancelled, stage, task⟩ := w
  cases stage with
  | starting =>
    simp only [Worker.step, Worker.start]
    split <;> exact .none _ _
  | waiting timer =>
    simp only [Worker.step]
    split
    · exact .none _ _
    · cases kind <;> exact .none _ _
  | busy next round =>
    cases round with
    | sweep s =>
      simp only [Worker.step]
      split
      · exact .none _ _
      · exact s.step_queue b
    | pass p =>
      by_cases hfin : (Round.pass p).isFinished = true
      · have hheld : (Task.worker ⟨kind, period, isCancelled, .busy next (.pass p), task⟩).held? =
            none := by
          cases p <;> first | rfl | exact absurd hfin (by simp [Round.isFinished, Pass.result?])
        simp only [Worker.step, hfin, if_true]
        rw [hheld]
        exact .none _ _
      · simp only [Worker.step, hfin, Bool.false_eq_true, if_false]
        exact p.step_queue b
  | ended ending => exact .none _ _

theorem Task.step_queue (b : Backend) (goOn : Bool) (t : Task) :
    b.queue.Moves t.held? (t.step b goOn).2.1.queue (t.step b goOn).1.held? := by
  have unmoved : ∀ {q : LookupQueue}, q = b.queue → b.queue.Moves none q none := by
    intro q h
    rw [h]
    exact .none _ _
  cases t with
  | mark event address recheckAfter answer =>
    cases answer with
    | none => exact b.queue.mark_moves event address recheckAfter b.calendar
    | some answer => exact .none _ _
  | observe location answer =>
    cases answer with
    | none => exact b.queue.observe_moves location b.calendar
    | some answer => exact .none _ _
  | sweep stage => exact stage.step_queue b
  | reading event stage => exact stage.step_queue b event
  | pass stage => exact stage.step_queue b
  | lookup address caller stage => exact .none _ _
  | subscription wish lag stage =>
    obtain ⟨events, log, h⟩ := stage.step_footprint b wish lag
    exact unmoved (by simp only [Task.step, h])
  | query payment answer => cases answer <;> exact .none _ _
  | status payment stage =>
    obtain ⟨payments, schedule, log, h⟩ := stage.step_footprint b payment
    exact unmoved (by simp only [Task.step, h])
  | settlement payment stage =>
    obtain ⟨events, payments, schedule, log, h⟩ := stage.step_footprint b payment goOn
    exact unmoved (by simp only [Task.step, h])
  | worker w => exact w.step_queue b goOn
  | shutdown mode stage =>
    obtain ⟨schedule, log, h⟩ := stage.step_footprint b mode
    exact unmoved (by simp only [Task.step, h])
  | closing crew mode stage => exact .none _ _

end Matchday

import Matchday.Proofs.Locating.Queue
import Matchday.Proofs.Store.Events

/-!
What a step does to the points of events. Sweeps and readings look at locations that they loaded
before; a look that the queue accepts is what makes an event tracked. A pass first writes the point
of its event and untracks the event in a later step. In between the event is leaving: its point is
stored and it is tracked still. Every step does at most one of these three things
(`Task.step_locates`).
-/

namespace Matchday
set_option autoImplicit false

/-! ## Looks -/

/-- The location that the next step of a sweep looks at. -/
def Sweep.look? : Sweep → Option EventLocation
  | observing (l :: _) _ => some l
  | observing [] _ | starting | finished _ => none

/-- The location that the next step of a reading looks at. -/
def Reading.look? : Reading → Option EventLocation
  | observing (.ok (some l)) => some l
  | observing (.ok none) | observing (.error _) | starting | finished _ => none

/-- The location that a task's next step looks at, which the task loaded in an earlier one. -/
def Task.look? : Task → Option EventLocation
  | sweep stage => stage.look?
  | reading _ stage => stage.look?
  | worker ⟨_, _, _, .busy _ (.sweep stage), _⟩ => stage.look?
  | _ => none

/-- A look that the queue accepts: the location's event begins to be tracked. -/
def Backend.queues? (b : Backend) (look : Option EventLocation) : Option EventLocation :=
  look.filter fun l => (b.queue.observe l b.calendar).1

/-- Whether a task queues an event for a caller who brings the location along. -/
def Task.isMarking : Task → Bool
  | mark _ _ _ _ | observe _ _ => true
  | _ => false

/-- The event whose point a pass has written and which it has not untracked yet. -/
def Pass.leaving? : Pass → Option EventId
  | untracking task _ => some task.event
  | _ => none

/-- The event that leaves the queue by a task. -/
def Task.leaving? (t : Task) : Option EventId := t.pass?.bind Pass.leaving?

@[simp] theorem Task.leaving?_cancel (t : Task) : t.cancel.leaving? = t.leaving? := by
  cases t with
  | worker w =>
    obtain ⟨kind, period, isCancelled, stage, task⟩ := w
    cases stage with
    | busy next round => cases round <;> rfl
    | starting | waiting timer | ended ending => rfl
  | _ => rfl

theorem Task.leaving?_task (c : Call) (now : Nat) : (c.task now).leaving? = none := by
  cases c <;> rfl

@[simp] theorem Task.isMarking_cancel (t : Task) : t.cancel.isMarking = t.isMarking := by
  cases t <;> rfl

@[simp] theorem Task.isMarking_step (b : Backend) (goOn : Bool) (t : Task) :
    (t.step b goOn).1.isMarking = t.isMarking := by
  cases t with
  | mark event address recheckAfter answer => cases answer <;> rfl
  | observe location answer => cases answer <;> rfl
  | query payment answer => cases answer <;> rfl
  | _ => rfl

/-! ## Steps -/

/-- What a step does to the points of events, if before it the task looks at a location or none,
holds a lookup task or none, and an event leaves by it or none. -/
inductive Locates (b b' : Backend) (look : Option EventLocation) (held : Option LookupTask)
    (leaving leaving' : Option EventId) : Prop where
  | rested (looked : b.queues? look = none) (tracked : b'.queue.tracked = b.queue.tracked)
      (store : b.events.SamePoints b'.events) (left : leaving' = leaving)
  | looked (l : EventLocation) (looked : b.queues? look = some l)
      (new : l.id ∉ b.queue.tracked) (tracked : b'.queue.tracked = b.queue.tracked ++ [l.id])
      (store : b.events.SamePoints b'.events) (left : leaving' = leaving)
  | placed (task : LookupTask) (c : Coordinates) (looked : b.queues? look = none)
      (tracked : b'.queue.tracked = b.queue.tracked) (holds : held = some task)
      (stored : (b.events.get? task.event).isSome = true)
      (needs : b'.events.needs =
        b.events.needs.map fun n => if n.1 = task.event then (task.event, false) else n)
      (writes : b'.events.writes = b.events.writes ++ [(task.event, c)])
      (stays : leaving = none) (left : leaving' = some task.event)
  | untracked (task : LookupTask) (looked : b.queues? look = none)
      (tracked : b'.queue.tracked = b.queue.tracked.erase task.event) (holds : held = some task)
      (store : b.events.SamePoints b'.events)
      (leaves : leaving = some task.event) (left : leaving' = none)

section Steps
variable {b b' : Backend} {held : Option LookupTask}

theorem EventStore.SamePoints.refl (s : EventStore) : s.SamePoints s := ⟨rfl, rfl⟩

/-- A step that does nothing to points and the queue, of a task that looks at nothing. -/
theorem Locates.rest (tracked : b'.queue.tracked = b.queue.tracked)
    (store : b.events.SamePoints b'.events) : Locates b b' none held none none :=
  .rested rfl tracked store rfl

/-- Looking at a location queues its event or does nothing. -/
theorem Backend.observe_locates (b : Backend) (l : EventLocation) :
    Locates b (b.observe l).2 (some l) held none none := by
  by_cases h : (b.queue.observe l b.calendar).1 = true
  · have hlook : b.queues? (some l) = some l := by simp [queues?, Option.filter, h]
    have heq : (b.queue.observe l b.calendar).2.tracked = b.queue.tracked ++ [l.id] ∧
        b.queue.isTracked l.id = false := by
      simp only [LookupQueue.observe, LookupQueue.mark] at h ⊢
      split at h
      · split at h
        · rename_i hneeds haccepts
          simp only [LookupQueue.accepts, Bool.and_eq_true, Bool.not_eq_true'] at haccepts
          simp only [hneeds, if_true]
          exact ⟨by simp [LookupQueue.accepts, haccepts, LookupQueue.enqueue], haccepts.2⟩
        · exact absurd h Bool.false_ne_true
      · exact absurd h Bool.false_ne_true
    refine .looked l hlook ?_ heq.1 (.refl _) rfl
    intro hmem
    rw [LookupQueue.isTracked_iff.2 hmem] at heq
    exact absurd heq.2 (by decide)
  · have hlook : b.queues? (some l) = none := by simp [queues?, Option.filter, h]
    have heq : (b.queue.observe l b.calendar).2 = b.queue := by
      simp only [LookupQueue.observe, LookupQueue.mark] at h ⊢
      split at h
      · split at h
        · exact absurd rfl h
        · rename_i hneeds haccepts
          simp only [hneeds, if_true, haccepts, Bool.false_eq_true, if_false]
      · rename_i hneeds
        simp only [hneeds, Bool.false_eq_true, if_false]
    exact .rested hlook (congrArg LookupQueue.tracked heq) (.refl _) rfl

theorem Sweep.step_locates (b : Backend) (s : Sweep) :
    Locates b (s.step b).2 s.look? held none none := by
  cases s with
  | starting =>
    obtain ⟨faults, hfaults⟩ := b.events.findMissing_footprint b.calendar
    have hload : b.loadMissing.2 = { b with events := { b.events with faults } } := by
      rw [← hfaults]
      rfl
    rw [Sweep.step]
    split
    all_goals
      rename_i h
      rw [h] at hload
      rw [hload]
      exact .rest rfl ⟨rfl, rfl⟩
  | observing missing queued =>
    cases missing with
    | nil => exact .rest rfl (.refl _)
    | cons l rest => exact b.observe_locates l
  | finished result => exact .rest rfl (.refl _)

theorem Reading.step_locates (b : Backend) (event : EventId) (s : Reading) :
    Locates b (s.step b event).2 s.look? held none none := by
  cases s with
  | starting =>
    obtain ⟨faults, hfaults⟩ := b.events.findLocation_footprint event
    refine .rest rfl ?_
    show b.events.SamePoints (b.events.findLocation event).2
    rw [hfaults]
    exact ⟨rfl, rfl⟩
  | observing answer =>
    rcases answer with e | l
    · exact .rest rfl (.refl _)
    · cases l with
      | none => exact .rest rfl (.refl _)
      | some l => exact b.observe_locates l
  | finished answer => exact .rest rfl (.refl _)

theorem LookupQueue.pop?_tracked {q q' : LookupQueue} {task : LookupTask}
    (h : q.pop? = some (task, q')) : q'.tracked = q.tracked := by
  unfold pop? at h
  split at h
  · exact absurd h (by simp)
  · injection h with h
    injection h with _ hrest
    rw [← hrest]

theorem Backend.writeBack_points (b : Backend) (w : Wish) (attempt : Nat)
    (loaded : LoadedMembership) :
    b.events.SamePoints (b.writeBack w attempt loaded).2.events := by
  unfold Backend.writeBack
  split
  · exact .refl _
  · rename_i m _
    have hsame := b.events.samePoints_persistMembership m
    split
    all_goals
      rename_i h
      rw [h] at hsame
      exact hsame

theorem Subscription.step_points (b : Backend) (w : Wish) (lag : Nat) (s : Subscription) :
    b.events.SamePoints (s.step b w lag).2.events := by
  cases s with
  | waiting timer => exact .refl _
  | loading attempt =>
    obtain ⟨faults, h⟩ := b.events.loadMembership_footprint w.event
    show b.events.SamePoints (b.events.loadMembership w.event).2
    rw [h]
    exact ⟨rfl, rfl⟩
  | loaded attempt answer timer =>
    have hsame := b.writeBack_points w attempt answer
    rw [Subscription.step]
    split
    · rename_i heq
      rw [heq] at hsame
      exact hsame
    · rename_i heq
      rw [heq] at hsame
      split <;> exact hsame
  | finished result => exact .refl _

theorem Settlement.step_points (b : Backend) (payment : PaymentId) (goOn : Bool)
    (s : Settlement) : b.events.SamePoints (s.step b payment goOn).2.events := by
  cases s with
  | recording p =>
    have hsame := EventStore.samePoints_addPaid (s := b.events) p.event p.member
    simp only [Settlement.step, Settlement.recordPaid]
    split
    all_goals
      rename_i h
      rw [h] at hsame
      exact hsame
  | starting | finished outcome => exact .refl _
  | waiting timer =>
    simp only [Settlement.step]
    split <;> exact .refl _
  | marking =>
    simp only [Settlement.step, Settlement.mark]
    split <;> exact .refl _
  | reloading =>
    simp only [Settlement.step, Settlement.reload]
    split <;> exact .refl _

theorem Pass.step_locates (b : Backend) (p : Pass) :
    Locates b (p.step b).2 none p.held? p.leaving? (p.step b).1.leaving? := by
  cases p with
  | starting =>
    rw [Pass.step, Backend.takeTask?]
    cases h : b.queue.pop? with
    | none => exact .rest rfl (.refl _)
    | some r => exact .rest (LookupQueue.pop?_tracked h) (.refl _)
  | resolving task lookup =>
    cases lookup with
    | finished result => cases result <;> exact .rest rfl (.refl _)
    | starting | primaryAsked answer timer | secondaryAsked e answer timer =>
      exact .rest rfl (.refl _)
  | writing task c =>
    obtain ⟨e, faults, hset⟩ | ⟨hstored, hset⟩ := b.events.setCoordinates_cases task.event c
    · simp only [Pass.step, Backend.writePoint, hset]
      exact .rest rfl ⟨rfl, rfl⟩
    · simp only [Pass.step, Backend.writePoint, hset]
      exact .placed task c rfl rfl rfl hstored (EventStore.needs_place task.event c) rfl rfl rfl
  | untracking task c => exact .untracked task rfl rfl rfl (.refl _) rfl rfl
  | requeueing task => exact .rest rfl (.refl _)
  | finished outcome => exact .rest rfl (.refl _)

theorem Worker.step_locates (b : Backend) (goOn : Bool) (w : Worker) :
    Locates b (w.step b goOn).2 (Task.worker w).look? (Task.worker w).held?
      (Task.worker w).leaving? (Task.worker (w.step b goOn).1).leaving? := by
  obtain ⟨kind, period, isCancelled, stage, task⟩ := w
  cases stage with
  | starting =>
    simp only [Worker.step, Worker.start]
    split <;> exact .rest rfl (.refl _)
  | waiting timer =>
    simp only [Worker.step]
    split
    · exact .rest rfl (.refl _)
    · cases kind <;> exact .rest rfl (.refl _)
  | busy next round =>
    cases round with
    | sweep s =>
      cases s with
      | finished result => exact .rest rfl (.refl _)
      | starting => exact Sweep.starting.step_locates b
      | observing missing queued => exact (Sweep.observing missing queued).step_locates b
    | pass p =>
      cases p with
      | finished outcome => exact .rest rfl (.refl _)
      | starting => exact Pass.starting.step_locates b
      | resolving task lookup => exact (Pass.resolving task lookup).step_locates b
      | writing task c => exact (Pass.writing task c).step_locates b
      | untracking task c => exact (Pass.untracking task c).step_locates b
      | requeueing task => exact (Pass.requeueing task).step_locates b
  | ended ending => exact .rest rfl (.refl _)

end Steps

/-- Every step of a task that does not bring its own location along looks, writes a point, untracks,
or leaves points and tracked events alone. -/
theorem Task.step_locates (b : Backend) (goOn : Bool) {t : Task} (h : t.isMarking = false) :
    Locates b (t.step b goOn).2.1 t.look? t.held? t.leaving? (t.step b goOn).1.leaving? := by
  cases t with
  | mark event address recheckAfter answer => exact absurd h (by simp [isMarking])
  | observe location answer => exact absurd h (by simp [isMarking])
  | sweep stage => exact stage.step_locates b
  | reading event stage => exact stage.step_locates b event
  | pass stage => exact stage.step_locates b
  | lookup address caller stage => exact .rest rfl (.refl _)
  | subscription wish lag stage =>
    refine .rest ?_ (stage.step_points b wish lag)
    obtain ⟨events, log, h⟩ := stage.step_footprint b wish lag
    simp only [Task.step, h]
  | query payment answer => cases answer <;> exact .rest rfl (.refl _)
  | status payment stage =>
    obtain ⟨payments, schedule, log, h⟩ := stage.step_footprint b payment
    refine .rest ?_ ?_
    · simp only [Task.step, h]
    · simp only [Task.step, h]
      exact .refl _
  | settlement payment stage =>
    refine .rest ?_ (stage.step_points b payment goOn)
    obtain ⟨events, payments, schedule, log, h⟩ := stage.step_footprint b payment goOn
    simp only [Task.step, h]
  | worker w => exact w.step_locates b goOn
  | shutdown mode stage =>
    obtain ⟨schedule, log, h⟩ := stage.step_footprint b mode
    refine .rest ?_ ?_
    · simp only [Task.step, h]
    · simp only [Task.step, h]
      exact .refl _
  | closing crew mode stage => exact .rest rfl (.refl _)

end Matchday

import Matchday.Proofs.Concurrent.History
import Matchday.Proofs.Locating.Queue

/-!
Tracked events. An event is tracked exactly while one lookup task of its is under way: waiting in
the queue, or held by a pass that has not ended. This is so at every moment of every run, whichever
way sweeps, readings, marks and any number of passes take turns, and whatever the geocoders and the
store answer.

The invariant is a balance for each event (`Machine.Tracking`): the tasks that wait and those that
are held are together as many as the event's entries among the tracked events, of which there is one
at most.

Main statement: `Machine.tracked_run`.
-/

namespace Matchday
set_option autoImplicit false

/-- Whether a task is in a pass that has not ended. -/
def Task.isPassing (t : Task) : Bool := t.pass?.any fun stage => stage.result?.isNone

theorem Task.held?_of_not_passing {t : Task} (h : t.isPassing = false) : t.held? = none := by
  rw [isPassing] at h
  rw [held?]
  cases hp : t.pass? with
  | none => rfl
  | some stage =>
    rw [hp] at h
    cases stage with
    | starting | finished outcome => rfl
    | _ => exact absurd h (by simp [Pass.result?])

theorem Task.not_passing_of_isFinished {t : Task} (h : t.isFinished = true) :
    t.isPassing = false := by
  cases t with
  | pass stage =>
    cases stage with
    | finished outcome => rfl
    | _ => exact absurd h (by simp [isFinished, Pass.result?])
  | worker w =>
    obtain ⟨kind, period, isCancelled, stage, task⟩ := w
    cases stage with
    | ended ending => rfl
    | _ => exact absurd h (by simp [isFinished, Worker.ending?])
  | _ => rfl

namespace Machine

open LookupQueue

variable {m : Machine}

/-- The lookup tasks that passes hold. -/
def held (m : Machine) : List LookupTask := m.tasks.filterMap fun e => e.2.held?

/-- Tracked events are distinct, and each has one task, waiting or held; others have none. -/
structure Tracking (m : Machine) : Prop where
  distinct : m.backend.queue.tracked.Nodup
  balance : ∀ event,
    m.backend.queue.waiting event + (m.tally fun t => share event t.held?) =
      m.backend.queue.tracked.count event

theorem tracking_create (b : Backend) (h : b.queue = .empty) : (create b).Tracking where
  distinct := by
    show b.queue.tracked.Nodup
    rw [h]
    exact List.nodup_nil
  balance := by
    intro event
    show b.queue.waiting event + 0 = b.queue.tracked.count event
    rw [h]
    rfl

theorem Tracking.exchange {m' : Machine} (h : m.Tracking) (queue : m'.backend.queue = m.backend.queue)
    (tally : ∀ event, (m'.tally fun t => share event t.held?) =
      m.tally fun t => share event t.held?) : m'.Tracking where
  distinct := by rw [queue]; exact h.distinct
  balance := by
    intro event
    rw [queue, tally event]
    exact h.balance event

/-- The event of a held task is tracked. -/
theorem Tracking.mem_of_held (h : m.Tracking) {id : TaskId} {t : Task} (ht : (id, t) ∈ m.tasks)
    {task : LookupTask} (hheld : t.held? = some task) :
    task.event ∈ m.backend.queue.tracked := by
  have hshare : share task.event t.held? = 1 := by
    rw [hheld]
    simp [share]
  have hle := le_tally (f := fun t => share task.event t.held?) ht
  have hbalance := h.balance task.event
  refine List.count_pos_iff.1 ?_
  omega

theorem Tracking.carried (h : m.Tracking) (named : m.Named) {id : TaskId} {goOn : Bool} {t : Task}
    (ready : m.ready? id = some t) : (m.carried id goOn t).Tracking := by
  have htask := task?_of_ready? ready
  have hmoves := t.step_queue m.backend goOn
  obtain ⟨hdistinct, hbalance⟩ := hmoves.balance h.distinct fun task hheld =>
    h.mem_of_held (mem_of_task? htask) hheld
  refine ⟨by rw [carried_backend]; exact hdistinct, fun event => ?_⟩
  have htally := tally_carried (f := fun t => share event t.held?) goOn named.nodup htask
    fun _ => rfl
  have hbefore := h.balance event
  have hstep := hbalance event
  rw [carried_backend]
  omega

theorem Tracking.act (h : m.Tracking) (named : m.Named) (a : Action) : (m.act a).Tracking := by
  obtain ⟨id, goOn, t, -, hready, -, heq⟩ | calm := act_cases named a
  · rw [heq]
    exact h.carried named hready
  · refine h.exchange calm.queue fun event => ?_
    exact calm.tally _ (fun t => by rw [Task.held?_cancel]) (fun _ _ _ => rfl)
      fun c now => by rw [Task.held?_task]; rfl

theorem tracking_run (b : Backend) (h : b.queue = .empty) (actions : List Action) :
    ((create b).run actions).Tracking := by
  have both : ((create b).run actions).Named ∧ ((create b).run actions).Tracking :=
    run_invariant (I := fun m => m.Named ∧ m.Tracking)
      (fun _ a h => ⟨h.1.act a, h.2.act h.1 a⟩) ⟨named_create b, tracking_create b h⟩ actions
  exact both.2

/-! ## What the balance says -/

theorem count_held (m : Machine) (event : EventId) :
    (m.held.map (·.event)).count event = m.tally fun t => share event t.held? := by
  simp only [held, tally]
  induction m.tasks with
  | nil => rfl
  | cons e rest ih =>
    rw [List.map_cons, List.sum_cons, ← ih]
    cases h : e.2.held? with
    | none => simp [share, h]
    | some task =>
      simp only [List.filterMap_cons, h, share, Option.toList, List.map_cons, List.map_nil,
        List.count_cons, List.count_nil]
      omega

theorem Tracking.count (h : m.Tracking) (event : EventId) :
    ((m.backend.queue.pending ++ m.held).map (·.event)).count event =
      m.backend.queue.tracked.count event := by
  rw [List.map_append, List.count_append, count_held]
  exact h.balance event

theorem Tracking.perm (h : m.Tracking) :
    ((m.backend.queue.pending ++ m.held).map (·.event)).Perm m.backend.queue.tracked :=
  List.perm_iff_count.2 h.count

theorem Tracking.length (h : m.Tracking) :
    m.backend.queue.pending.length + m.held.length = m.backend.queue.tracked.length := by
  rw [← h.perm.length_eq, List.length_map, List.length_append]

theorem held_eq_nil (h : ∀ e ∈ m.tasks, e.2.isPassing = false) : m.held = [] :=
  List.filterMap_eq_nil_iff.2 fun e he => Task.held?_of_not_passing (h e he)

/-- Workers of a crew that have all ended are in no pass. -/
theorem not_passing_of_allEnded (named : m.Named) {crew : Crew} (ended : m.allEnded crew = true)
    (only : ∀ e ∈ m.tasks, e.2.isPassing = true → ∃ n ∈ crew, e.1 = .call n) :
    ∀ e ∈ m.tasks, e.2.isPassing = false := by
  intro e he
  by_contra hpassing
  rw [Bool.not_eq_false] at hpassing
  obtain ⟨n, hn, hname⟩ := only e he hpassing
  have hfin : m.isFinished n = true := List.all_eq_true.1 ended n hn
  have htask : m.callTask? n = some e.2 := by
    refine task?_of_mem named.nodup ?_
    rw [← hname]
    exact he
  rw [isFinished, htask] at hfin
  rw [Task.not_passing_of_isFinished hfin] at hpassing
  exact absurd hpassing (by decide)

/-- Whatever happens on a fresh machine, and in whatever order: the events of the waiting tasks and of
those held by passes are distinct and are the tracked events, so no more tasks wait than events are
tracked, and as many when no pass is under way, as when the workers that pass have all ended. -/
theorem tracked_run (calendar : Instant) (events : EventStore) (payments : PaymentStore)
    (geocoders : Geocoders) (delay : Nat) (actions : List Action) :
    let m := (create (.create calendar events payments geocoders delay)).run actions
    let queue := m.backend.queue
    let underWay := (queue.pending ++ m.held).map (·.event)
    (underWay.Nodup ∧ queue.tracked.Nodup ∧ ∀ event, event ∈ queue.tracked ↔ event ∈ underWay) ∧
      queue.pending.length ≤ queue.tracked.length ∧
      ((∀ e ∈ m.tasks, e.2.isPassing = false) → queue.pending.length = queue.tracked.length) ∧
      (∀ crew : Crew, m.allEnded crew = true →
        (∀ e ∈ m.tasks, e.2.isPassing = true → ∃ n ∈ crew, e.1 = .call n) →
          queue.pending.length = queue.tracked.length) := by
  intro m queue underWay
  have named : m.Named := named_run _ actions
  have tracking : m.Tracking := tracking_run _ rfl actions
  have perm : underWay.Perm queue.tracked := tracking.perm
  have length : queue.pending.length + m.held.length = queue.tracked.length := tracking.length
  have resting : (∀ e ∈ m.tasks, e.2.isPassing = false) →
      queue.pending.length = queue.tracked.length := by
    intro h
    rw [held_eq_nil h] at length
    exact length
  refine ⟨⟨perm.nodup_iff.2 tracking.distinct, tracking.distinct, fun event => perm.mem_iff.symm⟩,
    ?_, resting, fun crew ended only => resting (not_passing_of_allEnded named ended only)⟩
  omega

end Machine

end Matchday

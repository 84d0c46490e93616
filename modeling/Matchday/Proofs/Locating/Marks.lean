import Matchday.Proofs.Locating.Overtaking

/-!
What becomes of a mark. An event that is queued stays tracked through every lookup and every write that
fails; one write that succeeds brings it to leave, and only behind it the event is untracked. So what happens
to an event is one life after another, each of a mark, some failures, one write and the end of the tracking,
and the last one may still be under way.

The invariant is a phase of the event (`Machine.phase`), which everything that happens to it takes to another.

Main statement: `Machine.marks_run`.
-/

namespace Matchday
set_option autoImplicit false

/-! ## Lives -/

/-- What can happen to an event: it is queued, a lookup or a write of its point fails, the point is written,
or it is tracked no longer. -/
inductive Happening where
  | marked
  | failed
  | written
  | untracked
deriving DecidableEq

/-- A life of an event in the queue, with some failures. -/
def Happening.life (failures : Nat) : List Happening :=
  marked :: List.replicate failures failed ++ [written, untracked]

/-- How far a life has come. -/
inductive Phase where
  | free
  | queued
  | leaving
deriving DecidableEq

namespace Phase

open Happening

/-- The phase after something has happened, if it can happen in a phase. -/
def next? : Phase → Happening → Option Phase
  | free, marked => some queued
  | queued, failed => some queued
  | queued, written => some leaving
  | leaving, untracked => some free
  | _, _ => none

/-- What has happened in a life that has come so far. -/
inductive Begins : Phase → List Happening → Prop where
  | free : Begins free []
  | queued (failures : Nat) : Begins queued (marked :: List.replicate failures failed)
  | leaving (failures : Nat) : Begins leaving (marked :: List.replicate failures failed ++ [written])

theorem Begins.counts {phase : Phase} {rest : List Happening} (h : phase.Begins rest) :
    rest.count .marked = (decide (phase ≠ .free)).toNat ∧ rest.count .untracked = 0 ∧
      rest.count .written ≤ rest.count .marked := by
  cases h with
  | free => exact ⟨rfl, rfl, Nat.le_refl 0⟩
  | queued failures => simp [List.count_replicate]
  | leaving failures => simp [List.count_replicate]

theorem Begins.shape {phase : Phase} {rest : List Happening} (h : phase.Begins rest) :
    (phase = .free → rest = []) ∧ (phase ≠ .free → ∃ failures,
      rest = marked :: List.replicate failures failed ∨
        rest = marked :: List.replicate failures failed ++ [written]) := by
  cases h with
  | free => exact ⟨fun _ => rfl, fun h => absurd rfl h⟩
  | queued failures => exact ⟨fun h => Phase.noConfusion h, fun _ => ⟨failures, .inl rfl⟩⟩
  | leaving failures => exact ⟨fun h => Phase.noConfusion h, fun _ => ⟨failures, .inr rfl⟩⟩

/-- What takes a free event to some phase is a row of lives, and the beginning of one. -/
theorem exists_lives {history : List Happening} {phase : Phase}
    (h : history.foldlM next? free = some phase) :
    ∃ (done : List Nat) (rest : List Happening),
      history = done.flatMap life ++ rest ∧ phase.Begins rest := by
  induction history using List.reverseRecOn generalizing phase with
  | nil =>
    injection h with h
    rw [← h]
    exact ⟨[], [], rfl, .free⟩
  | append_singleton history x ih =>
    rw [List.foldlM_append] at h
    obtain ⟨before, hbefore, hnext⟩ := Option.bind_eq_some_iff.1 h
    rw [List.foldlM_cons] at hnext
    obtain ⟨after, hafter, hsame⟩ := Option.bind_eq_some_iff.1 hnext
    injection hsame with hsame
    subst hsame
    obtain ⟨done, rest, rfl, hbegins⟩ := ih hbefore
    cases hbegins with
    | free =>
      cases x with
      | marked =>
        injection hafter with hafter
        subst hafter
        exact ⟨done, [marked], by rw [List.append_nil], .queued 0⟩
      | _ => cases hafter
    | queued failures =>
      cases x with
      | failed =>
        injection hafter with hafter
        subst hafter
        refine ⟨done, _, ?_, .queued (failures + 1)⟩
        rw [List.replicate_succ', List.append_assoc, List.cons_append]
      | written =>
        injection hafter with hafter
        subst hafter
        exact ⟨done, _, List.append_assoc _ _ _, .leaving failures⟩
      | _ => cases hafter
    | leaving failures =>
      cases x with
      | untracked =>
        injection hafter with hafter
        subst hafter
        refine ⟨done ++ [failures], [], ?_, .free⟩
        simp [life]
      | _ => cases hafter

/-- How often each thing happened in a row of lives. -/
theorem count_lives (done : List Nat) (x : Happening) (once : x ≠ failed) :
    (done.flatMap life).count x = done.length := by
  induction done with
  | nil => rfl
  | cons failures done ih =>
    have hlife : (life failures).count x = 1 := by
      cases x with
      | failed => exact absurd rfl once
      | _ => simp [life, List.count_replicate]
    rw [List.flatMap_cons, List.count_append, hlife, ih, List.length_cons, Nat.add_comm]

end Phase

/-! ## What a step does -/

namespace Pass

/-- What happens by the next step of a pass, and to which event. -/
def happens (b : Backend) : Pass → Option (EventId × Happening)
  | resolving task (.finished (.error _)) => some (task.event, .failed)
  | writing task c => some (task.event, if (b.writePoint task c).1 then .written else .failed)
  | untracking task _ => some (task.event, .untracked)
  | _ => none

end Pass

namespace Task

/-- The event that the next step of a task queues. -/
def marks? (b : Backend) : Task → Option EventId
  | mark event address recheckAfter none =>
    if (b.mark event address recheckAfter).1 then some event else none
  | observe location none => (b.queues? (some location)).map (·.id)
  | t => (b.queues? t.look?).map (·.id)

/-- What happens by the next step of a task, and to which event. -/
def happens (b : Backend) (t : Task) : Option (EventId × Happening) :=
  ((t.marks? b).map fun event => (event, .marked)).or (t.pass?.bind (·.happens b))

end Task

/-- What a step does to the tracked events and to the points that were written, by what happens by it, the lookup
task that is held before it and the event that leaves by the task before and after it. -/
inductive Fares (b b' : Backend) (held : Option LookupTask) :
    Option (EventId × Happening) → Option EventId → Option EventId → Prop where
  | rested (leaving : Option EventId) (tracked : b'.queue.tracked = b.queue.tracked)
      (writes : b'.events.writes = b.events.writes) : Fares b b' held none leaving leaving
  | marked (event : EventId) (leaving : Option EventId) (new : event ∉ b.queue.tracked)
      (tracked : b'.queue.tracked = b.queue.tracked ++ [event])
      (writes : b'.events.writes = b.events.writes) :
      Fares b b' held (some (event, .marked)) leaving leaving
  | failed (task : LookupTask) (holds : held = some task)
      (tracked : b'.queue.tracked = b.queue.tracked) (writes : b'.events.writes = b.events.writes) :
      Fares b b' held (some (task.event, .failed)) none none
  | written (task : LookupTask) (c : Coordinates) (holds : held = some task)
      (tracked : b'.queue.tracked = b.queue.tracked)
      (writes : b'.events.writes = b.events.writes ++ [(task.event, c)]) :
      Fares b b' held (some (task.event, .written)) none (some task.event)
  | untracked (task : LookupTask) (holds : held = some task)
      (tracked : b'.queue.tracked = b.queue.tracked.erase task.event)
      (writes : b'.events.writes = b.events.writes) :
      Fares b b' held (some (task.event, .untracked)) (some task.event) none

section Steps
variable {b b' : Backend}

/-- A step of a task that goes through no pass queues an event or does nothing. -/
theorem Locates.fares {look : Option EventLocation} {leaving' : Option EventId}
    (h : Locates b b' look none none leaving') :
    Fares b b' none ((b.queues? look).map fun l => (l.id, .marked)) none leaving' := by
  cases h with
  | rested looked tracked store left =>
    rw [looked, left]
    exact .rested none tracked store.2
  | looked l looked new tracked store left =>
    rw [looked, left]
    exact .marked l.id none new tracked store.2
  | placed task c looked tracked holds => cases holds
  | untracked task looked tracked holds => cases holds

theorem Backend.mark_fares (b : Backend) (event : EventId) (address : String) (recheckAfter : Instant) :
    Fares b (b.mark event address recheckAfter).2 none
      ((if (b.mark event address recheckAfter).1 then some event else none).map fun e => (e, .marked))
      none none := by
  by_cases h : b.queue.accepts event recheckAfter b.calendar = true
  · have hmark : b.queue.mark event address recheckAfter b.calendar =
        (true, b.queue.enqueue event address) := if_pos h
    have hnew : event ∉ b.queue.tracked := by
      intro hmem
      rw [LookupQueue.accepts, LookupQueue.isTracked_iff.2 hmem, Bool.not_true, Bool.and_false] at h
      cases h
    simp only [Backend.mark, hmark, if_true, Option.map_some]
    exact .marked event none hnew rfl rfl
  · have hmark : b.queue.mark event address recheckAfter b.calendar = (false, b.queue) := if_neg h
    simp only [Backend.mark, hmark, Bool.false_eq_true, if_false, Option.map_none]
    exact .rested none rfl rfl

theorem Pass.step_fares (b : Backend) (p : Pass) :
    Fares b (p.step b).2 p.held? (p.happens b) p.leaving? (p.step b).1.leaving? := by
  cases p with
  | starting =>
    rw [Pass.step, Backend.takeTask?]
    cases h : b.queue.pop? with
    | none => exact .rested none rfl rfl
    | some r => exact .rested none (LookupQueue.pop?_tracked h) rfl
  | resolving task lookup =>
    cases lookup with
    | finished result =>
      cases result with
      | ok c => exact .rested none rfl rfl
      | error e => exact .failed task rfl rfl rfl
    | starting | primaryAsked answer timer | secondaryAsked e answer timer => exact .rested none rfl rfl
  | writing task c =>
    obtain ⟨e, faults, hset⟩ | ⟨hstored, hset⟩ := b.events.setCoordinates_cases task.event c
    · simp only [Pass.step, Pass.happens, Backend.writePoint, hset, Bool.false_eq_true, if_false]
      exact .failed task rfl rfl rfl
    · simp only [Pass.step, Pass.happens, Backend.writePoint, hset, if_true]
      exact .written task c rfl rfl rfl
  | untracking task c => exact .untracked task rfl rfl rfl
  | requeueing task => exact .rested none rfl rfl
  | finished outcome => exact .rested none rfl rfl

theorem Worker.step_fares (b : Backend) (goOn : Bool) (w : Worker) {next : Nat} {p : Pass}
    (stage : w.stage = .busy next (.pass p)) :
    Fares b (w.step b goOn).2 p.held? (p.happens b) p.leaving? (Task.worker (w.step b goOn).1).leaving? := by
  obtain ⟨kind, period, isCancelled, before, task⟩ := w
  obtain rfl : before = .busy next (.pass p) := stage
  cases p with
  | finished outcome => exact .rested none rfl rfl
  | starting => exact Pass.starting.step_fares b
  | resolving task lookup => exact (Pass.resolving task lookup).step_fares b
  | writing task c => exact (Pass.writing task c).step_fares b
  | untracking task c => exact (Pass.untracking task c).step_fares b
  | requeueing task => exact (Pass.requeueing task).step_fares b

theorem Task.happens_of_not_passing {t : Task} (unmarked : t.isMarking = false) (idle : t.pass? = none) :
    t.happens b = (b.queues? t.look?).map fun l => (l.id, .marked) := by
  have hmarks : t.marks? b = (b.queues? t.look?).map (·.id) := by
    cases t with
    | mark event address recheckAfter answer | observe location answer => cases unmarked
    | _ => rfl
  rw [happens, hmarks, idle, Option.map_map]
  exact Option.or_none

/-- Every step does what happens by it. -/
theorem Task.step_fares (b : Backend) (goOn : Bool) (t : Task) :
    Fares b (t.step b goOn).2.1 t.held? (t.happens b) t.leaving? (t.step b goOn).1.leaving? := by
  have unpassed : t.isMarking = false → t.pass? = none →
      Fares b (t.step b goOn).2.1 t.held? (t.happens b) t.leaving? (t.step b goOn).1.leaving? := by
    intro unmarked idle
    have hlocates := t.step_locates b goOn unmarked
    rw [happens_of_not_passing unmarked idle]
    rw [held?, leaving?, idle] at hlocates ⊢
    exact hlocates.fares
  cases t with
  | mark event address recheckAfter answer =>
    cases answer with
    | none =>
      rw [happens, show (mark event address recheckAfter none).pass? = none from rfl, Option.bind_none,
        Option.or_none]
      exact b.mark_fares event address recheckAfter
    | some queued => exact .rested none rfl rfl
  | observe location answer =>
    cases answer with
    | none =>
      rw [happens, show (observe location none).pass? = none from rfl, Option.bind_none, Option.or_none,
        marks?, Option.map_map]
      exact (b.observe_locates location).fares
    | some queued => exact .rested none rfl rfl
  | pass stage => exact stage.step_fares b
  | worker w =>
    cases hp : (worker w).pass? with
    | none => exact unpassed rfl hp
    | some p =>
      obtain ⟨kind, period, isCancelled, stage, task⟩ := w
      cases stage with
      | busy next round =>
        cases round with
        | pass stage =>
          exact Worker.step_fares b goOn ⟨kind, period, isCancelled, .busy next (.pass stage), task⟩ rfl
        | sweep stage => cases hp
      | _ => cases hp
  | _ => exact unpassed rfl rfl

/-- What happens to one event changes nothing for another. -/
theorem Fares.other {held : Option LookupTask} {happens : Option (EventId × Happening)}
    {leaving leaving' : Option EventId} {event : EventId} (h : Fares b b' held happens leaving leaving')
    (others : ∀ x, happens ≠ some (event, x)) :
    b'.queue.tracked.count event = b.queue.tracked.count event ∧
      leaving'.toList.count event = leaving.toList.count event := by
  have hne : ∀ {other : EventId} {x : Happening}, happens = some (other, x) → other ≠ event := by
    rintro other x rfl rfl
    exact others x rfl
  cases h with
  | rested leaving tracked writes => exact ⟨by rw [tracked], rfl⟩
  | marked other leaving new tracked writes =>
    have hother := hne rfl
    refine ⟨?_, rfl⟩
    rw [tracked, List.count_append, List.count_singleton, if_neg (by simpa using hother), Nat.add_zero]
  | failed task holds tracked writes => exact ⟨by rw [tracked], rfl⟩
  | written task c holds tracked writes =>
    have hother := hne rfl
    exact ⟨by rw [tracked], List.count_eq_zero.2 (by simpa using Ne.symm hother)⟩
  | untracked task holds tracked writes =>
    have hother := hne rfl
    refine ⟨?_, (List.count_eq_zero.2 (by simpa using Ne.symm hother)).symm⟩
    rw [tracked, List.count_erase_of_ne (Ne.symm hother)]

end Steps

namespace Machine

variable {m : Machine} {event : EventId}

/-! ## Phases -/

/-- What happens to an event by an action. -/
def happenings (event : EventId) (m : Machine) : Action → List Happening
  | .step id _ =>
    ((((m.ready? id).bind fun t => t.happens m.backend).filter (·.1 = event)).map (·.2)).toList
  | _ => []

/-- How far the present life of an event has come. -/
def phase (event : EventId) (m : Machine) : Phase :=
  if event ∈ m.backend.queue.tracked then
    if m.tally (leavingShare event) = 0 then .queued else .leaving
  else .free

theorem phase_eq_free_iff : m.phase event = .free ↔ event ∉ m.backend.queue.tracked := by
  rw [phase]
  split
  · rename_i h
    split <;> simp [h]
  · rename_i h
    simp [h]

theorem phase_congr {m' : Machine}
    (tracked : event ∈ m'.backend.queue.tracked ↔ event ∈ m.backend.queue.tracked)
    (tally : m'.tally (leavingShare event) = m.tally (leavingShare event)) :
    m'.phase event = m.phase event := by
  rw [phase, phase, tally]
  simp only [tracked]

/-- One task's share in what another number exceeds a number by. -/
theorem tally_add_le {f g : Task → Nat} (h : ∀ t, f t ≤ g t) {id : TaskId} {t : Task}
    (mem : (id, t) ∈ m.tasks) : m.tally f + (g t - f t) ≤ m.tally g := by
  have hsum : (m.tally fun t => f t + (g t - f t)) = m.tally g :=
    congrArg m.tally (funext fun t => Nat.add_sub_of_le (h t))
  rw [tally_add] at hsum
  have hle := le_tally (f := fun t => g t - f t) mem
  omega

/-- At most one pass brings an event to leave, and it holds the event's task. -/
theorem Tracking.leaving_le (h : m.Tracking) (event : EventId) :
    m.tally (leavingShare event) ≤ m.backend.queue.tracked.count event :=
  (tally_mono (leavingShare_le event)).trans (by have := h.balance event; omega)

/-- An event whose task is held by a pass that has not written its point is queued. -/
theorem Tracking.phase_of_held (h : m.Tracking) {id : TaskId} {t : Task} (mem : (id, t) ∈ m.tasks)
    {task : LookupTask} (holds : t.held? = some task) (stays : t.leaving? = none) :
    m.phase task.event = .queued := by
  have hmem := h.mem_of_held mem holds
  have honce := List.nodup_iff_count_le_one.1 h.distinct task.event
  have hbalance := h.balance task.event
  have hheld : LookupQueue.share task.event t.held? = 1 := by
    rw [holds, LookupQueue.share]
    exact List.count_singleton_self
  have hleaving : leavingShare task.event t = 0 := by
    rw [leavingShare, stays]
    rfl
  have hle := tally_add_le (leavingShare_le task.event) mem
  rw [phase, if_pos hmem, if_pos]
  omega

theorem happenings_step (event : EventId) {id : TaskId} (goOn : Bool) {t : Task}
    (ready : m.ready? id = some t) : m.happenings event (.step id goOn) =
      (((t.happens m.backend).filter (·.1 = event)).map (·.2)).toList := by
  rw [happenings, ready]
  rfl

theorem happenings_of_calm {m' : Machine} {a : Action} (calm : m.Calm m' a) :
    m.happenings event a = [] := by
  cases a with
  | step id goOn =>
    obtain hready | ⟨crew, mode, stage, hready⟩ := calm.ready?_cases
    · rw [happenings, hready]
      rfl
    · rw [happenings_step event goOn hready]
      rfl
  | _ => rfl

/-- A step takes an event to the phase that what happens leads to. -/
theorem Tracking.phase_carried (h : m.Tracking) (named : m.Named) {id : TaskId} {goOn : Bool} {t : Task}
    (ready : m.ready? id = some t) :
    (m.happenings event (.step id goOn)).foldlM Phase.next? (m.phase event) =
      some ((m.carried id goOn t).phase event) := by
  have hmem := mem_of_ready? ready
  have hbackend : (m.carried id goOn t).backend = (t.step m.backend goOn).2.1 := carried_backend
  have htally : (m.carried id goOn t).tally (leavingShare event) + leavingShare event t =
      m.tally (leavingShare event) + leavingShare event (t.step m.backend goOn).1 :=
    tally_carried goOn named.nodup (task?_of_ready? ready) fun _ => rfl
  have hfares := t.step_fares m.backend goOn
  rw [happenings_step event goOn ready]
  rw [leavingShare, leavingShare] at htally
  rw [← hbackend] at hfares
  generalize t.happens m.backend = happens at hfares ⊢
  generalize hleaves : t.leaving? = leaving at hfares htally
  generalize (t.step m.backend goOn).1.leaving? = leaving' at hfares htally
  by_cases hown : ∃ x, happens = some (event, x)
  · -- who holds the task of a tracked event is alone with it, so the tally is its own share
    obtain ⟨x, rfl⟩ := hown
    have hone : [event].count event = 1 := List.count_singleton_self
    suffices hnext : (m.phase event).next? x = some ((m.carried id goOn t).phase event) by
      simpa [Option.filter] using hnext
    cases hfares with
    | marked other leaving new tracked writes =>
      have hfree : m.phase event = .free := phase_eq_free_iff.2 new
      have hzero : m.backend.queue.tracked.count event = 0 := List.count_eq_zero.2 new
      have hle := h.leaving_le event
      have hin : event ∈ (m.carried id goOn t).backend.queue.tracked := by
        rw [tracked]
        exact List.mem_append_right _ (List.mem_singleton_self event)
      have hqueued : (m.carried id goOn t).phase event = .queued := by
        rw [phase, if_pos hin, if_pos (by omega)]
      rw [hfree, hqueued]
      rfl
    | failed task holds tracked writes =>
      have hqueued := h.phase_of_held hmem holds hleaves
      have hsame : (m.carried id goOn t).phase task.event = m.phase task.event :=
        phase_congr (by rw [tracked]) (by omega)
      rw [hsame, hqueued]
      rfl
    | written task c holds tracked writes =>
      have hqueued := h.phase_of_held hmem holds hleaves
      have hin : task.event ∈ (m.carried id goOn t).backend.queue.tracked := by
        rw [tracked]
        exact h.mem_of_held hmem holds
      have hleaving : (m.carried id goOn t).phase task.event = .leaving := by
        simp only [Option.toList, hone, List.count_nil] at htally
        rw [phase, if_pos hin, if_neg (by omega)]
      rw [hqueued, hleaving]
      rfl
    | untracked task holds tracked writes =>
      have hfree : (m.carried id goOn t).phase task.event = .free := by
        rw [phase_eq_free_iff, tracked]
        exact h.distinct.not_mem_erase
      have hleaving : m.phase task.event = .leaving := by
        simp only [Option.toList, hone, List.count_nil] at htally
        rw [phase, if_pos (h.mem_of_held hmem holds), if_neg (by omega)]
      rw [hfree, hleaving]
      rfl
  · obtain ⟨htracked, hleaving⟩ := hfares.other fun x hx => hown ⟨x, hx⟩
    have hnothing : happens.filter (·.1 = event) = none := by
      refine Option.filter_eq_none_iff.2 fun e he => ?_
      rintro heq
      exact hown ⟨e.2, by rw [he, ← of_decide_eq_true heq]⟩
    have hsame : (m.carried id goOn t).phase event = m.phase event := by
      refine phase_congr ?_ (by omega)
      rw [← List.count_pos_iff, ← List.count_pos_iff, htracked]
    rw [hnothing, hsame]
    rfl

theorem Tracking.phase_act (h : m.Tracking) (named : m.Named) (a : Action) :
    (m.happenings event a).foldlM Phase.next? (m.phase event) = some ((m.act a).phase event) := by
  obtain ⟨id, goOn, t, rfl, hready, -, heq⟩ | calm := act_cases named a
  · rw [heq]
    exact h.phase_carried named hready
  · have htally : (m.act a).tally (leavingShare event) = m.tally (leavingShare event) :=
      calm.tally _ (fun t => by rw [leavingShare, leavingShare, Task.leaving?_cancel])
        (fun _ _ _ => rfl) fun c now => by rw [leavingShare, Task.leaving?_task]; rfl
    rw [happenings_of_calm calm]
    refine congrArg some (phase_congr ?_ htally).symm
    rw [calm.queue]

/-- The points that the store records are those that passes write. -/
theorem writesOf_act (named : m.Named) (a : Action) : (m.act a).backend.events.writesOf event =
    m.backend.events.writesOf event + (m.happenings event a).count .written := by
  obtain ⟨id, goOn, t, rfl, hready, -, heq⟩ | calm := act_cases named a
  · have hfares := t.step_fares m.backend goOn
    rw [heq, carried_backend, happenings_step event goOn hready]
    generalize (t.step m.backend goOn).2.1 = b' at hfares ⊢
    generalize t.happens m.backend = happens at hfares ⊢
    generalize t.leaving? = leaving at hfares
    generalize (t.step m.backend goOn).1.leaving? = leaving' at hfares
    rw [EventStore.writesOf, EventStore.writesOf]
    cases hfares with
    | rested leaving tracked writes =>
      rw [writes]
      rfl
    | marked other leaving new tracked writes =>
      rw [writes]
      by_cases he : other = event <;> simp [Option.filter, he]
    | failed task holds tracked writes | untracked task holds tracked writes =>
      rw [writes]
      by_cases he : task.event = event <;> simp [Option.filter, he]
    | written task c holds tracked writes =>
      rw [writes, List.map_append, List.count_append]
      by_cases he : task.event = event <;> simp [Option.filter, he]
  · rw [happenings_of_calm calm]
    obtain hevents | ⟨c, rfl, hevents⟩ := calm.events
    · rw [hevents]
      rfl
    · rw [hevents]
      cases c <;> rfl

/-! ## Runs -/

theorem phase_run (b : Backend) (hqueue : b.queue = .empty) (event : EventId) (actions : List Action) :
    ((create b).trace (happenings event) actions).foldlM Phase.next? .free =
        some (((create b).run actions).phase event) ∧
      ((create b).run actions).backend.events.writesOf event =
        b.events.writesOf event + ((create b).trace (happenings event) actions).count .written := by
  induction actions using List.reverseRecOn with
  | nil =>
    have hfree : (create b).phase event = .free := by
      rw [phase_eq_free_iff]
      show event ∉ b.queue.tracked
      rw [hqueue]
      exact List.not_mem_nil
    exact ⟨congrArg some hfree.symm, rfl⟩
  | append_singleton actions a ih =>
    obtain ⟨hphase, hwrites⟩ := ih
    have hnamed := named_run b actions
    have htracking := tracking_run b hqueue actions
    rw [run_concat, trace_concat, List.count_append, ← Nat.add_assoc, ← hwrites]
    refine ⟨?_, writesOf_act hnamed a⟩
    rw [List.foldlM_append, hphase]
    exact htracking.phase_act hnamed a

/-- What happens to any event in any run that begins with an empty queue. The event is queued as often as it is
untracked again, and once more if it is tracked; what is queued are the accepted marks, looks of sweeps and
readings. Its point is written by passes only, never more often than the event was queued. What happens
to it is one life after another, each of a mark, of lookups and writes that fail, of one write, and of the
end of the tracking; and then, if the event is tracked, the beginning of a life, whose task waits or is
held, and which is as far after a failure as before. -/
theorem marks_run (calendar : Instant) (events : EventStore) (payments : PaymentStore)
    (geocoders : Geocoders) (delay : Nat) (actions : List Action) (event : EventId) :
    let start := create (.create calendar events payments geocoders delay)
    let m := start.run actions
    let history := start.trace (happenings event) actions
    let isTracked := m.backend.queue.isTracked event
    history.count .marked = history.count .untracked + isTracked.toNat ∧
      m.backend.events.writesOf event = events.writesOf event + history.count .written ∧
      history.count .written ≤ history.count .marked ∧
      (∃ (done : List Nat) (rest : List Happening), history = done.flatMap Happening.life ++ rest ∧
        (isTracked = false → rest = []) ∧
        (isTracked = true → ∃ failures, rest = .marked :: List.replicate failures .failed ∨
          rest = .marked :: List.replicate failures .failed ++ [.written])) ∧
      (isTracked = true ↔ event ∈ (m.backend.queue.pending ++ m.held).map (·.event)) := by
  intro start m history isTracked
  obtain ⟨hphase, hwrites⟩ :=
    phase_run (.create calendar events payments geocoders delay) rfl event actions
  have tracking : m.Tracking := tracking_run _ rfl actions
  have htracked : isTracked = true ↔ event ∈ m.backend.queue.tracked := LookupQueue.isTracked_iff
  have hphases : isTracked = decide (m.phase event ≠ .free) := by
    rw [Bool.eq_iff_iff, htracked, decide_eq_true_iff, Ne, phase_eq_free_iff, not_not]
  obtain ⟨done, rest, hhistory, hbegins⟩ := Phase.exists_lives hphase
  have hcount : ∀ x, x ≠ .failed → history.count x = done.length + rest.count x := by
    intro x hx
    show (start.trace (happenings event) actions).count x = _
    rw [hhistory, List.count_append, Phase.count_lives done x hx]
  have hmarked := hcount .marked (by decide)
  have hwritten := hcount .written (by decide)
  have huntracked := hcount .untracked (by decide)
  have hbegun : (m.phase event).Begins rest := hbegins
  obtain ⟨hone, hnone, hle⟩ := hbegun.counts
  obtain ⟨hended, hopen⟩ := hbegun.shape
  rw [← hphases] at hone
  refine ⟨by omega, hwrites, by omega, ⟨done, rest, hhistory, fun hno => ?_, fun hyes => ?_⟩,
    htracked.trans tracking.perm.mem_iff.symm⟩
  · rw [hphases, decide_eq_false_iff_not, not_not] at hno
    exact hended hno
  · rw [hphases, decide_eq_true_iff] at hyes
    exact hopen hyes

end Machine

end Matchday

import Matchday.Proofs.Concurrent.History
import Matchday.Proofs.Locating.Completion
import Matchday.Proofs.Locating.Queue
import Matchday.Proofs.Store.Events

/-!
The order of the queue. Marks, sweeps and passes come one after another, and between them the store of events and
the geocoders may become anything. What happens to the queue is noted down: an event is queued, or a pass takes
the first task out, which fails and goes to the end, or whose point is written.

All is read off these notes (`LookupQueue.Follows`): what was taken out and what still waits is together what was
appended, so nothing overtakes a task that waits; and a task counts the failures that were noted since its event
was queued.

Main statement: `Backend.queue_keeps_order`.
-/

namespace Matchday
set_option autoImplicit false

/-- What happens to a queue. -/
inductive QueueNote where
  | queued (event : EventId) (address : String)
  | failed (task : LookupTask)
  | located (task : LookupTask)
deriving DecidableEq

namespace QueueNote

/-- The task that is taken out. -/
def taken? : QueueNote → Option LookupTask
  | queued _ _ => none
  | failed task | located task => some task

/-- The task that comes to the end. -/
def appended? : QueueNote → Option LookupTask
  | queued event address => some ⟨event, address, 0⟩
  | failed task => some task.failed
  | located _ => none

/-- The event whose task it is. -/
def event : QueueNote → EventId
  | queued event _ => event
  | failed task | located task => task.event

/-- Whether a task failed. -/
def isFailure : QueueNote → Bool
  | failed _ => true
  | queued _ _ | located _ => false

/-- All tasks that were taken out, in their order. -/
def taken (notes : List QueueNote) : List LookupTask := notes.filterMap taken?

/-- All tasks that came to the end, in their order. -/
def appended (notes : List QueueNote) : List LookupTask := notes.filterMap appended?

/-- How often the task of an event failed. -/
def failures (event : EventId) (notes : List QueueNote) : Nat :=
  notes.countP fun n => n.isFailure && n.event = event

theorem taken_append (first second : List QueueNote) : taken (first ++ second) = taken first ++ taken second :=
  List.filterMap_append

theorem appended_append (first second : List QueueNote) :
    appended (first ++ second) = appended first ++ appended second :=
  List.filterMap_append

theorem failures_concat (event : EventId) (notes : List QueueNote) (n : QueueNote) :
    failures event (notes ++ [n]) = failures event notes + (n.isFailure && n.event = event).toNat := by
  cases h : n.isFailure && decide (n.event = event) <;> simp [failures, List.countP_append, h]

end QueueNote

/-- A task is told by some notes: its event was queued with its address, has had nothing but failures since, and
the task counts these as far as its counter goes. -/
def LookupTask.ToldBy (notes : List QueueNote) (task : LookupTask) : Prop :=
  ∃ earlier since, notes = earlier ++ .queued task.event task.address :: since ∧
    (∀ n ∈ since, n.event = task.event → n.isFailure = true) ∧
    (QueueNote.failures task.event since < 2 ^ 32 →
      task.attempts.toNat = QueueNote.failures task.event since)

/-! ## What the notes tell of a task -/

namespace LookupTask

open QueueNote

variable {n : QueueNote} {notes : List QueueNote} {task : LookupTask}

/-- What happens to another event's task tells nothing new of a task. -/
theorem ToldBy.other (h : task.ToldBy notes) (other : n.event ≠ task.event) :
    task.ToldBy (notes ++ [n]) := by
  obtain ⟨earlier, since, rfl, honly, hattempts⟩ := h
  refine ⟨earlier, since ++ [n], by simp, fun m hm hevent => ?_, ?_⟩
  · obtain hm | hm := List.mem_append.1 hm
    · exact honly m hm hevent
    · exact absurd (List.mem_singleton.1 hm ▸ hevent) other
  · rw [failures_concat, decide_eq_false other, Bool.and_false]
    exact hattempts

theorem ToldBy.failed (h : task.ToldBy notes) :
    task.failed.ToldBy (notes ++ [.failed task]) := by
  obtain ⟨earlier, since, rfl, honly, hattempts⟩ := h
  refine ⟨earlier, since ++ [.failed task], by simp [LookupTask.failed], fun m hm hevent => ?_, ?_⟩
  · obtain hm | hm := List.mem_append.1 hm
    · exact honly m hm hevent
    · rw [List.mem_singleton.1 hm]
      rfl
  · have hcounted : failures task.event (since ++ [.failed task]) = failures task.event since + 1 := by
      rw [failures_concat, decide_eq_true (show (QueueNote.failed task).event = task.event from rfl)]
      rfl
    show failures task.event (since ++ [.failed task]) < 2 ^ 32 →
      (task.attempts + 1).toNat = failures task.event (since ++ [.failed task])
    rw [hcounted]
    intro hfew
    have hbefore := hattempts (Nat.lt_of_succ_lt hfew)
    rw [UInt32.toNat_add, hbefore]
    exact Nat.mod_eq_of_lt hfew

theorem toldBy_queued (notes : List QueueNote) (event : EventId) (address : String) :
    ToldBy (notes ++ [.queued event address]) ⟨event, address, 0⟩ :=
  ⟨notes, [], rfl, fun _ h => absurd h List.not_mem_nil, fun _ => rfl⟩

end LookupTask

/-! ## Notes and the queue -/

namespace LookupQueue

open QueueNote

/-- What one note makes of a queue. -/
inductive Notes : LookupQueue → QueueNote → LookupQueue → Prop where
  | queued {q : LookupQueue} {event : EventId} (address : String) (new : q.isTracked event = false) :
      Notes q (.queued event address) (q.enqueue event address)
  | failed {q : LookupQueue} {task : LookupTask} {others : List LookupTask} (first : q.pending = task :: others) :
      Notes q (.failed task) { q with pending := others ++ [task.failed] }
  | located {q : LookupQueue} {task : LookupTask} {others : List LookupTask}
      (first : q.pending = task :: others) :
      Notes q (.located task) { pending := others, tracked := q.tracked.erase task.event }

/-- What a row of notes makes of a queue. -/
inductive Follows : LookupQueue → List QueueNote → LookupQueue → Prop where
  | rested (q : LookupQueue) : Follows q [] q
  | noted {q q' q'' : LookupQueue} {n : QueueNote} {notes : List QueueNote} (step : q.Notes n q')
      (rest : Follows q' notes q'') : Follows q (n :: notes) q''

variable {q q' q'' : LookupQueue} {n : QueueNote} {notes more : List QueueNote}

theorem Follows.single (h : q.Notes n q') : q.Follows [n] q' := .noted h (.rested q')

theorem Follows.append (h : q.Follows notes q') (h' : q'.Follows more q'') : q.Follows (notes ++ more) q'' := by
  induction h with
  | rested q => exact h'
  | noted step rest ih => exact .noted step (ih h')

/-- One note keeps the order: what is taken out and what waits after it, is what waited and what is appended. -/
theorem Notes.order (h : q.Notes n q') :
    n.taken?.toList ++ q'.pending = q.pending ++ n.appended?.toList := by
  cases h with
  | queued address new => rfl
  | failed first => exact congrArg (· ++ _) first.symm
  | located first => rw [first, QueueNote.appended?, Option.toList_none, List.append_nil]; rfl

theorem Follows.order (h : q.Follows notes q') : taken notes ++ q'.pending = q.pending ++ appended notes := by
  induction h with
  | rested q => exact (List.append_nil _).symm
  | @noted q q' q'' n notes step rest ih =>
    have htaken : taken (n :: notes) = n.taken?.toList ++ taken notes := taken_append [n] notes
    have happended : appended (n :: notes) = n.appended?.toList ++ appended notes := appended_append [n] notes
    calc taken (n :: notes) ++ q''.pending
        = n.taken?.toList ++ (taken notes ++ q''.pending) := by rw [htaken, List.append_assoc]
      _ = (n.taken?.toList ++ q'.pending) ++ appended notes := by rw [ih, List.append_assoc]
      _ = q.pending ++ appended (n :: notes) := by rw [step.order, happended, List.append_assoc]

/-- Tracked events are distinct, and each has one task that waits; others have none. -/
structure Balanced (q : LookupQueue) : Prop where
  distinct : q.tracked.Nodup
  balance : ∀ event, q.waiting event = q.tracked.count event

theorem Balanced.tracked (h : q.Balanced) {task : LookupTask} (waits : task ∈ q.pending) :
    task.event ∈ q.tracked := by
  have hpos : 0 < q.waiting task.event := List.count_pos_iff.2 (List.mem_map_of_mem waits)
  rw [h.balance] at hpos
  exact List.count_pos_iff.1 hpos

theorem Balanced.event_ne (h : q.Balanced) {task other : LookupTask} {others : List LookupTask}
    (first : q.pending = task :: others) (waits : other ∈ others) : other.event ≠ task.event := by
  intro heq
  have hle : q.waiting task.event ≤ 1 :=
    (h.balance task.event).trans_le (List.nodup_iff_count_le_one.1 h.distinct _)
  have hpos : 0 < (others.map (·.event)).count task.event :=
    List.count_pos_iff.2 (List.mem_map.2 ⟨other, waits, heq⟩)
  rw [waiting, first, List.map_cons, List.count_cons_self] at hle
  omega

theorem Notes.balanced (h : q.Notes n q') (balanced : q.Balanced) : q'.Balanced := by
  -- a pass is the taking of a task and what becomes of it
  have taking : ∀ {task : LookupTask} {others : List LookupTask}, q.pending = task :: others →
      task.event ∈ q.tracked ∧ ∀ event,
        (LookupQueue.mk others q.tracked).waiting event + share event (some task) = q.tracked.count event := by
    intro task others first
    have hpop : q.pop? = some (task, { q with pending := others }) := by rw [pop?, first]
    obtain ⟨-, hbalance⟩ := (Moves.taken hpop).balance balanced.distinct (fun _ h => by cases h)
    refine ⟨balanced.tracked (first ▸ List.mem_cons_self), fun event => ?_⟩
    have hevent := hbalance event
    have hbefore := balanced.balance event
    have hnone : share event none = 0 := rfl
    show (LookupQueue.mk others q.tracked).waiting event + share event (some task) = _
    simp only at hevent
    omega
  cases h with
  | @queued event address new =>
    obtain ⟨hdistinct, hbalance⟩ := (Moves.queued q event address new).balance balanced.distinct
      (fun _ h => by cases h)
    refine ⟨hdistinct, fun other => ?_⟩
    have hother := hbalance other
    have hbefore := balanced.balance other
    omega
  | @failed task others first =>
    obtain ⟨htracked, hheld⟩ := taking first
    obtain ⟨hdistinct, hbalance⟩ := (Moves.requeued ⟨others, q.tracked⟩ task).balance balanced.distinct
      (by rintro held ⟨⟩; exact htracked)
    refine ⟨hdistinct, fun event => ?_⟩
    have hevent := hbalance event
    have hbefore := hheld event
    have hnone : share event none = 0 := rfl
    show (requeue ⟨others, q.tracked⟩ task).waiting event = q.tracked.count event
    simp only [requeue] at hevent ⊢
    omega
  | @located task others first =>
    obtain ⟨htracked, hheld⟩ := taking first
    obtain ⟨hdistinct, hbalance⟩ := (Moves.untracked ⟨others, q.tracked⟩ task).balance balanced.distinct
      (by rintro held ⟨⟩; exact htracked)
    refine ⟨hdistinct, fun event => ?_⟩
    have hevent := hbalance event
    have hbefore := hheld event
    have hnone : share event none = 0 := rfl
    show (untrack ⟨others, q.tracked⟩ task.event).waiting event = (q.tracked.erase task.event).count event
    simp only [untrack] at hevent ⊢
    omega

/-- A queue that is balanced, of whose tasks all are told by some notes. -/
structure Told (notes : List QueueNote) (q : LookupQueue) : Prop extends q.Balanced where
  told : ∀ task ∈ q.pending, task.ToldBy notes

theorem Notes.told (h : q.Notes n q') (before : q.Told notes) : q'.Told (notes ++ [n]) := by
  refine ⟨h.balanced before.toBalanced, fun task htask => ?_⟩
  cases h with
  | @queued event address new =>
    obtain hold | hnew := List.mem_append.1 htask
    · have hne : event ≠ task.event := by
        rintro rfl
        rw [isTracked_iff.2 (before.tracked hold)] at new
        cases new
      exact (before.told task hold).other hne
    · rw [List.mem_singleton.1 hnew]
      exact LookupTask.toldBy_queued notes event address
  | @failed first others hpending =>
    have hfirst : first.ToldBy notes := before.told first (hpending ▸ List.mem_cons_self)
    obtain hold | hnew := List.mem_append.1 htask
    · exact (before.told task (hpending ▸ List.mem_cons_of_mem _ hold)).other
        (before.event_ne hpending hold).symm
    · rw [List.mem_singleton.1 hnew]
      exact hfirst.failed
  | @located first others hpending =>
    exact (before.told task (hpending ▸ List.mem_cons_of_mem _ htask)).other
      (before.event_ne hpending htask).symm

theorem Follows.told (h : q.Follows more q') (before : q.Told notes) : q'.Told (notes ++ more) := by
  induction h generalizing notes with
  | rested q => rwa [List.append_nil]
  | @noted q q' q'' n more step rest ih =>
    have hafter := ih (step.told before)
    rwa [List.append_assoc] at hafter

theorem told_empty : empty.Told [] where
  distinct := List.nodup_nil
  balance _ := rfl
  told _ h := absurd h List.not_mem_nil

end LookupQueue

/-! ## Calls -/

/-- What happens around a queue: a lookup is marked, a location just read is looked at, an event is read, a sweep
and a pass are made; meanwhile the calendar, the store of events and the geocoders may become anything. -/
inductive QueueCall where
  | mark (event : EventId) (address : String) (recheckAfter : Instant)
  | observe (location : EventLocation)
  | read (event : EventId)
  | sweep
  | pass
  | meanwhile (calendar : Instant) (events : EventStore) (geocoders : Geocoders)

namespace Backend

open QueueNote

/-- The state after a call that is done at once. -/
def after (b : Backend) : QueueCall → Backend
  | .mark event address recheckAfter => (b.mark event address recheckAfter).2
  | .observe l => (b.observe l).2
  | .read event => (b.readLocation event).2
  | .sweep => b.sweep.2
  | .pass => b.processNext.2
  | .meanwhile calendar events geocoders => { b with calendar, events, geocoders }

/-- The notes on a row of locations that are looked at. -/
def observed (b : Backend) : List EventLocation → List QueueNote
  | [] => []
  | l :: ls => (if (b.observe l).1 then [.queued l.id l.address] else []) ++ (b.observe l).2.observed ls

/-- The notes on a call: what is queued follows from the answers, and what has become of the first task from the
outcome of the pass. -/
def notes (b : Backend) : QueueCall → List QueueNote
  | .mark event address recheckAfter =>
    if (b.mark event address recheckAfter).1 then [.queued event address] else []
  | .observe l => b.observed [l]
  | .read event =>
    match b.loadLocation event with
    | (.ok (some l), b) => b.observed [l]
    | (.ok none, _) | (.error _, _) => []
  | .sweep =>
    match b.loadMissing with
    | (.ok missing, b) => b.observed missing
    | (.error _, _) => []
  | .pass =>
    match b.queue.pending, b.processNext.1 with
    | task :: _, some (.resolved _ _) => [.located task]
    | task :: _, some (.requeued _ _) => [.failed task]
    | _, _ => []
  | .meanwhile _ _ _ => []

/-- The state after some calls. -/
def afterAll (b : Backend) (calls : List QueueCall) : Backend := calls.foldl after b

/-- The notes on some calls. -/
def history (b : Backend) : List QueueCall → List QueueNote
  | [] => []
  | c :: calls => b.notes c ++ (b.after c).history calls

/-- How many of some calls are passes. -/
def passesIn (calls : List QueueCall) : Nat :=
  calls.countP fun
    | .pass => true
    | _ => false

/-- Whether a pass over a task fails: no point is found, or it is not written. -/
def fails (b : Backend) (task : LookupTask) : Bool :=
  match (b.geocoders.resolve task.address .refresh).1 with
  | .error _ => true
  | .ok c => !(b.events.setCoordinates task.event c).1.isOk

variable {b b' : Backend} {task : LookupTask} {others : List LookupTask}

/-! ## Passes -/

theorem primary_calls_resolve (g : Geocoders) (address : String) (caller : Caller) :
    (g.resolve address caller).2.1.primary.calls = g.primary.calls ++ [(address, caller)] := by
  rw [Geocoders.resolve]
  cases g.primary.answer <;> rfl

/-- What a pass that fails reports and leaves: the same task at the end, the failure counted, and the tracked
events, the stored events and the writes as they were. -/
structure PutsBack (b : Backend) (task : LookupTask) (others : List LookupTask) : Prop where
  outcome : b.processNext.1 = some (.requeued task.event task.failed.attempts)
  queue : b.processNext.2.queue = { b.queue with pending := others ++ [task.failed] }
  events : b.processNext.2.events.events = b.events.events
  writes : b.processNext.2.events.writes = b.events.writes

/-- What a pass that does not fail reports and leaves: the event no longer tracked, and its point written. -/
structure Locates (b : Backend) (task : LookupTask) (others : List LookupTask) : Prop where
  outcome : ∃ c, b.processNext.1 = some (.resolved task.event c) ∧
    b.events.setCoordinates task.event c = (.ok (), b.processNext.2.events)
  queue : b.processNext.2.queue = { pending := others, tracked := b.queue.tracked.erase task.event }

theorem processNext_first (first : b.queue.pending = task :: others) :
    (b.fails task = true → b.PutsBack task others) ∧ (b.fails task = false → b.Locates task others) := by
  obtain ⟨-, -, ⟨houtcome, hqueue, ⟨hlost, hevents⟩ | ⟨c, e, hfound, hwrite⟩⟩ |
    ⟨c, houtcome, hqueue, hfound, hwrite⟩⟩ := processNext_cases first
  · have hfails : b.fails task = true := by
      rw [fails]
      cases hresolve : (b.geocoders.resolve task.address .refresh).1 with
      | error e => rfl
      | ok c =>
        rw [hresolve] at hlost
        cases hlost
    rw [hfails]
    exact ⟨fun _ => ⟨houtcome, hqueue, by rw [hevents], by rw [hevents]⟩, fun hno => Bool.noConfusion hno⟩
  · have hfails : b.fails task = true := by
      rw [fails, hfound]
      simp [hwrite, Except.isOk, Except.toBool]
    obtain ⟨faults, hkept⟩ := EventStore.setCoordinates_refused hwrite
    rw [hfails]
    exact ⟨fun _ => ⟨houtcome, hqueue, by rw [hkept], by rw [hkept]⟩, fun hno => Bool.noConfusion hno⟩
  · have hfails : b.fails task = false := by
      rw [fails, hfound]
      simp [hwrite, Except.isOk, Except.toBool]
    rw [hfails]
    exact ⟨fun hno => Bool.noConfusion hno, fun _ => ⟨⟨c, houtcome, hwrite⟩, hqueue⟩⟩

/-- A pass over a task asks the first geocoder once, for the address of the task. -/
theorem primary_calls_processNext (first : b.queue.pending = task :: others) :
    b.processNext.2.geocoders.primary.calls = b.geocoders.primary.calls ++ [(task.address, .refresh)] := by
  obtain ⟨-, hgeocoders, -⟩ := processNext_cases first
  rw [hgeocoders, primary_calls_resolve]

theorem notes_pass (first : b.queue.pending = task :: others) :
    b.notes .pass = [if b.fails task then .failed task else .located task] := by
  obtain ⟨hback, hlocated⟩ := processNext_first first
  simp only [notes, first]
  cases hfails : b.fails task with
  | true =>
    rw [(hback hfails).outcome]
    rfl
  | false =>
    obtain ⟨c, houtcome, -⟩ := (hlocated hfails).outcome
    rw [houtcome]
    rfl

/-! ## The notes on a call -/

theorem follows_mark (q : LookupQueue) (event : EventId) (address : String) (recheckAfter now : Instant) :
    q.Follows (if (q.mark event address recheckAfter now).1 then [.queued event address] else [])
      (q.mark event address recheckAfter now).2 := by
  rw [LookupQueue.mark]
  by_cases h : q.accepts event recheckAfter now = true
  · rw [if_pos h]
    rw [LookupQueue.accepts, Bool.and_eq_true, Bool.not_eq_true', Bool.not_eq_true'] at h
    exact .single (.queued address h.2)
  · rw [if_neg h]
    exact .rested q

theorem follows_observe (b : Backend) (l : EventLocation) :
    b.queue.Follows (if (b.observe l).1 then [.queued l.id l.address] else []) (b.observe l).2.queue := by
  show b.queue.Follows (if (b.queue.observe l b.calendar).1 then _ else _) (b.queue.observe l b.calendar).2
  rw [LookupQueue.observe]
  split
  · exact follows_mark b.queue l.id l.address l.recheckAfter b.calendar
  · exact .rested _

theorem follows_observed (b : Backend) (ls : List EventLocation) :
    b.queue.Follows (b.observed ls) (b.observeAll ls).2.queue := by
  induction ls generalizing b with
  | nil => exact .rested _
  | cons l ls ih => exact (b.follows_observe l).append (ih _)

theorem follows_pass (b : Backend) : b.queue.Follows (b.notes .pass) b.processNext.2.queue := by
  cases hpending : b.queue.pending with
  | nil =>
    rw [processNext_of_nil hpending, notes, hpending]
    exact .rested _
  | cons task others =>
    obtain ⟨hback, hlocated⟩ := processNext_first hpending
    rw [notes_pass hpending]
    cases hfails : b.fails task with
    | true =>
      rw [(hback hfails).queue]
      exact .single (.failed hpending)
    | false =>
      rw [(hlocated hfails).queue]
      exact .single (.located hpending)

theorem follows_call (b : Backend) (c : QueueCall) : b.queue.Follows (b.notes c) (b.after c).queue := by
  cases c with
  | mark event address recheckAfter => exact follows_mark b.queue event address recheckAfter b.calendar
  | observe l => exact b.follows_observed [l]
  | read event =>
    have hqueue : (b.loadLocation event).2.queue = b.queue := rfl
    rw [after, notes, readLocation]
    generalize b.loadLocation event = loaded at hqueue
    obtain ⟨answer, b'⟩ := loaded
    rw [← hqueue]
    cases answer with
    | error e => exact .rested _
    | ok read =>
      cases read with
      | none => exact .rested _
      | some l => exact b'.follows_observed [l]
  | sweep =>
    have hqueue : b.loadMissing.2.queue = b.queue := rfl
    rw [after, notes, sweep]
    generalize b.loadMissing = loaded at hqueue
    obtain ⟨answer, b'⟩ := loaded
    rw [← hqueue]
    cases answer with
    | error e => exact .rested _
    | ok missing => exact b'.follows_observed missing
  | pass => exact b.follows_pass
  | meanwhile calendar events geocoders => exact .rested _

/-! ## Histories -/

theorem follows_history (b : Backend) (calls : List QueueCall) :
    b.queue.Follows (b.history calls) (b.afterAll calls).queue := by
  induction calls generalizing b with
  | nil => exact .rested _
  | cons c calls ih => exact (b.follows_call c).append (ih _)

theorem taken_observed (b : Backend) (ls : List EventLocation) : taken (b.observed ls) = [] := by
  induction ls generalizing b with
  | nil => rfl
  | cons l ls ih =>
    rw [observed, taken_append, ih]
    split <;> rfl

/-- Each pass takes a task out if there is one; no other call does. -/
theorem length_taken_notes (b : Backend) (c : QueueCall) :
    (taken (b.notes c)).length = min (passesIn [c]) b.queue.pending.length := by
  have none_taken : ∀ {notes : List QueueNote}, taken notes = [] →
      (taken notes).length = min 0 b.queue.pending.length := by
    intro notes h
    rw [h, Nat.zero_min]
    rfl
  cases c with
  | mark event address recheckAfter =>
    refine none_taken ?_
    rw [notes]
    split <;> rfl
  | observe l => exact none_taken (b.taken_observed [l])
  | read event =>
    refine none_taken ?_
    rw [notes]
    split
    · exact taken_observed _ _
    · rfl
    · rfl
  | sweep =>
    refine none_taken ?_
    rw [notes]
    split
    · exact taken_observed _ _
    · rfl
  | pass =>
    cases hpending : b.queue.pending with
    | nil =>
      rw [notes, hpending]
      rfl
    | cons task others =>
      have hone : min (passesIn [.pass]) (task :: others).length = 1 := Nat.min_eq_left (Nat.le_add_left 1 _)
      rw [notes_pass hpending, hone]
      split <;> rfl
  | meanwhile calendar events geocoders => exact none_taken rfl

/-- There are as many tasks taken out as there are passes, unless the tasks do not last. -/
theorem le_length_taken (b : Backend) (calls : List QueueCall) :
    min (passesIn calls) b.queue.pending.length ≤ (taken (b.history calls)).length := by
  induction calls generalizing b with
  | nil => exact Nat.min_le_left 0 _
  | cons c calls ih =>
    have hrest := ih (b.after c)
    have hfirst := b.length_taken_notes c
    have horder := congrArg List.length (b.follows_call c).order
    have hpasses : passesIn (c :: calls) = passesIn [c] + passesIn calls := by
      rw [← List.singleton_append, passesIn, List.countP_append]
      rfl
    rw [hpasses, history, taken_append]
    simp only [List.length_append] at horder ⊢
    omega

/-- Enough passes take a task out, after exactly those that wait before it. -/
theorem isPrefix_taken {before behind : List LookupTask} (h : b.queue.pending = before ++ task :: behind)
    {later : List QueueCall} (enough : before.length < passesIn later) :
    before ++ [task] <+: taken (b.history later) := by
  have horder := (b.follows_history later).order
  have hle := b.le_length_taken later
  have hwhole : before ++ [task] <+: taken (b.history later) ++ (b.afterAll later).queue.pending := by
    rw [horder, h]
    exact ⟨behind ++ appended (b.history later), by simp⟩
  refine List.prefix_of_prefix_length_le hwhole (List.prefix_append _ _) ?_
  rw [h] at hle
  simp only [List.length_append, List.length_cons, List.length_nil] at hle ⊢
  omega

/-! ## The order of the queue -/

/-- From an empty queue on: what was taken out, followed by what waits, is what was appended. So whatever comes
later, a task that waits is taken out after exactly those before it, by as many passes and one more. Each task
that waits has the address with which its event was queued, and counts the passes that failed since. A pass over
the first task asks the first geocoder once, for that address, on behalf of the refresh; if it fails, it leaves
the stored events, the writes and the tracked events as they were, and the same task goes to the end, with the
failure counted and reported. -/
theorem queue_keeps_order (fresh : b.queue = .empty) (calls : List QueueCall) :
    let notes := b.history calls
    let b' := b.afterAll calls
    taken notes ++ b'.queue.pending = appended notes ∧
      (∀ before task behind, b'.queue.pending = before ++ task :: behind → task.ToldBy notes ∧
        ∀ later, before.length < passesIn later → before ++ [task] <+: taken (b'.history later)) ∧
      ∀ task others, b'.queue.pending = task :: others →
        b'.processNext.2.geocoders.primary.calls =
          b'.geocoders.primary.calls ++ [(task.address, .refresh)] ∧
        (b'.fails task = true → b'.PutsBack task others ∧ b'.notes .pass = [.failed task] ∧
          task.failed.ToldBy (notes ++ [.failed task])) ∧
        (b'.fails task = false → b'.Locates task others ∧ b'.notes .pass = [.located task]) := by
  intro notes b'
  have hfollows : LookupQueue.empty.Follows notes b'.queue := fresh ▸ b.follows_history calls
  have htold : b'.queue.Told notes := hfollows.told LookupQueue.told_empty
  refine ⟨hfollows.order, fun before task behind hpending => ⟨?_, fun later => isPrefix_taken hpending⟩,
    fun task others hpending => ⟨primary_calls_processNext hpending, fun hfails => ?_, fun hfine => ?_⟩⟩
  · exact htold.told task (hpending ▸ List.mem_append_right _ List.mem_cons_self)
  · have hfirst : task.ToldBy notes := htold.told task (hpending ▸ List.mem_cons_self)
    refine ⟨(processNext_first hpending).1 hfails, ?_, hfirst.failed⟩
    rw [notes_pass hpending, if_pos hfails]
  · refine ⟨(processNext_first hpending).2 hfine, ?_⟩
    rw [notes_pass hpending, hfine]
    rfl

/-! ## Two events -/

/-- Two events are marked. The first lookup fails at both geocoders, the second succeeds. -/
def twoMarks : List QueueCall :=
  [.mark (.repeated 1) "Stadium" .newYear, .mark (.repeated 2) "Arena" .newYear, .pass]

/-- The first event's task, having failed, waits behind the second's. -/
theorem queue_keeps_order_two :
    let b := Backend.small .empty [.error .scriptEnded] 0
    let b' := b.afterAll twoMarks
    b.queue = .empty ∧ b'.queue.pending = [⟨.repeated 2, "Arena", 0⟩, ⟨.repeated 1, "Stadium", 1⟩] ∧
      ∀ later, 1 < passesIn later →
        [⟨.repeated 2, "Arena", 0⟩, ⟨.repeated 1, "Stadium", 1⟩] <+: taken (b'.history later) := by
  have hpending : ((Backend.small .empty [.error .scriptEnded] 0).afterAll twoMarks).queue.pending =
      [⟨.repeated 2, "Arena", 0⟩, ⟨.repeated 1, "Stadium", 1⟩] := by
    decide +kernel
  obtain ⟨-, horder, -⟩ := queue_keeps_order
    (show (Backend.small .empty [.error .scriptEnded] 0).queue = .empty from rfl) twoMarks
  exact ⟨rfl, hpending, (horder [_] _ [] hpending).2⟩

end Backend

end Matchday

import Matchday.Proofs.Subsystems.Views

/-!
What a subsystem sees of the whole shared state, and how the steps of tasks look to it. A step of one of its own
tasks comes to the same on its view as on the state; a step of another subsystem's task leaves its view as it
was. Changes from outside are seen alike by everyone who sees alike.

Main statements: `Task.step_view`, `Task.step_unseen`, `Subsystem.view_change`.
-/

namespace Matchday
set_option autoImplicit false

/-- A state in which there is nothing. -/
def Backend.blank : Backend :=
  .create .newYear .empty .empty ⟨.scripted "" [], .scripted "" []⟩ 0

/-- What a subsystem sees of the shared state. Nobody reads the log. -/
def Subsystem.view (b : Backend) : Subsystem → Backend
  | members => { Backend.blank with now := b.now, events := members.events b.events }
  | locating =>
    { Backend.blank with
      calendar := b.calendar, now := b.now, events := locating.events b.events, geocoders := b.geocoders,
      queue := b.queue }
  | payments =>
    { Backend.blank with
      now := b.now, events := payments.events b.events, payments := b.payments, schedule := b.schedule }

/-- The subsystem to which a call belongs; a call that closes stops two of them. -/
def Call.subsystem? : Call → Option Subsystem
  | mark _ _ _ | observe _ | sweep | read _ | pass | lookup _ _ | worker _ _ _ => some .locating
  | subscribe _ _ _ => some .members
  | query _ | status _ | shutdown _ => some .payments
  | close _ _ => none

/-- The subsystem to which a task belongs. -/
def Task.subsystem? : Task → Option Subsystem
  | mark _ _ _ _ | observe _ _ | sweep _ | reading _ _ | pass _ | lookup _ _ _ | worker _ => some .locating
  | subscription _ _ _ => some .members
  | query _ _ | status _ _ | settlement _ _ | shutdown _ _ => some .payments
  | closing _ _ _ => none

theorem Call.subsystem?_task (c : Call) (now : Nat) : (c.task now).subsystem? = c.subsystem? := by
  cases c <;> rfl

theorem Task.subsystem?_cancel (t : Task) : t.cancel.subsystem? = t.subsystem? := by
  cases t <;> rfl

theorem Task.subsystem?_step (b : Backend) (goOn : Bool) (t : Task) :
    (t.step b goOn).1.subsystem? = t.subsystem? := by
  cases t with
  | mark event address recheckAfter answer => cases answer <;> rfl
  | observe location answer => cases answer <;> rfl
  | query payment answer => cases answer <;> rfl
  | _ => rfl

namespace Subsystem

variable {k : Subsystem} {b b' : Backend}

/-! ## Views -/

theorem events_view (k : Subsystem) (b : Backend) : (k.view b).events = k.events b.events := by
  cases k <;> rfl

theorem now_view (k : Subsystem) (b : Backend) : (k.view b).now = b.now := by
  cases k <;> rfl

/-- Nothing more is hidden by looking twice. -/
@[simp] theorem view_view (k : Subsystem) (b : Backend) : k.view (k.view b) = k.view b := by
  cases k <;> simp [view]

theorem view_congr {b b' : Backend} (now : b'.now = b.now) (events : k.events b'.events = k.events b.events)
    (locates : k = locating → b'.calendar = b.calendar ∧ b'.geocoders = b.geocoders ∧ b'.queue = b.queue)
    (settles : k = payments → b'.payments = b.payments ∧ b'.schedule = b.schedule) : k.view b' = k.view b := by
  cases k with
  | members => rw [view, view, now, events]
  | locating =>
    obtain ⟨hcalendar, hgeocoders, hqueue⟩ := locates rfl
    rw [view, view, now, events, hcalendar, hgeocoders, hqueue]
  | payments =>
    obtain ⟨hpayments, hschedule⟩ := settles rfl
    rw [view, view, now, events, hpayments, hschedule]

/-! ## Changes from outside -/

theorem view_setTime (k : Subsystem) (b : Backend) (now : Nat) :
    k.view { b with now } = { k.view b with now } := by
  cases k <;> rfl

/-- A change of the stored events looks alike to all who see alike, if it does so for each event. -/
theorem view_onEvents {f : EventStore → EventStore} (b : Backend)
    (seen : k.events (f (k.events b.events)) = k.events (f b.events)) :
    k.view ((k.view b).onEvents f) = k.view (b.onEvents f) := by
  cases k <;> simp only [view, Backend.onEvents, seen]

theorem events_insert_events (s : EventStore) (e : StoredEvent) :
    k.events ((k.events s).insert e) = k.events (s.insert e) := by
  have hsame := events_events k s
  simp only [events, EventStore.mk.injEq] at hsame
  simp only [events, EventStore.insert, List.map_append, hsame]

theorem events_fail_events (s : EventStore) (c : EventCall) (n : Nat) :
    k.events ((k.events s).fail c n) = k.events (s.fail c n) := by
  have hsame := events_events k s
  have hfaults : k.faults ((k.faults s.faults).set c n) = k.faults (s.faults.set c n) := by
    simp only [faults, Faults.set, Faults.mk.injEq]
    funext d
    by_cases h : d.subsystem = k
    · simp only [if_pos h]
    · simp only [if_neg h]
  simp only [events, EventStore.mk.injEq] at hsame
  simp only [events, EventStore.fail, hsame, hfaults]

theorem events_setRivals_events (s : EventStore) (n : Nat) :
    k.events { k.events s with rivals := n } = k.events { s with rivals := n } := by
  have hsame := events_events k s
  simp only [events, EventStore.mk.injEq] at hsame
  simp only [events, hsame]

theorem events_modify_events (s : EventStore) (id : EventId) {f : StoredEvent → StoredEvent}
    (seen : ∀ e, k.event (f (k.event e)) = k.event (f e)) :
    k.events ((k.events s).modify id f) = k.events (s.modify id f) := by
  rw [events_modify id (g := fun e => k.event (f e)) fun e => (seen e).symm,
    events_modify id (g := fun e => k.event (f e)) fun e => (seen e).symm, events_events]

/-- A change from outside shows a subsystem the same, whether it is made to the state or to the view. -/
theorem view_change (k : Subsystem) (b : Backend) (c : Change) :
    k.view ((k.view b).change c) = k.view (b.change c) := by
  cases c with
  | addEvent e => exact view_onEvents b (events_insert_events b.events e)
  | setCapacity event capacity =>
    exact view_onEvents b (events_modify_events b.events event fun e => by cases k <;> rfl)
  | endEvent event time =>
    exact view_onEvents b (events_modify_events b.events event fun e => by cases k <;> rfl)
  | deleteEvent event =>
    exact view_onEvents b (events_modify_events b.events event fun e => by cases k <;> rfl)
  | delayRecheck event time =>
    exact view_onEvents b (events_modify_events b.events event fun e => by cases k <;> rfl)
  | failEvents call n => exact view_onEvents b (events_fail_events b.events call n)
  | setRivals n => exact view_onEvents b (events_setRivals_events b.events n)
  | addPayment | setStatus | failPayments | extendPrimary | extendSecondary | delayPrimary | delaySecondary
  | setCalendar =>
    cases k <;>
      simp [view, Backend.change, Backend.onPayments, Backend.onPrimary, Backend.onSecondary]

/-! ## Own steps -/

/-- Two answers with the states after them that a subsystem cannot tell apart. -/
structure Same {α : Type} (k : Subsystem) (r r' : α × Backend) : Prop where
  answer : r'.1 = r.1
  view : k.view r'.2 = k.view r.2

variable {α : Type}

theorem Same.map {β : Type} (f : α → β) {r r' : α × Backend} (h : k.Same r r') :
    k.Same (f r.1, r.2) (f r'.1, r'.2) :=
  ⟨congrArg f h.answer, h.view⟩

theorem Same.rested (a : α) (b : Backend) : k.Same (a, b) (a, k.view b) := ⟨rfl, view_view k b⟩

/-! ### Members -/

theorem loadMembership_view (b : Backend) (event : EventId) : (members.view b).loadMembership event =
    ((b.loadMembership event).1, members.view (b.loadMembership event).2) := by
  rw [Backend.loadMembership, Backend.loadMembership, events_view, events_loadMembership]
  rfl

theorem writeBack_view (b : Backend) (w : Wish) (attempt : Nat) (loaded : LoadedMembership) :
    members.Same (b.writeBack w attempt loaded) ((members.view b).writeBack w attempt loaded) := by
  rw [Backend.writeBack, Backend.writeBack]
  cases w.updated loaded with
  | error e => exact .rested _ _
  | ok m =>
    simp only [events_view, events_persistMembership]
    obtain ⟨answer, events⟩ := b.events.persistMembership m
    cases answer with
    | error e => exact ⟨rfl, by simp [view]⟩
    | ok written => cases written <;> exact ⟨rfl, by simp [view, Backend.record]⟩

theorem subscription_view (b : Backend) (w : Wish) (lag : Nat) (s : Subscription) :
    members.Same (s.step b w lag) (s.step (members.view b) w lag) := by
  cases s with
  | waiting timer => exact .rested _ _
  | loading attempt =>
    simp only [Subscription.step, loadMembership_view, now_view]
    exact .rested _ _
  | loaded attempt answer timer =>
    have hsame := writeBack_view b w attempt answer
    simp only [Subscription.step]
    generalize b.writeBack w attempt answer = r at hsame
    generalize (members.view b).writeBack w attempt answer = r' at hsame
    obtain ⟨result, b₁⟩ := r
    obtain ⟨result', b₂⟩ := r'
    obtain rfl : result' = result := hsame.answer
    cases result' with
    | some result => exact ⟨rfl, hsame.view⟩
    | none =>
      dsimp only
      split <;> exact ⟨rfl, hsame.view⟩
  | finished result => exact .rested _ _

/-! ### Locating -/

theorem loadMissing_view (b : Backend) :
    (locating.view b).loadMissing = (b.loadMissing.1, locating.view b.loadMissing.2) := by
  have hcalendar : (locating.view b).calendar = b.calendar := rfl
  rw [Backend.loadMissing, Backend.loadMissing, events_view, hcalendar, events_findMissing]
  rfl

theorem loadLocation_view (b : Backend) (event : EventId) : (locating.view b).loadLocation event =
    ((b.loadLocation event).1, locating.view (b.loadLocation event).2) := by
  rw [Backend.loadLocation, Backend.loadLocation, events_view, events_findLocation]
  rfl

theorem observe_view (b : Backend) (l : EventLocation) :
    (locating.view b).observe l = ((b.observe l).1, locating.view (b.observe l).2) :=
  rfl

theorem sweep_view (b : Backend) (s : Sweep) : locating.Same (s.step b) (s.step (locating.view b)) := by
  cases s with
  | starting =>
    simp only [Sweep.step, loadMissing_view]
    obtain ⟨answer, b'⟩ := b.loadMissing
    cases answer <;> exact .rested _ _
  | observing missing queued =>
    cases missing with
    | nil => exact .rested _ _
    | cons l ls =>
      simp only [Sweep.step, observe_view]
      exact .rested _ _
  | finished result => exact .rested _ _

theorem reading_view (b : Backend) (event : EventId) (s : Reading) :
    locating.Same (s.step b event) (s.step (locating.view b) event) := by
  cases s with
  | starting =>
    simp only [Reading.step, loadLocation_view]
    exact .rested _ _
  | observing answer =>
    rcases answer with e | l
    · exact .rested _ _
    · cases l with
      | none => exact .rested _ _
      | some l => exact .rested _ (b.observe l).2
  | finished answer => exact .rested _ _

theorem stepLookup_view (b : Backend) (address : String) (caller : Caller) (l : Lookup) :
    locating.Same (b.stepLookup address caller l) ((locating.view b).stepLookup address caller l) :=
  ⟨rfl, by simp [Backend.stepLookup, Backend.record, view]⟩

theorem writePoint_view (b : Backend) (task : LookupTask) (c : Coordinates) :
    locating.Same (b.writePoint task c) ((locating.view b).writePoint task c) := by
  simp only [Backend.writePoint, events_view, events_setCoordinates]
  obtain ⟨answer, events⟩ := b.events.setCoordinates task.event c
  cases answer <;> exact ⟨rfl, by simp [view, Backend.record]⟩

theorem pass_view (b : Backend) (p : Pass) : locating.Same (p.step b) (p.step (locating.view b)) := by
  cases p with
  | starting =>
    have htake : (locating.view b).takeTask? = b.takeTask?.map fun r => (r.1, locating.view r.2) := by
      simp only [Backend.takeTask?, Option.map_map]
      rfl
    simp only [Pass.step, htake]
    cases b.takeTask? with
    | none => exact .rested _ _
    | some r => exact .rested _ _
  | resolving task lookup =>
    cases lookup with
    | finished result =>
      cases result <;> exact ⟨rfl, by simp [Pass.step, Backend.noteLookupFailure, Backend.record, view]⟩
    | starting => exact (stepLookup_view b task.address .refresh .starting).map (Pass.resolving task)
    | primaryAsked answer timer =>
      exact (stepLookup_view b task.address .refresh (.primaryAsked answer timer)).map (Pass.resolving task)
    | secondaryAsked e answer timer =>
      exact (stepLookup_view b task.address .refresh (.secondaryAsked e answer timer)).map (Pass.resolving task)
  | writing task c =>
    have hsame := writePoint_view b task c
    simp only [Pass.step]
    generalize b.writePoint task c = r at hsame
    generalize (locating.view b).writePoint task c = r' at hsame
    obtain ⟨written, b₁⟩ := r
    obtain ⟨written', b₂⟩ := r'
    obtain rfl : written' = written := hsame.answer
    cases written' <;> exact ⟨rfl, hsame.view⟩
  | untracking task c => exact ⟨rfl, by simp [Pass.step, Backend.untrack, view]⟩
  | requeueing task => exact ⟨rfl, by simp [Pass.step, Backend.requeue, view]⟩
  | finished outcome => exact .rested _ _

theorem worker_view (b : Backend) (w : Worker) (goOn : Bool) :
    locating.Same (w.step b goOn) (w.step (locating.view b) goOn) := by
  obtain ⟨kind, period, isCancelled, stage, task⟩ := w
  cases stage with
  | starting => exact ⟨rfl, by simp [Worker.step, Worker.start, Backend.record, view]⟩
  | waiting timer =>
    simp only [Worker.step, now_view]
    split
    · exact ⟨rfl, by simp [Worker.stop, Backend.record, view]⟩
    · exact .rested _ _
  | busy next round =>
    simp only [Worker.step]
    split
    · exact ⟨rfl, by simp [Backend.record, view]⟩
    · cases round with
      | sweep s => exact (sweep_view b s).map fun s => Worker.mk kind period isCancelled (.busy next (.sweep s)) task
      | pass p => exact (pass_view b p).map fun p => Worker.mk kind period isCancelled (.busy next (.pass p)) task
  | ended ending => exact .rested _ _

/-! ### Payments -/

theorem query_view (b : Backend) (payment : PaymentId) :
    payments.Same (b.query payment) ((payments.view b).query payment) :=
  ⟨rfl, by simp [Backend.query, Backend.record, view]⟩

theorem status_view (b : Backend) (payment : PaymentId) (s : StatusQuery) :
    (s.step (payments.view b) payment).1 = (s.step b payment).1 ∧
      payments.Same (s.step b payment).2 (s.step (payments.view b) payment).2 := by
  cases s with
  | starting =>
    have hpayments : (payments.view b).payments = b.payments := rfl
    simp only [StatusQuery.step, Backend.loadStatus, hpayments]
    obtain ⟨answer, store⟩ := b.payments.find payment
    cases answer <;> exact ⟨rfl, rfl, by simp [view]⟩
  | asking answer =>
    have hsame : payments.Same (b.querySeen payment answer) ((payments.view b).querySeen payment answer) := by
      unfold Backend.querySeen
      split
      · exact query_view b payment
      · exact .rested _ _
      · exact .rested _ _
    exact ⟨congrArg (StatusQuery.finished answer) hsame.answer, hsame⟩
  | finished answer scheduled => exact ⟨rfl, .rested _ _⟩

theorem settlement_view (b : Backend) (payment : PaymentId) (goOn : Bool) (s : Settlement) :
    payments.Same (s.step b payment goOn) (s.step (payments.view b) payment goOn) := by
  cases s with
  | starting => exact .rested _ _
  | waiting timer =>
    have habandoned : (payments.view b).schedule.isAbandoned = b.schedule.isAbandoned := rfl
    simp only [Settlement.step, now_view, habandoned]
    split
    · exact ⟨rfl, by simp [Settlement.finish, Backend.record, view]⟩
    · exact .rested _ _
  | marking =>
    have hpayments : (payments.view b).payments = b.payments := rfl
    simp only [Settlement.step, Settlement.mark, hpayments]
    obtain ⟨answer, store⟩ := b.payments.updateStatus payment .paid
    cases answer <;> exact ⟨rfl, by simp [Settlement.finish, Backend.record, view]⟩
  | reloading =>
    have hpayments : (payments.view b).payments = b.payments := rfl
    simp only [Settlement.step, Settlement.reload, hpayments]
    obtain ⟨answer, store⟩ := b.payments.find payment
    rcases answer with e | p
    · exact ⟨rfl, by simp [Settlement.finish, Backend.record, view]⟩
    · cases p <;> exact ⟨rfl, by simp [Settlement.finish, Backend.record, view]⟩
  | recording p =>
    simp only [Settlement.step, Settlement.recordPaid, events_view, events_addPaid]
    obtain ⟨answer, events⟩ := b.events.addPaid p.event p.member
    cases answer <;> exact ⟨rfl, by simp [Settlement.finish, Backend.record, view]⟩
  | finished outcome => exact .rested _ _

theorem shutdown_view (b : Backend) (mode : ShutdownMode) (s : Shutdown) :
    payments.Same (s.step b mode) (s.step (payments.view b) mode) := by
  cases s with
  | starting => exact ⟨rfl, by simp [Shutdown.step, Backend.record, view]⟩
  | waiting | finished => exact .rested _ _

end Subsystem

/-! ## Tasks -/

namespace Task

open Subsystem

variable {k j : Subsystem} {t : Task}

/-- Whether a task can go on is seen by its subsystem. -/
theorem isReady_view (own : t.subsystem? = some k) (b : Backend) : t.isReady (k.view b) = t.isReady b := by
  have hinterrupted : t.isInterrupted (k.view b) = t.isInterrupted b := by
    cases t with
    | settlement payment stage =>
      cases own
      cases stage <;> rfl
    | _ => rfl
  have hawaits : (!t.awaitsSettlements || decide ((k.view b).schedule.inFlight = 0)) =
      (!t.awaitsSettlements || decide (b.schedule.inFlight = 0)) := by
    cases t with
    | shutdown mode stage =>
      cases own
      rfl
    | closing crew mode stage => cases own
    | _ => rfl
  rw [isReady, isReady, hinterrupted, hawaits, now_view]

/-- A step of a subsystem's own task comes to the same on what it sees. -/
theorem step_view (own : t.subsystem? = some k) (b : Backend) (goOn : Bool) :
    (t.step (k.view b) goOn).1 = (t.step b goOn).1 ∧
      (t.step (k.view b) goOn).2.2 = (t.step b goOn).2.2 ∧
      k.view (t.step (k.view b) goOn).2.1 = k.view (t.step b goOn).2.1 := by
  -- a step that begins no settlement
  have silent : ∀ {α : Type} {r r' : α × Backend} (f : α → Task), k.Same r r' →
      f r'.1 = f r.1 ∧ false = false ∧ k.view r'.2 = k.view r.2 :=
    fun f h => ⟨congrArg f h.answer, rfl, h.view⟩
  cases t with
  | mark event address recheckAfter answer =>
    cases own
    cases answer with
    | none =>
      exact silent (fun queued => mark event address recheckAfter (some queued))
        (Same.rested _ (b.mark event address recheckAfter).2)
    | some answer => exact silent (fun t => t) (Same.rested _ b)
  | observe location answer =>
    cases own
    cases answer with
    | none => exact silent (fun queued => observe location (some queued)) (Same.rested _ (b.observe location).2)
    | some answer => exact silent (fun t => t) (Same.rested _ b)
  | sweep stage =>
    cases own
    exact silent sweep (sweep_view b stage)
  | reading event stage =>
    cases own
    exact silent (reading event) (reading_view b event stage)
  | pass stage =>
    cases own
    exact silent pass (pass_view b stage)
  | lookup address caller stage =>
    cases own
    exact silent (lookup address caller) (stepLookup_view b address caller stage)
  | subscription wish lag stage =>
    cases own
    exact silent (subscription wish lag) (subscription_view b wish lag stage)
  | query payment answer =>
    cases own
    cases answer with
    | none =>
      have hsame := query_view b payment
      exact ⟨congrArg (fun scheduled => query payment (some scheduled)) hsame.answer, hsame.answer, hsame.view⟩
    | some answer => exact silent (fun t => t) (Same.rested _ b)
  | status payment stage =>
    cases own
    obtain ⟨hstage, hsame⟩ := status_view b payment stage
    exact ⟨congrArg (status payment) hstage, hsame.answer, hsame.view⟩
  | settlement payment stage =>
    cases own
    exact silent (settlement payment) (settlement_view b payment goOn stage)
  | worker w =>
    cases own
    exact silent worker (worker_view b w goOn)
  | shutdown mode stage =>
    cases own
    exact silent (shutdown mode) (shutdown_view b mode stage)
  | closing crew mode stage => cases own

/-- A step of another subsystem's task is not seen. -/
theorem step_unseen (others : t.subsystem? = some j) (other : k ≠ j) (b : Backend) (goOn : Bool) :
    k.view (t.step b goOn).2.1 = k.view b := by
  -- what steps of each subsystem touch, by their footprints
  have locates : j = locating → ∀ {b' : Backend},
      (∃ events geocoders queue log, b' = { b with events, geocoders, queue, log }) →
        b.events.Calls .locating b'.events → k.view b' = k.view b := by
    rintro rfl b' ⟨events, geocoders, queue, log, rfl⟩ hcalls
    exact view_congr rfl (hcalls.unseen other) (fun hk => absurd hk other) fun _ => ⟨rfl, rfl⟩
  have settles : j = payments → ∀ {b' : Backend},
      (∃ events payments schedule log, b' = { b with events, payments, schedule, log }) →
        k.events b'.events = k.events b.events → k.view b' = k.view b := by
    rintro rfl b' ⟨events, payments, schedule, log, rfl⟩ hevents
    exact view_congr rfl hevents (fun _ => ⟨rfl, rfl, rfl⟩) fun hk => absurd hk other
  cases t with
  | mark event address recheckAfter answer =>
    cases others
    cases answer <;> exact locates rfl ⟨_, _, _, _, rfl⟩ (.rested _)
  | observe location answer =>
    cases others
    cases answer <;> exact locates rfl ⟨_, _, _, _, rfl⟩ (.rested _)
  | sweep stage =>
    cases others
    obtain ⟨events, queue, h⟩ := stage.step_footprint b
    exact locates rfl ⟨_, _, _, _, h⟩ (stage.step_calls b)
  | reading event stage =>
    cases others
    obtain ⟨events, queue, h⟩ := stage.step_footprint b event
    exact locates rfl ⟨_, _, _, _, h⟩ (stage.step_calls b event)
  | pass stage =>
    cases others
    exact locates rfl (stage.step_footprint b) (stage.step_calls b)
  | lookup address caller stage =>
    cases others
    exact locates rfl ⟨_, _, _, _, rfl⟩ (.rested _)
  | worker w =>
    cases others
    exact locates rfl (w.step_footprint b goOn) (w.step_calls b goOn)
  | subscription wish lag stage =>
    cases others
    obtain ⟨events, log, h⟩ := stage.step_footprint b wish lag
    have hcalls := stage.step_calls b wish lag
    rw [h] at hcalls
    show k.view (stage.step b wish lag).2 = k.view b
    rw [h]
    exact view_congr rfl (hcalls.unseen other) (fun _ => ⟨rfl, rfl, rfl⟩) fun _ => ⟨rfl, rfl⟩
  | query payment answer =>
    cases others
    cases answer <;> exact settles rfl ⟨_, _, _, _, rfl⟩ rfl
  | status payment stage =>
    cases others
    obtain ⟨payments, schedule, log, h⟩ := stage.step_footprint b payment
    refine settles rfl ⟨b.events, payments, schedule, log, h⟩ ?_
    show k.events (stage.step b payment).2.2.events = k.events b.events
    rw [h]
  | settlement payment stage =>
    cases others
    refine settles rfl (stage.step_footprint b payment goOn) ?_
    obtain h | ⟨p, -, h⟩ := stage.step_calls b payment goOn
    · exact congrArg k.events h
    · exact (congrArg k.events h).trans (unseen_addPaid other p.event p.member)
  | shutdown mode stage =>
    cases others
    obtain ⟨schedule, log, h⟩ := stage.step_footprint b mode
    refine settles rfl ⟨b.events, b.payments, schedule, log, h⟩ ?_
    show k.events (stage.step b mode).2.events = k.events b.events
    rw [h]
  | closing crew mode stage => cases others

end Task

end Matchday

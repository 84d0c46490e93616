import Matchday.Proofs.Locating.Completion
import Matchday.Proofs.Locating.Queue
import Matchday.Proofs.Store.Events

/-!
What one sweep is good for. After it every stored event whose point is missing and whose recheck time has
come is tracked, and no pass changes that: an event is untracked only when its point has been written. So
as long as the calendar passes no recheck time and no end of an event, every further sweep queues nothing.

Passes and sweeps read the queue, the store of events and the geocoders; the calendar decides only which stored
times have come. So they come to the same in states that are alike in these.

Main statements: `Backend.Swept.sweep_eq`, `Sweep.finish_alike`.
-/

namespace Matchday
set_option autoImplicit false

/-! ## Alike states -/

namespace Backend

/-- Two states with the same queue, store of events and geocoders. -/
structure Alike (b b' : Backend) : Prop where
  queue : b'.queue = b.queue
  events : b'.events = b.events
  geocoders : b'.geocoders = b.geocoders

variable {b b' b'' : Backend}

theorem Alike.refl (b : Backend) : b.Alike b := ⟨rfl, rfl, rfl⟩

theorem Alike.trans (h : b.Alike b') (h' : b'.Alike b'') : b.Alike b'' :=
  ⟨h'.queue.trans h.queue, h'.events.trans h.events, h'.geocoders.trans h.geocoders⟩

theorem Alike.conclude (h : b.Alike b') (task : LookupTask) (resolution : Resolution) :
    (b.conclude task resolution).2.Alike (b'.conclude task resolution).2 := by
  cases resolution with
  | error e =>
    refine ⟨?_, h.events, h.geocoders⟩
    show b'.queue.requeue task = b.queue.requeue task
    rw [h.queue]
  | ok c =>
    simp only [Backend.conclude, writePoint, h.events]
    obtain ⟨answer, events⟩ := b.events.setCoordinates task.event c
    cases answer with
    | ok done =>
      refine ⟨?_, rfl, h.geocoders⟩
      show b'.queue.untrack task.event = b.queue.untrack task.event
      rw [h.queue]
    | error e =>
      refine ⟨?_, rfl, h.geocoders⟩
      show b'.queue.requeue task = b.queue.requeue task
      rw [h.queue]

theorem Alike.concludeLookup (h : b.Alike b') (task : LookupTask) (l : Lookup) :
    (b.concludeLookup task l).2.Alike (b'.concludeLookup task l).2 := by
  simp only [Backend.concludeLookup, h.geocoders]
  obtain ⟨resolution, geocoders, entries⟩ := l.finish task.address .refresh b.geocoders
  have hsame : ({ b with geocoders }.record entries).Alike ({ b' with geocoders }.record entries) :=
    ⟨h.queue, h.events, rfl⟩
  exact hsame.conclude task resolution

theorem Alike.processNext (h : b.Alike b') : b.processNext.2.Alike b'.processNext.2 := by
  rw [processNext_eq, processNext_eq, takeTask?, takeTask?, h.queue]
  cases b.queue.pop? with
  | none => exact h
  | some taken =>
    obtain ⟨task, queue⟩ := taken
    have hsame : Alike { b with queue } { b' with queue } := ⟨rfl, h.events, h.geocoders⟩
    exact hsame.concludeLookup task .starting

theorem Alike.finish_pass (h : b.Alike b') (p : Pass) : (p.finish b).2.Alike (p.finish b').2 := by
  cases p with
  | starting => exact h.processNext
  | resolving task lookup => exact h.concludeLookup task lookup
  | writing task c => exact h.conclude task (.ok c)
  | untracking task c =>
    refine ⟨?_, h.events, h.geocoders⟩
    show b'.queue.untrack task.event = b.queue.untrack task.event
    rw [h.queue]
  | requeueing task =>
    refine ⟨?_, h.events, h.geocoders⟩
    show b'.queue.requeue task = b.queue.requeue task
    rw [h.queue]
  | finished outcome => exact h

end Backend

/-! ## Stored times -/

namespace EventStore

/-- The recheck time of each event, and its end. -/
def times (s : EventStore) : List (Instant × Option Instant) :=
  s.events.map fun e => (e.location.recheckAfter, e.endsAt)

/-- Whether two instants are on the same side of every recheck time and every end of an event. -/
def agrees (s : EventStore) (t t' : Instant) : Bool :=
  s.times.all fun p => t'.before p.1 = t.before p.1 &&
    (p.2.any fun ending => !t'.before ending) = p.2.any fun ending => !t.before ending

variable {s : EventStore} {t t' t'' : Instant}

theorem agrees_iff : s.agrees t t' = true ↔ ∀ p ∈ s.times, t'.before p.1 = t.before p.1 ∧
    (p.2.any fun ending => !t'.before ending) = p.2.any fun ending => !t.before ending := by
  simp only [agrees, List.all_eq_true, Bool.and_eq_true, decide_eq_true_eq]

theorem agrees_refl (s : EventStore) (t : Instant) : s.agrees t t = true :=
  agrees_iff.2 fun _ _ => ⟨rfl, rfl⟩

theorem agrees_of_agrees (h : s.agrees t t' = true) (h' : s.agrees t t'' = true) : s.agrees t' t'' = true := by
  rw [agrees_iff] at h h' ⊢
  intro p hp
  exact ⟨(h' p hp).1.trans (h p hp).1.symm, (h' p hp).2.trans (h p hp).2.symm⟩

theorem agrees_congr {s' : EventStore} (h : s'.times = s.times) : s'.agrees t t' = s.agrees t t' := by
  rw [agrees, agrees, h]

theorem isMissing_of_agrees (h : s.agrees t t' = true) {e : StoredEvent} (mem : e ∈ s.events) :
    e.isMissing t' = e.isMissing t := by
  have hends := (agrees_iff.1 h _ (List.mem_map_of_mem mem)).2
  rw [StoredEvent.isMissing, StoredEvent.isMissing, StoredEvent.hasEnded, StoredEvent.hasEnded, hends]

/-- Writing a point changes no stored time, and neither closes the store nor sets its other calls up to fail. -/
theorem setCoordinates_keeps (s : EventStore) (id : EventId) (c : Coordinates) :
    (s.setCoordinates id c).2.times = s.times ∧ (s.setCoordinates id c).2.isClosed = s.isClosed ∧
      (s.setCoordinates id c).2.faults.left .findMissing = s.faults.left .findMissing := by
  rw [setCoordinates, call]
  split
  · exact ⟨rfl, rfl, rfl⟩
  · split
    · refine ⟨rfl, rfl, ?_⟩
      simp [Faults.spend, Faults.set]
    · split
      · refine ⟨?_, rfl, rfl⟩
        exact s.modify_map id fun _ => rfl
      · exact ⟨rfl, rfl, rfl⟩

theorem findMissing_of_agrees (h : s.agrees t t' = true) : s.findMissing t' = s.findMissing t := by
  have hfilter : s.events.filter (·.isMissing t') = s.events.filter (·.isMissing t) :=
    List.filter_congr fun e he => isMissing_of_agrees h he
  rw [findMissing, findMissing, call, call, hfilter]

/-- What is loaded has the recheck times of stored events. -/
theorem times_of_findMissing {now : Instant} {missing : List EventLocation}
    (h : (s.findMissing now).1 = .ok missing) {l : EventLocation} (mem : l ∈ missing) :
    ∃ p ∈ s.times, p.1 = l.recheckAfter := by
  obtain ⟨e, faults, heq⟩ | heq := s.call_cases .findMissing none _
  · rw [findMissing, heq] at h
    cases h
  · rw [findMissing, heq] at h
    injection h with h
    rw [← h] at mem
    obtain ⟨e, he, rfl⟩ := List.mem_map.1 mem
    exact ⟨_, List.mem_map_of_mem (List.mem_filter.1 he).1, rfl⟩

end EventStore

/-! ## Sweeps in alike states -/

namespace Backend

variable {b b' : Backend}

theorem Alike.loadMissing (h : b.Alike b') (agrees : b.events.agrees b.calendar b'.calendar = true) :
    b'.loadMissing.1 = b.loadMissing.1 ∧ b.loadMissing.2.Alike b'.loadMissing.2 := by
  have hload : b'.events.findMissing b'.calendar = b.events.findMissing b.calendar := by
    rw [h.events, EventStore.findMissing_of_agrees agrees]
  rw [Backend.loadMissing, Backend.loadMissing, hload]
  exact ⟨rfl, h.queue, rfl, h.geocoders⟩

theorem Alike.observe (h : b.Alike b') {l : EventLocation}
    (same : b'.calendar.before l.recheckAfter = b.calendar.before l.recheckAfter) :
    (b'.observe l).1 = (b.observe l).1 ∧ (b.observe l).2.Alike (b'.observe l).2 := by
  have haccepts : b.queue.accepts l.id l.recheckAfter b'.calendar =
      b.queue.accepts l.id l.recheckAfter b.calendar := by
    rw [LookupQueue.accepts, LookupQueue.accepts, same]
  have hobserve : b'.queue.observe l b'.calendar = b.queue.observe l b.calendar := by
    rw [h.queue, LookupQueue.observe, LookupQueue.observe, LookupQueue.mark, LookupQueue.mark, haccepts]
  rw [Backend.observe, Backend.observe, hobserve]
  exact ⟨rfl, rfl, h.events, h.geocoders⟩

theorem Alike.observeAll (h : b.Alike b') {ls : List EventLocation}
    (same : ∀ l ∈ ls, b'.calendar.before l.recheckAfter = b.calendar.before l.recheckAfter) :
    (b'.observeAll ls).1 = (b.observeAll ls).1 ∧ (b.observeAll ls).2.Alike (b'.observeAll ls).2 := by
  induction ls generalizing b b' with
  | nil => exact ⟨rfl, h⟩
  | cons l ls ih =>
    obtain ⟨hqueued, halike⟩ := h.observe (same l List.mem_cons_self)
    obtain ⟨hrest, halike'⟩ := ih halike fun other hother => same other (List.mem_cons_of_mem _ hother)
    refine ⟨?_, halike'⟩
    show (b'.observe l).1.toNat + ((b'.observe l).2.observeAll ls).1 =
      (b.observe l).1.toNat + ((b.observe l).2.observeAll ls).1
    rw [hqueued, hrest]

end Backend

/-- The locations at which a sweep is still to look. -/
def Sweep.locations : Sweep → List EventLocation
  | observing missing _ => missing
  | starting | finished _ => []

/-- What is left of a sweep comes to the same in states that are alike. -/
theorem Sweep.finish_alike {b b' : Backend} (h : b.Alike b')
    (agrees : b.events.agrees b.calendar b'.calendar = true) {s : Sweep}
    (stored : ∀ l ∈ s.locations, ∃ p ∈ b.events.times, p.1 = l.recheckAfter) :
    (s.finish b').1 = (s.finish b).1 ∧ (s.finish b).2.Alike (s.finish b').2 := by
  have same : ∀ ls : List EventLocation, (∀ l ∈ ls, ∃ p ∈ b.events.times, p.1 = l.recheckAfter) →
      ∀ l ∈ ls, b'.calendar.before l.recheckAfter = b.calendar.before l.recheckAfter := by
    intro ls hls l hl
    obtain ⟨p, hp, heq⟩ := hls l hl
    rw [← heq]
    exact (EventStore.agrees_iff.1 agrees p hp).1
  cases s with
  | starting =>
    obtain ⟨hanswer, halike⟩ := h.loadMissing agrees
    have hcalendar : b.loadMissing.2.calendar = b.calendar := rfl
    have hcalendar' : b'.loadMissing.2.calendar = b'.calendar := rfl
    have hstored : ∀ missing, b.loadMissing.1 = .ok missing →
        ∀ l ∈ missing, ∃ p ∈ b.events.times, p.1 = l.recheckAfter :=
      fun missing hmissing l hl => EventStore.times_of_findMissing hmissing hl
    rw [finish, finish, Backend.sweep, Backend.sweep]
    generalize b.loadMissing = loaded at hanswer halike hcalendar hstored
    generalize b'.loadMissing = loaded' at hanswer halike hcalendar'
    obtain ⟨answer, b₁⟩ := loaded
    obtain ⟨answer', b₁'⟩ := loaded'
    obtain rfl : answer' = answer := hanswer
    cases answer' with
    | error e => exact ⟨rfl, halike⟩
    | ok missing =>
      have hsame : ∀ l ∈ missing, b₁'.calendar.before l.recheckAfter = b₁.calendar.before l.recheckAfter := by
        intro l hl
        rw [hcalendar, hcalendar']
        exact same missing (hstored missing rfl) l hl
      obtain ⟨hrest, halike'⟩ := Backend.Alike.observeAll halike hsame
      exact ⟨congrArg Except.ok hrest, halike'⟩
  | observing missing queued =>
    obtain ⟨hrest, halike⟩ := h.observeAll (same missing stored)
    exact ⟨congrArg (fun rest => Except.ok (queued + rest)) hrest, halike⟩
  | finished result => exact ⟨rfl, h⟩

/-! ## Covered events -/

namespace Backend

variable {b : Backend}

/-- A state whose store lists its events, of which all that lack their point at their recheck time are tracked. -/
structure Swept (b : Backend) : Prop where
  isOpen : b.events.isClosed = false
  loads : b.events.faults.left .findMissing = 0
  covers : ∀ e ∈ b.events.events, e.isMissing b.calendar = true →
    b.calendar.before e.location.recheckAfter = false → e.id ∈ b.queue.tracked

theorem loadMissing_eq (isOpen : b.events.isClosed = false) (loads : b.events.faults.left .findMissing = 0) :
    b.loadMissing = (.ok ((b.events.events.filter (·.isMissing b.calendar)).map (·.location)), b) := by
  rw [loadMissing, EventStore.findMissing, EventStore.call_of_left_zero isOpen loads]

theorem observe_of_refused {l : EventLocation}
    (refused : b.calendar.before l.recheckAfter = false → l.id ∈ b.queue.tracked) :
    b.observe l = (false, b) := by
  have hrefused : b.queue.accepts l.id l.recheckAfter b.calendar = false := by
    rw [LookupQueue.accepts]
    cases hearly : b.calendar.before l.recheckAfter with
    | true => rfl
    | false => rw [LookupQueue.isTracked_iff.2 (refused hearly)]; rfl
  have hobserve : b.queue.observe l b.calendar = (false, b.queue) := by
    rw [LookupQueue.observe, LookupQueue.mark, hrefused]
    split <;> rfl
  rw [observe, hobserve]

theorem observeAll_of_refused {ls : List EventLocation}
    (refused : ∀ l ∈ ls, b.calendar.before l.recheckAfter = false → l.id ∈ b.queue.tracked) :
    b.observeAll ls = (0, b) := by
  induction ls with
  | nil => rfl
  | cons l ls ih =>
    rw [observeAll, observe_of_refused (refused l List.mem_cons_self)]
    simp only [ih fun other hother => refused other (List.mem_cons_of_mem _ hother)]
    rfl

/-- A further sweep does nothing. -/
theorem Swept.sweep_eq (h : b.Swept) : b.sweep = (.ok 0, b) := by
  have hrefused : b.observeAll ((b.events.events.filter (·.isMissing b.calendar)).map (·.location)) =
      (0, b) := by
    refine observeAll_of_refused fun l hl hcome => ?_
    obtain ⟨e, he, rfl⟩ := List.mem_map.1 hl
    obtain ⟨hmem, hmissing⟩ := List.mem_filter.1 he
    exact h.covers e hmem hmissing hcome
  rw [sweep, loadMissing_eq h.isOpen h.loads]
  simp only [hrefused]

/-- Looking at some locations leaves all as it was but the queue, from which no event goes and into which all that
need their point come. -/
theorem observeAll_tracks (b : Backend) (ls : List EventLocation) :
    (∃ queue, (b.observeAll ls).2 = { b with queue }) ∧
      (∀ event ∈ b.queue.tracked, event ∈ (b.observeAll ls).2.queue.tracked) ∧
      ∀ l ∈ ls, l.needsCoordinates = true → b.calendar.before l.recheckAfter = false →
        l.id ∈ (b.observeAll ls).2.queue.tracked := by
  induction ls generalizing b with
  | nil => exact ⟨⟨b.queue, rfl⟩, fun _ h => h, fun _ h => absurd h List.not_mem_nil⟩
  | cons l ls ih =>
    obtain ⟨⟨queue, heq⟩, hkept, hnew⟩ := ih (b.observe l).2
    have hgrows : ∀ event ∈ b.queue.tracked, event ∈ (b.observe l).2.queue.tracked := by
      intro event hmem
      show event ∈ (b.queue.observe l b.calendar).2.tracked
      rw [LookupQueue.observe, LookupQueue.mark]
      split
      · split
        · exact List.mem_append_left _ hmem
        · exact hmem
      · exact hmem
    refine ⟨⟨queue, heq⟩, fun event hmem => hkept event (hgrows event hmem), fun other hother hneeds hcome => ?_⟩
    obtain rfl | hother := List.mem_cons.1 hother
    · refine hkept other.id ?_
      show other.id ∈ (b.queue.observe other b.calendar).2.tracked
      rw [LookupQueue.observe, if_pos hneeds, LookupQueue.mark]
      split
      · exact List.mem_append_right _ (List.mem_singleton_self _)
      · rename_i hrefused
        rw [LookupQueue.accepts, hcome, Bool.not_false, Bool.true_and, Bool.not_eq_true', Bool.not_eq_false]
          at hrefused
        exact LookupQueue.isTracked_iff.1 hrefused
    · exact hnew other hother hneeds hcome

/-- A sweep leaves a state in which all that lack their point at their recheck time are tracked. -/
theorem swept_sweep (isOpen : b.events.isClosed = false) (loads : b.events.faults.left .findMissing = 0) :
    b.sweep.2.Swept ∧ b.sweep.2.calendar = b.calendar := by
  have hsweep : b.sweep.2 =
      (b.observeAll ((b.events.events.filter (·.isMissing b.calendar)).map (·.location))).2 := by
    rw [sweep, loadMissing_eq isOpen loads]
  obtain ⟨⟨queue, heq⟩, -, hnew⟩ :=
    b.observeAll_tracks ((b.events.events.filter (·.isMissing b.calendar)).map (·.location))
  rw [heq] at hsweep hnew
  rw [hsweep]
  refine ⟨⟨isOpen, loads, fun e he hmissing hcome => ?_⟩, rfl⟩
  have hneeds : e.location.needsCoordinates = true := by
    rw [StoredEvent.isMissing, Bool.and_eq_true] at hmissing
    exact hmissing.2
  exact hnew e.location (List.mem_map_of_mem (List.mem_filter.2 ⟨he, hmissing⟩)) hneeds hcome

/-- An event that a pass untracks has its point. -/
theorem Swept.processNext (h : b.Swept) : b.processNext.2.Swept ∧ b.processNext.2.calendar = b.calendar := by
  cases hpending : b.queue.pending with
  | nil =>
    rw [processNext_of_nil hpending]
    exact ⟨h, rfl⟩
  | cons task others =>
    obtain ⟨hcalendar, -, hcases⟩ := processNext_cases hpending
    generalize b.processNext.2 = b' at hcalendar hcases
    refine ⟨?_, hcalendar⟩
    obtain ⟨-, hqueue, ⟨-, hevents⟩ | ⟨c, e, -, hwrite⟩⟩ | ⟨c, -, hqueue, -, hwrite⟩ := hcases
    · refine ⟨by rw [hevents]; exact h.isOpen, by rw [hevents]; exact h.loads, ?_⟩
      rw [hevents, hcalendar, hqueue]
      exact h.covers
    · have hkeeps := b.events.setCoordinates_keeps task.event c
      obtain ⟨faults, hevents⟩ := EventStore.setCoordinates_refused hwrite
      rw [hwrite] at hkeeps
      refine ⟨hkeeps.2.1.trans h.isOpen, hkeeps.2.2.trans h.loads, ?_⟩
      rw [hevents, hcalendar, hqueue]
      exact h.covers
    · have hkeeps := b.events.setCoordinates_keeps task.event c
      have hevents := EventStore.setCoordinates_written hwrite
      rw [hwrite] at hkeeps
      refine ⟨hkeeps.2.1.trans h.isOpen, hkeeps.2.2.trans h.loads, fun e he hmissing hcome => ?_⟩
      rw [hevents] at he
      obtain ⟨old, hold, rfl⟩ := List.mem_map.1 he
      rw [hcalendar] at hmissing hcome
      rw [hqueue]
      by_cases hid : old.id = task.event
      · -- the one event that is no longer tracked has its point
        rw [if_pos hid] at hmissing
        simp [StoredEvent.isMissing, EventLocation.needsCoordinates, EventLocation.coordinates?,
          EventLocation.place] at hmissing
      · rw [if_neg hid] at hmissing hcome ⊢
        exact (List.mem_erase_of_ne hid).2 (h.covers old hold hmissing hcome)

theorem Swept.passes (h : b.Swept) (k : Nat) : (b.passes k).Swept ∧ (b.passes k).calendar = b.calendar := by
  induction k with
  | zero => exact ⟨h, rfl⟩
  | succ k ih =>
    obtain ⟨hswept, hcalendar⟩ := ih
    obtain ⟨hswept', hcalendar'⟩ := hswept.processNext
    exact ⟨hswept', hcalendar'.trans hcalendar⟩

end Backend

end Matchday

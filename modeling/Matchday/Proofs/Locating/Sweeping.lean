import Matchday.Proofs.Concurrent.History
import Matchday.Proofs.Locating.Coverage

/-!
What a sweep queues, exactly. It looks at one location after the other, and each that is queued becomes tracked,
so what is queued later depends on what was queued before. Where no event is listed twice this makes no difference:
a row of locations comes to those that the queue accepts at the beginning (`Backend.observeAll_eq`, by induction on
the row).

What is due is tracked afterwards, so neither a further sweep nor the reading of an event that is not over adds
anything.

Main statement: `Backend.sweep_exact`.
-/

namespace Matchday
set_option autoImplicit false

/-! ## Rows of locations -/

namespace LookupQueue

variable {q : LookupQueue} {l other : EventLocation} {now : Instant}

/-- Whether a lookup is queued for a location at which the queue's owner looks. -/
def wants (q : LookupQueue) (now : Instant) (l : EventLocation) : Bool :=
  l.needsCoordinates && q.accepts l.id l.recheckAfter now

/-- The queue behind which lookups for a row of locations wait. -/
def enqueueAll (q : LookupQueue) (ls : List EventLocation) : LookupQueue :=
  ⟨q.pending ++ ls.map fun l => ⟨l.id, l.address, 0⟩, q.tracked ++ ls.map (·.id)⟩

theorem enqueueAll_nil (q : LookupQueue) : q.enqueueAll [] = q := by
  simp [enqueueAll]

theorem enqueueAll_cons (q : LookupQueue) (l : EventLocation) (ls : List EventLocation) :
    (q.enqueue l.id l.address).enqueueAll ls = q.enqueueAll (l :: ls) := by
  simp [enqueueAll, enqueue]

theorem observe_eq (q : LookupQueue) (l : EventLocation) (now : Instant) :
    q.observe l now = if q.wants now l then (true, q.enqueue l.id l.address) else (false, q) := by
  rw [observe, mark, wants]
  cases l.needsCoordinates <;> rfl

/-- Whether a location is wanted does not depend on whether another event has been queued. -/
theorem wants_enqueue (hne : other.id ≠ l.id) (address : String) :
    (q.enqueue l.id address).wants now other = q.wants now other := by
  have htracked : (q.enqueue l.id address).isTracked other.id = q.isTracked other.id := by
    simp [isTracked, enqueue, hne]
  rw [wants, accepts, htracked]
  rfl

end LookupQueue

namespace Backend

variable {b : Backend}

/-- Lookups are queued for those of a row of locations that are wanted at the beginning, if none is of an event
before it. -/
theorem observeAll_eq (b : Backend) {ls : List EventLocation} (distinct : (ls.map (·.id)).Nodup) :
    b.observeAll ls =
      ((ls.filter (b.queue.wants b.calendar)).length,
        { b with queue := b.queue.enqueueAll (ls.filter (b.queue.wants b.calendar)) }) := by
  induction ls generalizing b with
  | nil =>
    rw [List.filter_nil, LookupQueue.enqueueAll_nil]
    rfl
  | cons l ls ih =>
    rw [List.map_cons, List.nodup_cons] at distinct
    obtain ⟨hfresh, hdistinct⟩ := distinct
    have hobserve : b.observe l = (b.queue.wants b.calendar l, { b with
        queue := if b.queue.wants b.calendar l then b.queue.enqueue l.id l.address else b.queue }) := by
      rw [observe, LookupQueue.observe_eq]
      cases b.queue.wants b.calendar l <;> rfl
    rw [observeAll, hobserve]
    cases hwants : b.queue.wants b.calendar l with
    | false =>
      have hrest : b.observeAll ls = _ := ih b hdistinct
      rw [List.filter_cons_of_neg (by simp [hwants])]
      simp only [Bool.false_eq_true, if_false, hrest, Bool.toNat_false, Nat.zero_add]
    | true =>
      -- the others are of other events, so they are wanted as before
      have hsame : ls.filter ((b.queue.enqueue l.id l.address).wants b.calendar) =
          ls.filter (b.queue.wants b.calendar) := by
        refine List.filter_congr fun other hother => LookupQueue.wants_enqueue (fun hid => hfresh ?_) _
        rw [← hid]
        exact List.mem_map_of_mem hother
      have hrest := ih { b with queue := b.queue.enqueue l.id l.address } hdistinct
      rw [hsame] at hrest
      rw [List.filter_cons_of_pos hwants]
      simp only [if_true, hrest, Bool.toNat_true, LookupQueue.enqueueAll_cons, List.length_cons, Nat.add_comm]

end Backend

/-! ## What is due -/

/-- Whether an event is neither deleted nor over, lacks a number of its point, and may be looked up again. -/
def StoredEvent.isDue (e : StoredEvent) (now : Instant) : Bool :=
  !e.deleted && !e.hasEnded now && (e.location.latitude.isNone || e.location.longitude.isNone) &&
    !now.before e.location.recheckAfter

theorem EventLocation.needsCoordinates_eq (l : EventLocation) :
    l.needsCoordinates = (l.latitude.isNone || l.longitude.isNone) := by
  rw [needsCoordinates, coordinates?]
  cases l.latitude <;> cases l.longitude <;> rfl

theorem StoredEvent.isDue_eq (e : StoredEvent) (now : Instant) :
    e.isDue now = (e.isMissing now && !now.before e.location.recheckAfter) := by
  rw [isDue, isMissing, EventLocation.needsCoordinates_eq]

namespace Backend

variable {b : Backend} {event : EventId}

/-- The stored events for which a sweep queues lookups. -/
def due (b : Backend) : List StoredEvent :=
  b.events.events.filter fun e => e.isDue b.calendar && !b.queue.isTracked e.id

/-- The state after a sweep: lookups for what was due wait behind the others. -/
def swept (b : Backend) : Backend :=
  { b with queue :=
      ⟨b.queue.pending ++ b.due.map fun e => ⟨e.id, e.location.address, 0⟩,
        b.queue.tracked ++ b.due.map (·.id)⟩ }

/-- A load that fails leaves all as it was. -/
theorem sweep_of_isClosed (isClosed : b.events.isClosed = true) :
    b.sweep = (.error (.unavailable .findMissing none), b) := by
  rw [sweep, loadMissing, EventStore.findMissing, EventStore.call_of_isClosed isClosed]

theorem sweep_of_left_pos (isOpen : b.events.isClosed = false) (fails : 0 < b.events.faults.left .findMissing) :
    b.sweep = (.error (.simulated .findMissing),
      { b with events := { b.events with faults := b.events.faults.spend .findMissing } }) := by
  rw [sweep, loadMissing, EventStore.findMissing, EventStore.call_of_left_pos isOpen fails]

theorem sweep_eq (isOpen : b.events.isClosed = false) (loads : b.events.faults.left .findMissing = 0)
    (distinct : (b.events.events.map (·.id)).Nodup) : b.sweep = (.ok b.due.length, b.swept) := by
  have hids : (((b.events.events.filter (·.isMissing b.calendar)).map (·.location)).map (·.id)).Nodup := by
    rw [List.map_map]
    exact distinct.sublist (List.filter_sublist.map _)
  have hwanted : ((b.events.events.filter (·.isMissing b.calendar)).map (·.location)).filter
      (b.queue.wants b.calendar) = b.due.map (·.location) := by
    rw [List.filter_map, List.filter_filter, due]
    congr 1
    refine List.filter_congr fun e _ => ?_
    show (b.queue.wants b.calendar e.location && e.isMissing b.calendar) = _
    rw [StoredEvent.isDue_eq, LookupQueue.wants, LookupQueue.accepts, StoredEvent.isMissing, StoredEvent.id]
    cases e.location.needsCoordinates <;> simp [Bool.and_comm, Bool.and_assoc, Bool.and_left_comm]
  rw [sweep, loadMissing_eq isOpen loads]
  simp only [observeAll_eq b hids, hwanted, List.length_map, LookupQueue.enqueueAll, List.map_map]
  rfl

/-! ## Readings -/

/-- Reads where some events take place, one after the other. -/
def readAll (b : Backend) (events : List EventId) : Backend :=
  events.foldl (fun b event => (b.readLocation event).2) b

/-- Reading an event that is not over queues nothing if all that is due is tracked. -/
theorem readLocation_covered
    (covers : ∀ e ∈ b.events.events, e.isMissing b.calendar = true →
      b.calendar.before e.location.recheckAfter = false → e.id ∈ b.queue.tracked)
    (active : ∀ e, b.events.find? event = some e → e.hasEnded b.calendar = false) :
    ∃ faults, (b.readLocation event).2 = { b with events := { b.events with faults } } := by
  rw [readLocation, loadLocation]
  obtain ⟨e, faults, h⟩ | h := b.events.call_cases .findLocation (some event) _
  · exact ⟨faults, by rw [EventStore.findLocation, h]; rfl⟩
  · refine ⟨b.events.faults, ?_⟩
    rw [EventStore.findLocation, h]
    cases hfind : b.events.find? event with
    | none => rfl
    | some e =>
      have hmem : e ∈ b.events.events :=
        List.mem_of_find?_eq_some (EventStore.get?_of_find? event hfind)
      have hkept : (!e.deleted) = true := (Option.filter_eq_some_iff.1 hfind).2
      have hended := active e hfind
      show (b.observe e.location).2 = b
      cases hneeds : e.location.needsCoordinates with
      | false =>
        rw [observe, LookupQueue.observe, hneeds]
        rfl
      | true =>
        have hmissing : e.isMissing b.calendar = true := by
          rw [StoredEvent.isMissing, hkept, hended, hneeds]
          rfl
        rw [observe_of_refused (covers e hmem hmissing)]

theorem readAll_covered {events : List EventId}
    (covers : ∀ e ∈ b.events.events, e.isMissing b.calendar = true →
      b.calendar.before e.location.recheckAfter = false → e.id ∈ b.queue.tracked)
    (active : ∀ event ∈ events, ∀ e, b.events.find? event = some e → e.hasEnded b.calendar = false) :
    (b.readAll events).queue = b.queue := by
  induction events generalizing b with
  | nil => rfl
  | cons event events ih =>
    obtain ⟨faults, hread⟩ := readLocation_covered covers (active event List.mem_cons_self)
    rw [readAll, List.foldl_cons, hread]
    exact ih (b := { b with events := { b.events with faults } }) covers
      fun other hother => active other (List.mem_cons_of_mem event hother)

/-- A sweep of a store that lists no event twice. If the store cannot be read, it says so and changes neither
queue nor events. Otherwise lookups are queued, in the order of the store, for the events that are due and
not tracked, and for no others; the answer is their number, and nothing else changes. A second sweep queues nothing,
and so does any reading of events that are not over. -/
theorem sweep_exact (b : Backend) (distinct : (b.events.events.map (·.id)).Nodup) :
    (b.events.isClosed = true → b.sweep = (.error (.unavailable .findMissing none), b)) ∧
      (b.events.isClosed = false → 0 < b.events.faults.left .findMissing →
        b.sweep = (.error (.simulated .findMissing),
          { b with events := { b.events with faults := b.events.faults.spend .findMissing } })) ∧
      (b.events.isClosed = false → b.events.faults.left .findMissing = 0 →
        b.sweep = (.ok b.due.length, b.swept) ∧
          b.swept.sweep = (.ok 0, b.swept) ∧
          ∀ events, (∀ event ∈ events, ∀ e, b.events.find? event = some e → e.hasEnded b.calendar = false) →
            (b.swept.readAll events).queue = b.swept.queue) := by
  refine ⟨sweep_of_isClosed, sweep_of_left_pos, fun isOpen loads => ?_⟩
  have hsweep := sweep_eq isOpen loads distinct
  have hswept : b.swept.Swept := by
    have h := (swept_sweep isOpen loads).1
    rwa [hsweep] at h
  exact ⟨hsweep, hswept.sweep_eq, fun events active => readAll_covered hswept.covers active⟩

/-! ## Four events -/

/-- An event that is due, one that is tracked already, one that is deleted, and one that is not to be looked up
before another year. -/
def fourEvents : Backend :=
  let create := fun n t => StoredEvent.create ⟨.repeated n, "Stadium", none, none, t⟩
  let nextYear := Instant.midnight ⟨2025, 1, 1, by decide⟩
  { small { EventStore.empty with events := [create 1 .newYear, create 2 .newYear,
      { create 3 .newYear with deleted := true }, create 4 nextYear] } [] 0 with
    queue := ⟨[], [.repeated 2]⟩ }

theorem sweep_exact_fourEvents :
    (fourEvents.events.events.map (·.id)).Nodup ∧ fourEvents.events.isClosed = false ∧
      fourEvents.events.faults.left .findMissing = 0 ∧
      (∃ after, fourEvents.sweep = (.ok 1, after) ∧
        after.queue = ⟨[⟨.repeated 1, "Stadium", 0⟩], [.repeated 2, .repeated 1]⟩ ∧
        after.sweep = (.ok 0, after) ∧
        (after.readAll [.repeated 1, .repeated 3, .repeated 4]).queue = after.queue) := by
  have hdistinct : (fourEvents.events.events.map (·.id)).Nodup := by decide
  obtain ⟨hsweep, hagain, hread⟩ := (sweep_exact fourEvents hdistinct).2.2 rfl rfl
  have hdue : fourEvents.due.map (·.id) = [.repeated 1] := by decide
  have hcount : fourEvents.due.length = 1 := by
    rw [← List.length_map (·.id), hdue]
    rfl
  rw [hcount] at hsweep
  refine ⟨hdistinct, rfl, rfl, fourEvents.swept, hsweep, by decide, hagain, hread _ ?_⟩
  intro event hevent e he
  have hall : ∀ e ∈ fourEvents.events.events, e.hasEnded fourEvents.calendar = false := by decide
  exact hall e (List.mem_of_find?_eq_some (EventStore.get?_of_find? event he))

end Backend

end Matchday

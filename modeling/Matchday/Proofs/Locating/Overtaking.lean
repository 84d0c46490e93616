import Matchday.Proofs.Locating.Looking
import Matchday.Proofs.Locating.Tracking

/-!
How often the point of an event is written. The first look at an event that lacks its point makes it
tracked, and one pass writes the point. But a sweep or a reading looks at what it loaded before: if
the point is written and the event untracked in between, the look is late, and the event comes into
the queue again. Then its point is looked up and written once more.

The invariant is an account of one event (`Machine.Account`): the writes of its point and its tracking
are together as many as the looks that were accepted and the passes by which it leaves.

Main statement: `Machine.writes_run`, by which the point is written once and once more for every
late look.
-/

namespace Matchday
set_option autoImplicit false

namespace EventStore

/-- Whether the point of an event is stored. -/
def isPlaced (s : EventStore) (event : EventId) : Bool :=
  s.events.any fun e => e.id = event && !e.location.needsCoordinates

/-- How often the point of an event was written. -/
def writesOf (s : EventStore) (event : EventId) : Nat := (s.writes.map (·.1)).count event

variable {s s' : EventStore} {event : EventId}

theorem isPlaced_iff : s.isPlaced event = true ↔ (event, false) ∈ s.needs := by
  simp only [isPlaced, needs, List.any_eq_true, List.mem_map, Bool.and_eq_true,
    decide_eq_true_eq, Bool.not_eq_true', Prod.mk.injEq]

theorem isPlaced_congr (h : s'.needs = s.needs) : s'.isPlaced event = s.isPlaced event := by
  rw [Bool.eq_iff_iff, isPlaced_iff, isPlaced_iff, h]

theorem SamePoints.isPlaced (h : s.SamePoints s') (event : EventId) :
    s'.isPlaced event = s.isPlaced event :=
  isPlaced_congr h.1

theorem SamePoints.writesOf (h : s.SamePoints s') (event : EventId) :
    s'.writesOf event = s.writesOf event := by
  rw [EventStore.writesOf, h.2]
  rfl

/-- The point of an event that is kept is stored once it has been written. -/
theorem isPlaced_of_needs_place (stored : (s.get? event).isSome = true)
    (h : s'.needs = s.needs.map fun n => if n.1 = event then (event, false) else n) :
    s'.isPlaced event = true := by
  obtain ⟨e, he⟩ := Option.isSome_iff_exists.1 stored
  have hid : e.id = event := by simpa using List.find?_some he
  rw [isPlaced_iff, h]
  exact List.mem_map.2 ⟨(e.id, _), List.mem_map_of_mem (List.mem_of_find?_eq_some he), if_pos hid⟩

/-- Writing another event's point does not concern an event. -/
theorem isPlaced_of_needs_place_other {other : EventId} (hne : other ≠ event)
    (h : s'.needs = s.needs.map fun n => if n.1 = other then (other, false) else n) :
    s'.isPlaced event = s.isPlaced event := by
  rw [Bool.eq_iff_iff, isPlaced_iff, isPlaced_iff, h, List.mem_map]
  constructor
  · rintro ⟨n, hn, heq⟩
    split at heq
    · exact absurd (congrArg Prod.fst heq) hne
    · rw [← heq]
      exact hn
  · intro hmem
    exact ⟨_, hmem, if_neg hne.symm⟩

end EventStore

/-- No change from outside stores the point of an event, if the event is not added with it. -/
theorem Backend.change_isPlaced {b : Backend} {c : Change} {event : EventId}
    (added : ∀ e, c = .addEvent e → e.id = event → e.location.needsCoordinates = true) :
    (b.change c).events.isPlaced event = b.events.isPlaced event := by
  have unchanged : ∀ {id : EventId} {f : StoredEvent → StoredEvent},
      (∀ e, ((f e).id, (f e).location.needsCoordinates) = (e.id, e.location.needsCoordinates)) →
        (b.events.modify id f).isPlaced event = b.events.isPlaced event :=
    fun h => EventStore.isPlaced_congr (EventStore.modify_map _ _ h)
  cases c with
  | addEvent e =>
    show EventStore.isPlaced (b.events.insert e) event = _
    have hnew : (decide (e.id = event) && !e.location.needsCoordinates) = false := by
      by_cases he : e.id = event
      · simp [he, added e rfl he]
      · simp [he]
    simp only [EventStore.isPlaced, EventStore.insert, List.any_append, List.any_cons, List.any_nil,
      hnew, Bool.or_false]
  | setCapacity id capacity => exact unchanged fun _ => rfl
  | endEvent id time => exact unchanged fun _ => rfl
  | deleteEvent id => exact unchanged fun _ => rfl
  | delayRecheck id time => exact unchanged fun _ => rfl
  | _ => rfl

/-- Whether an action is a call that queues an event without its having been loaded. -/
def Action.isMarking : Action → Bool
  | .call (.mark _ _ _) | .call (.observe _) => true
  | _ => false

namespace Machine

variable {m : Machine}

/-- The accepted look at an event by which an action queues it. -/
def looks (event : EventId) (m : Machine) : Action → List EventLocation
  | .step id _ =>
    (((m.ready? id).bind fun t => m.backend.queues? t.look?).filter (·.id = event)).toList
  | _ => []

/-- An accepted look at an event while its point is not stored. -/
def freshLooks (event : EventId) (m : Machine) (a : Action) : List EventLocation :=
  if m.backend.events.isPlaced event then [] else m.looks event a

/-- An accepted look at an event though its point is stored. -/
def lateLooks (event : EventId) (m : Machine) (a : Action) : List EventLocation :=
  if m.backend.events.isPlaced event then m.looks event a else []

/-- Nobody queues events without having loaded them. -/
def Quiet (m : Machine) : Prop := ∀ e ∈ m.tasks, e.2.isMarking = false

theorem Quiet.act (h : m.Quiet) {a : Action} (ha : a.isMarking = false) : (m.act a).Quiet := by
  intro e he
  have becomes := act_becomes m a
  generalize m.act a = m' at becomes he
  cases becomes with
  | changed _ | waited _ | idle _ => exact h e he
  | called c =>
    obtain he | rfl := mem_spawn.1 he
    · exact h e he
    · cases c with
      | mark event address recheckAfter => exact ha
      | observe location => exact ha
      | _ => rfl
  | cancelled crew =>
    obtain ⟨d, hd, -, htask⟩ := mem_cancel he
    have hquiet := h d hd
    obtain htask | htask := htask <;> simpa [htask] using hquiet
  | @carried id goOn t hready _ =>
    obtain rfl | ⟨he, -⟩ | ⟨payment, -, -, rfl⟩ := mem_carried he
    · exact (Task.isMarking_step m.backend goOn t).trans (h _ (mem_of_ready? hready))
    · exact h e he
    · rfl
  | closed hready _ =>
    obtain rfl | ⟨d, hd, -, -, htask⟩ := mem_closed he
    · rfl
    · have hquiet := h d hd
      obtain htask | htask := htask <;> simpa [htask] using hquiet

/-- How many of the passes with a task are one by which an event leaves. -/
def leavingShare (event : EventId) (t : Task) : Nat := t.leaving?.toList.count event

/-- The account of an event whose point was written so many times at the start, after so many fresh
and late looks: its writes and its tracking are as many as the looks and the passes by which it
leaves; and as long as its point is not stored, nothing has happened but a fresh look. -/
structure Account (event : EventId) (atStart : Nat) (m : Machine) (fresh late : Nat) : Prop where
  sum : m.backend.events.writesOf event + m.backend.queue.tracked.count event =
    atStart + fresh + late + m.tally (leavingShare event)
  before : m.backend.events.isPlaced event = false →
    late = 0 ∧ m.tally (leavingShare event) = 0 ∧ m.backend.events.writesOf event = atStart
  after : m.backend.events.isPlaced event = true → fresh = 1

variable {event : EventId} {atStart fresh late : Nat}

theorem Account.exchange {m' : Machine} (h : m.Account event atStart fresh late)
    (placed : m'.backend.events.isPlaced event = m.backend.events.isPlaced event)
    (writes : m'.backend.events.writesOf event = m.backend.events.writesOf event)
    (tracked : m'.backend.queue.tracked.count event = m.backend.queue.tracked.count event)
    (tally : m'.tally (leavingShare event) = m.tally (leavingShare event)) :
    m'.Account event atStart fresh late where
  sum := by rw [writes, tracked, tally]; exact h.sum
  before := by rw [placed, tally, writes]; exact h.before
  after := by rw [placed]; exact h.after

theorem Account.rested {m' : Machine} (h : m.Account event atStart fresh late)
    (store : m.backend.events.SamePoints m'.backend.events)
    (tracked : m'.backend.queue.tracked.count event = m.backend.queue.tracked.count event)
    (tally : m'.tally (leavingShare event) = m.tally (leavingShare event)) :
    m'.Account event atStart fresh late :=
  h.exchange (store.isPlaced event) (store.writesOf event) tracked tally

/-- A look at an event that is not tracked makes it tracked; it is the only fresh one if the point is
not stored. -/
theorem Account.looked {m' : Machine} (h : m.Account event atStart fresh late)
    (new : m.backend.queue.tracked.count event = 0)
    (store : m.backend.events.SamePoints m'.backend.events)
    (tracked : m'.backend.queue.tracked.count event = 1)
    (tally : m'.tally (leavingShare event) = m.tally (leavingShare event)) :
    if m.backend.events.isPlaced event then m'.Account event atStart fresh (late + 1)
    else m'.Account event atStart (fresh + 1) late := by
  have hsum := h.sum
  have hwrites := store.writesOf event
  have hplaced := store.isPlaced event
  split
  · rename_i hp
    refine ⟨by omega, fun hno => ?_, fun _ => h.after hp⟩
    rw [hplaced, hp] at hno
    exact absurd hno (by decide)
  · rename_i hp
    rw [Bool.not_eq_true] at hp
    refine ⟨by omega, fun _ => ?_, fun hyes => ?_⟩
    · rw [tally, hwrites]
      exact h.before hp
    · rw [hplaced, hp] at hyes
      exact absurd hyes (by decide)

/-- Writing the point of a tracked event brings the event to leave. -/
theorem Account.placed {m' : Machine} (h : m.Account event atStart fresh late)
    (held : m.backend.queue.tracked.count event = 1)
    (placed : m'.backend.events.isPlaced event = true)
    (writes : m'.backend.events.writesOf event = m.backend.events.writesOf event + 1)
    (tracked : m'.backend.queue.tracked.count event = m.backend.queue.tracked.count event)
    (tally : m'.tally (leavingShare event) = m.tally (leavingShare event) + 1) :
    m'.Account event atStart fresh late := by
  have hsum := h.sum
  refine ⟨by omega, fun hno => ?_, fun _ => ?_⟩
  · rw [placed] at hno
    exact absurd hno (by decide)
  · by_cases hp : m.backend.events.isPlaced event = true
    · exact h.after hp
    · rw [Bool.not_eq_true] at hp
      obtain ⟨hlate, hleaving, hatStart⟩ := h.before hp
      omega

theorem Account.untracked {m' : Machine} (h : m.Account event atStart fresh late)
    (store : m.backend.events.SamePoints m'.backend.events)
    (tracked : m'.backend.queue.tracked.count event + 1 = m.backend.queue.tracked.count event)
    (tally : m'.tally (leavingShare event) + 1 = m.tally (leavingShare event)) :
    m'.Account event atStart fresh late := by
  have hsum := h.sum
  have hwrites := store.writesOf event
  refine ⟨by omega, fun hno => ?_, fun hyes => ?_⟩
  · rw [store.isPlaced] at hno
    have hbefore := h.before hno
    omega
  · rw [store.isPlaced] at hyes
    exact h.after hyes

/-! ## Steps -/

theorem looks_step (event : EventId) {id : TaskId} (goOn : Bool) {t : Task}
    (h : m.ready? id = some t) :
    m.looks event (.step id goOn) = ((m.backend.queues? t.look?).filter (·.id = event)).toList := by
  rw [looks, h]
  rfl

theorem looks_of_calm {m' : Machine} {a : Action} (calm : m.Calm m' a) : m.looks event a = [] := by
  cases a with
  | step id goOn =>
    obtain hready | ⟨crew, mode, stage, hready⟩ := calm.ready?_cases
    · rw [looks, hready]
      rfl
    · rw [looks_step event goOn hready]
      rfl
  | _ => rfl

/-- What is accepted at a look is a location of the event that was loaded without its point. -/
theorem of_mem_looks {a : Action} {l : EventLocation} (h : l ∈ m.looks event a) :
    l.id = event ∧ l.needsCoordinates = true := by
  cases a with
  | step id goOn =>
    rw [looks, Option.mem_toList, Option.filter_eq_some_iff] at h
    obtain ⟨hlook, hid⟩ := h
    refine ⟨of_decide_eq_true hid, ?_⟩
    obtain ⟨t, -, ht⟩ := Option.bind_eq_some_iff.1 hlook
    have haccepted := (Option.filter_eq_some_iff.1 ht).2
    by_contra hno
    rw [LookupQueue.observe, if_neg hno] at haccepted
    exact absurd haccepted Bool.false_ne_true
  | _ => exact absurd h List.not_mem_nil

theorem length_looks (event : EventId) (m : Machine) (a : Action) :
    (m.freshLooks event a).length = (if m.backend.events.isPlaced event then 0
      else (m.looks event a).length) ∧
    (m.lateLooks event a).length = (if m.backend.events.isPlaced event then
      (m.looks event a).length else 0) := by
  unfold freshLooks lateLooks
  split <;> exact ⟨rfl, rfl⟩

/-- An action without an accepted look at the event enters nothing into the account. -/
theorem Account.unlooked {m' : Machine} {a : Action} (looks : m.looks event a = [])
    (h : m'.Account event atStart fresh late) :
    m'.Account event atStart (fresh + (m.freshLooks event a).length)
      (late + (m.lateLooks event a).length) := by
  obtain ⟨hfresh, hlate⟩ := length_looks event m a
  rw [hfresh, hlate, looks]
  simpa using h

theorem Account.carried (h : m.Account event atStart fresh late) (named : m.Named)
    (tracking : m.Tracking) {id : TaskId} {goOn : Bool} {t : Task} (ready : m.ready? id = some t)
    (quiet : t.isMarking = false) :
    (m.carried id goOn t).Account event atStart
      (fresh + (m.freshLooks event (.step id goOn)).length)
      (late + (m.lateLooks event (.step id goOn)).length) := by
  have htask := task?_of_ready? ready
  have htally : (m.carried id goOn t).tally (leavingShare event) + leavingShare event t =
      m.tally (leavingShare event) + leavingShare event (t.step m.backend goOn).1 :=
    tally_carried goOn named.nodup htask fun _ => rfl
  have hlooks := looks_step event goOn ready
  have honce : m.backend.queue.tracked.count event ≤ 1 :=
    List.nodup_iff_count_le_one.1 tracking.distinct event
  have hbackend : (m.carried id goOn t).backend = (t.step m.backend goOn).2.1 := carried_backend
  cases t.step_locates m.backend goOn quiet with
  | rested looked tracked store left =>
    rw [leavingShare, leavingShare, left] at htally
    rw [looked] at hlooks
    refine .unlooked hlooks (h.rested (by rw [hbackend]; exact store) ?_ (by omega))
    rw [hbackend, tracked]
  | looked l looked new tracked store left =>
    rw [leavingShare, leavingShare, left] at htally
    rw [looked] at hlooks
    by_cases hl : l.id = event
    · have hzero : m.backend.queue.tracked.count event = 0 := by
        rw [← hl]
        exact List.count_eq_zero.2 new
      have hsame : m.backend.events.SamePoints (m.carried id goOn t).backend.events := by
        rw [hbackend]
        exact store
      have hone : (m.carried id goOn t).backend.queue.tracked.count event = 1 := by
        rw [hbackend, tracked, List.count_append, hzero, hl, List.count_singleton_self]
      have hlooked := h.looked hzero hsame hone (by omega)
      obtain ⟨hfresh, hlate⟩ := length_looks event m (.step id goOn)
      rw [hfresh, hlate, hlooks]
      simp only [Option.filter, hl, decide_true, if_true, Option.toList, List.length_singleton]
      split at hlooked
      · rename_i hp
        simpa [hp] using hlooked
      · rename_i hp
        simpa [hp] using hlooked
    · have hnone : m.looks event (.step id goOn) = [] := by
        rw [hlooks]
        simp [Option.filter, hl]
      refine .unlooked hnone (h.rested (by rw [hbackend]; exact store) ?_ (by omega))
      rw [hbackend, tracked, List.count_append]
      simp [hl]
  | placed task c looked tracked holds stored needs writes stays left =>
    rw [leavingShare, leavingShare, stays, left] at htally
    rw [looked] at hlooks
    have hwrites : (m.carried id goOn t).backend.events.writesOf event =
        m.backend.events.writesOf event + [task.event].count event := by
      rw [hbackend, EventStore.writesOf, writes, List.map_append, List.count_append]
      rfl
    have htracked : (m.carried id goOn t).backend.queue.tracked.count event =
        m.backend.queue.tracked.count event := by
      rw [hbackend, tracked]
    simp only [Option.toList, List.count_nil] at htally
    refine .unlooked hlooks ?_
    by_cases he : task.event = event
    · have hmem := tracking.mem_of_held (mem_of_ready? ready) holds
      rw [he] at hmem
      have hpos := List.count_pos_iff.2 hmem
      rw [he, List.count_singleton_self] at hwrites htally
      refine h.placed (by omega) ?_ hwrites htracked (by omega)
      rw [hbackend]
      rw [he] at needs stored
      exact EventStore.isPlaced_of_needs_place stored needs
    · have hzero : [task.event].count event = 0 := List.count_eq_zero.2 (by simpa using Ne.symm he)
      rw [hzero] at hwrites htally
      refine h.exchange ?_ hwrites htracked (by omega)
      rw [hbackend]
      exact EventStore.isPlaced_of_needs_place_other he needs
  | untracked task looked tracked holds store leaves left =>
    rw [leavingShare, leavingShare, leaves, left] at htally
    rw [looked] at hlooks
    simp only [Option.toList, List.count_nil] at htally
    refine .unlooked hlooks ?_
    have hmem := tracking.mem_of_held (mem_of_ready? ready) holds
    by_cases he : task.event = event
    · rw [he] at hmem
      have hpos := List.count_pos_iff.2 hmem
      rw [he, List.count_singleton_self] at htally
      refine h.untracked (by rw [hbackend]; exact store) ?_ (by omega)
      rw [hbackend, tracked, he, List.count_erase_self]
      omega
    · have hzero : [task.event].count event = 0 := List.count_eq_zero.2 (by simpa using Ne.symm he)
      rw [hzero] at htally
      refine h.rested (by rw [hbackend]; exact store) ?_ (by omega)
      rw [hbackend, tracked, List.count_erase_of_ne (Ne.symm he)]

theorem Account.act (h : m.Account event atStart fresh late) (named : m.Named)
    (tracking : m.Tracking) (quiet : m.Quiet) {a : Action}
    (added : ∀ e, a = .change (.addEvent e) → e.id = event →
      e.location.needsCoordinates = true) :
    (m.act a).Account event atStart (fresh + (m.freshLooks event a).length)
      (late + (m.lateLooks event a).length) := by
  obtain ⟨id, goOn, t, rfl, hready, -, heq⟩ | calm := act_cases named a
  · rw [heq]
    exact h.carried named tracking hready (quiet _ (mem_of_ready? hready))
  · have htally : (m.act a).tally (leavingShare event) = m.tally (leavingShare event) :=
      calm.tally _ (fun t => by rw [leavingShare, leavingShare, Task.leaving?_cancel])
        (fun _ _ _ => rfl) fun c now => by rw [leavingShare, Task.leaving?_task]; rfl
    have htracked := congrArg (fun q => q.tracked.count event) calm.queue
    refine .unlooked (looks_of_calm calm) ?_
    obtain hevents | ⟨c, rfl, hevents⟩ := calm.events
    · exact h.rested (by rw [hevents]; exact .refl _) htracked htally
    · refine h.exchange ?_ ?_ htracked htally
      · rw [hevents]
        exact Backend.change_isPlaced fun e hc => added e (congrArg Action.change hc)
      · rw [hevents]
        cases c <;> rfl

/-! ## Runs -/

theorem account_run (b : Backend) (hqueue : b.queue = .empty)
    (lacking : b.events.isPlaced event = false) (actions : List Action)
    (added : ∀ e, .change (.addEvent e) ∈ actions → e.id = event →
      e.location.needsCoordinates = true)
    (quiet : ∀ a ∈ actions, a.isMarking = false) :
    ((create b).run actions).Quiet ∧
      ((create b).run actions).Account event (b.events.writesOf event)
        ((create b).trace (freshLooks event) actions).length
        ((create b).trace (lateLooks event) actions).length := by
  induction actions using List.reverseRecOn with
  | nil =>
    refine ⟨fun e he => absurd he List.not_mem_nil, ?_, fun _ => ⟨rfl, rfl, rfl⟩, fun hyes => ?_⟩
    · show b.events.writesOf event + b.queue.tracked.count event = _
      rw [hqueue]
      rfl
    · exact absurd (lacking.symm.trans hyes) (by decide)
  | append_singleton actions a ih =>
    obtain ⟨hquiet, haccount⟩ := ih
      (fun e he => added e (List.mem_append_left _ he))
      (fun a ha => quiet a (List.mem_append_left _ ha))
    have hlast : a ∈ actions ++ [a] := List.mem_append_right _ (List.mem_singleton_self a)
    rw [run_concat, trace_concat, trace_concat, List.length_append, List.length_append]
    refine ⟨hquiet.act (quiet a hlast), haccount.act (named_run b actions)
      (tracking_run b hqueue actions) hquiet fun e ha => added e (ha ▸ hlast)⟩

/-- An event leaves by a pass that holds its task. -/
theorem leavingShare_le (event : EventId) (t : Task) :
    leavingShare event t ≤ LookupQueue.share event t.held? := by
  rw [leavingShare, LookupQueue.share, Task.leaving?, Task.held?]
  cases t.pass? with
  | none => exact Nat.le_refl _
  | some stage =>
    cases stage with
    | untracking task c => exact Nat.le_refl _
    | _ => exact Nat.zero_le _

/-- If events are queued only by what was loaded, the point of an event that was stored without it is
written at most once, and once more for each late look: a look at what had been loaded without the
point, when the point was stored and the event not tracked. When the event is not tracked any more,
its point was written more than once if and only if there was a late look. -/
theorem writes_run (calendar : Instant) (events : EventStore) (payments : PaymentStore)
    (geocoders : Geocoders) (delay : Nat) (event : EventId) (actions : List Action)
    (lacking : events.isPlaced event = false)
    (added : ∀ e, .change (.addEvent e) ∈ actions → e.id = event →
      e.location.needsCoordinates = true)
    (quiet : ∀ a ∈ actions, a.isMarking = false) :
    let start := create (.create calendar events payments geocoders delay)
    let m := start.run actions
    let late := start.trace (lateLooks event) actions
    m.backend.events.writesOf event ≤ events.writesOf event + 1 + late.length ∧
      (event ∉ m.backend.queue.tracked →
        (m.backend.events.writesOf event ≤ events.writesOf event + 1 ↔ late = [])) ∧
      ∀ l ∈ late, l.id = event ∧ l.needsCoordinates = true := by
  intro start m late
  obtain ⟨-, account⟩ := account_run (.create calendar events payments geocoders delay) rfl
    lacking actions added quiet
  have tracking : m.Tracking := tracking_run _ rfl actions
  have hleaving : m.tally (leavingShare event) ≤ m.backend.queue.tracked.count event := by
    have hle : m.tally (leavingShare event) ≤ m.tally fun t => LookupQueue.share event t.held? :=
      tally_mono (leavingShare_le event)
    have hbalance := tracking.balance event
    omega
  have hsum : m.backend.events.writesOf event + m.backend.queue.tracked.count event =
      events.writesOf event + (start.trace (freshLooks event) actions).length + late.length +
        m.tally (leavingShare event) := account.sum
  have hphase : late.length = 0 ∧ m.backend.events.writesOf event = events.writesOf event ∨
      (start.trace (freshLooks event) actions).length = 1 := by
    cases hp : m.backend.events.isPlaced event with
    | false => exact .inl ⟨(account.before hp).1, (account.before hp).2.2⟩
    | true => exact .inr (account.after hp)
  refine ⟨by omega, fun huntracked => ?_, ?_⟩
  · have hzero := List.count_eq_zero.2 huntracked
    rw [← List.length_eq_zero_iff]
    omega
  · refine forall_mem_trace (fun m a l hl => ?_) start actions
    rw [lateLooks] at hl
    split at hl
    · exact of_mem_looks hl
    · exact absurd hl List.not_mem_nil

/-! ## A late look -/

/-- An event that is kept without its point. -/
def stadium : StoredEvent :=
  .create ⟨.repeated 1, "Stadium", none, none, .newYear⟩

/-- A fresh machine that keeps one event without its point; every lookup gives one. -/
def atStadium : Machine :=
  let point : Coordinates := ⟨.zero false, .zero false⟩
  create (.small (EventStore.empty.insert stadium) [.ok point, .ok point] 0)

/-- Two readers load the location of an event without a point. One looks at it, and a pass writes the
point and untracks the event. Then the other looks, and another pass does the same again. -/
def overtaking : List Action :=
  let pass := fun n => .call .pass :: List.replicate 6 (.step (.call n) true)
  [.call (.read stadium.id), .call (.read stadium.id), .step (.call 0) true,
    .step (.call 1) true, .step (.call 0) true] ++ pass 2 ++ [.step (.call 1) true] ++ pass 3

/-- The point of an event that was loaded and not marked is written twice. -/
theorem written_twice :
    atStadium.backend.events.isPlaced stadium.id = false ∧
      (∀ a ∈ overtaking, a.isMarking = false) ∧
      atStadium.backend.events.writesOf stadium.id = 0 ∧
      (atStadium.run overtaking).backend.events.writesOf stadium.id = 2 := by
  refine ⟨by decide, by decide, by decide, ?_⟩
  rfl

theorem late_look_overtaking :
    stadium.id ∉ (atStadium.run overtaking).backend.queue.tracked ∧
      atStadium.trace (lateLooks stadium.id) overtaking ≠ [] := by
  have untracked : stadium.id ∉ (atStadium.run overtaking).backend.queue.tracked := by decide
  refine ⟨untracked, fun hlate => ?_⟩
  have hwrites : (atStadium.run overtaking).backend.events.writesOf stadium.id ≤ 1 :=
    ((writes_run _ _ _ _ _ stadium.id overtaking (by decide)
      (fun e he => absurd he (by simp [overtaking])) (by decide)).2.1 untracked).2 hlate
  exact absurd hwrites (by decide)

end Machine

end Matchday

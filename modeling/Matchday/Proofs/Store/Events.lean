import Matchday.Proofs.Concurrent.Footprint

/-!
What the calls of the store of events leave alone. Each call may change one part of one event only,
so any reading of the events that does not see this part is the same after it. Two readings are
used below: which events need their point (`EventStore.needs`), and who takes part in which event
(`EventStore.ledger`).
-/

namespace Matchday
set_option autoImplicit false

namespace EventStore

section Call
variable {s : EventStore} {α : Type} {c : EventCall}

theorem call_of_isClosed (isClosed : s.isClosed = true) (event : Option EventId)
    (work : EventStore → Except EventStoreError α × EventStore) :
    s.call c event work = (.error (.unavailable c event), s) :=
  if_pos isClosed

theorem call_of_left_pos (isOpen : s.isClosed = false) (fails : 0 < s.faults.left c) (event : Option EventId)
    (work : EventStore → Except EventStoreError α × EventStore) :
    s.call c event work = (.error (.simulated c), { s with faults := s.faults.spend c }) := by
  have hpending : s.faults.pending c = true := decide_eq_true fails
  rw [call, if_neg (by simp [isOpen]), if_pos hpending]

theorem call_of_left_zero (isOpen : s.isClosed = false) (left : s.faults.left c = 0) (event : Option EventId)
    (work : EventStore → Except EventStoreError α × EventStore) : s.call c event work = work s := by
  rw [call, if_neg (by simp [isOpen]), if_neg (by simp [Faults.pending, left])]

end Call

variable {β : Type} (s : EventStore) (id : EventId)

/-- A call is turned down, which costs at most a fault, or it does its work. -/
theorem call_cases {α : Type} (c : EventCall) (event : Option EventId)
    (work : EventStore → Except EventStoreError α × EventStore) :
    (∃ e faults, s.call c event work = (.error e, { s with faults })) ∨
      s.call c event work = work s := by
  unfold EventStore.call
  split
  · exact .inl ⟨_, s.faults, rfl⟩
  · split
    · exact .inl ⟨_, _, rfl⟩
    · exact .inr rfl

theorem findMissing_footprint (now : Instant) :
    ∃ faults, (s.findMissing now).2 = { s with faults } := by
  obtain ⟨e, faults, h⟩ | h := s.call_cases .findMissing none _
  · exact ⟨faults, by rw [findMissing, h]⟩
  · exact ⟨s.faults, by rw [findMissing, h]⟩

theorem findLocation_footprint : ∃ faults, (s.findLocation id).2 = { s with faults } := by
  obtain ⟨e, faults, h⟩ | h := s.call_cases .findLocation (some id) _
  · exact ⟨faults, by rw [findLocation, h]⟩
  · exact ⟨s.faults, by rw [findLocation, h]⟩

theorem loadMembership_footprint : ∃ faults, (s.loadMembership id).2 = { s with faults } := by
  obtain ⟨e, faults, h⟩ | h := s.call_cases .loadMembership (some id) _
  · exact ⟨faults, by rw [loadMembership, h]⟩
  · exact ⟨s.faults, by rw [loadMembership, h]⟩

theorem modify_map {f : StoredEvent → StoredEvent} {g : StoredEvent → β}
    (h : ∀ e, g (f e) = g e) : (s.modify id f).events.map g = s.events.map g := by
  simp only [modify, List.map_map]
  refine List.map_congr_left fun e _ => ?_
  show g (if e.id = id then f e else e) = g e
  split
  · exact h e
  · rfl

theorem addPaid_footprint (who : MemberId) :
    ∃ events faults, (s.addPaid id who).2 = { s with events, faults } ∧
      ∀ {β : Type} (g : StoredEvent → β), (∀ e, g (e.addPaid who) = g e) →
        events.map g = s.events.map g := by
  obtain ⟨e, faults, h⟩ | h := s.call_cases .addPaid (some id) _
  · exact ⟨s.events, faults, by rw [addPaid, h], fun _ _ => rfl⟩
  · rw [addPaid, h]
    split
    · exact ⟨_, s.faults, rfl, fun g hg => s.modify_map id hg⟩
    · exact ⟨s.events, s.faults, rfl, fun _ _ => rfl⟩

theorem yieldToRival_footprint :
    ∃ events rivals, s.yieldToRival id = { s with events, rivals } ∧
      ∀ {β : Type} (g : StoredEvent → β), (∀ e m, g { e with membership := m } = g e) →
        events.map g = s.events.map g := by
  unfold yieldToRival
  split
  · exact ⟨s.events, s.rivals, rfl, fun _ _ => rfl⟩
  · exact ⟨_, _, rfl, fun g hg => s.modify_map id fun e => hg e _⟩

theorem persistMembership_footprint (m : Membership) :
    ∃ events faults rivals, (s.persistMembership m).2 = { s with events, faults, rivals } ∧
      ∀ {β : Type} (g : StoredEvent → β), (∀ e m, g { e with membership := m } = g e) →
        events.map g = s.events.map g := by
  obtain ⟨e, faults, h⟩ | h := s.call_cases .persistMembership (some m.event) _
  · exact ⟨s.events, faults, s.rivals, by rw [persistMembership, h], fun _ _ => rfl⟩
  · rw [persistMembership, h]
    obtain ⟨events, rivals, hyield, hmap⟩ := s.yieldToRival_footprint m.event
    simp only [hyield]
    split
    · exact ⟨s.events, s.faults, s.rivals, rfl, fun _ _ => rfl⟩
    · split
      · exact ⟨_, s.faults, rivals, rfl, fun g hg =>
          (modify_map _ _ fun e => hg e _).trans (hmap g hg)⟩
      · exact ⟨events, s.faults, rivals, rfl, hmap⟩

/-- Writing a point fails, or writes it for an event that is kept, and records it. -/
theorem setCoordinates_cases (c : Coordinates) :
    (∃ e faults, s.setCoordinates id c = (.error e, { s with faults })) ∨
      (s.get? id).isSome = true ∧ s.setCoordinates id c = (.ok (),
        { s.modify id fun e => { e with location := e.location.place c } with
          writes := s.writes ++ [(id, c)] }) := by
  obtain ⟨e, faults, h⟩ | h := s.call_cases .setCoordinates (some id) _
  · exact .inl ⟨e, faults, by rw [setCoordinates, h]⟩
  · rw [setCoordinates, h]
    split
    · rename_i hget
      exact .inr ⟨hget, rfl⟩
    · exact .inl ⟨_, s.faults, rfl⟩

/-- A write of a point that fails costs at most a fault. -/
theorem setCoordinates_refused {s s' : EventStore} {id : EventId} {c : Coordinates} {e : EventStoreError}
    (h : s.setCoordinates id c = (.error e, s')) : ∃ faults, s' = { s with faults } := by
  obtain ⟨_, faults, heq⟩ | ⟨-, heq⟩ := s.setCoordinates_cases id c
  · rw [h] at heq
    exact ⟨faults, congrArg Prod.snd heq⟩
  · rw [h] at heq
    cases congrArg Prod.fst heq

/-- One that succeeds places the event and is recorded. -/
theorem setCoordinates_written {s s' : EventStore} {id : EventId} {c : Coordinates}
    (h : s.setCoordinates id c = (.ok (), s')) :
    s' = { s.modify id fun e => { e with location := e.location.place c } with
      writes := s.writes ++ [(id, c)] } := by
  obtain ⟨_, faults, heq⟩ | ⟨-, heq⟩ := s.setCoordinates_cases id c
  · rw [h] at heq
    cases congrArg Prod.fst heq
  · rw [h] at heq
    exact congrArg Prod.snd heq

/-! ## Points -/

/-- The events, and whether each needs its point. -/
def needs : List (EventId × Bool) := s.events.map fun e => (e.id, e.location.needsCoordinates)

/-- The same events need their points, and no point has been written. -/
def SamePoints (s s' : EventStore) : Prop := s'.needs = s.needs ∧ s'.writes = s.writes

variable {s}

theorem samePoints_addPaid (who : MemberId) : s.SamePoints (s.addPaid id who).2 := by
  obtain ⟨events, faults, heq, hmap⟩ := s.addPaid_footprint id who
  rw [heq]
  refine ⟨hmap _ fun e => ?_, rfl⟩
  unfold StoredEvent.addPaid
  split <;> rfl

theorem samePoints_persistMembership (m : Membership) :
    s.SamePoints (s.persistMembership m).2 := by
  obtain ⟨events, faults, rivals, heq, hmap⟩ := s.persistMembership_footprint m
  rw [heq]
  exact ⟨hmap _ fun _ _ => rfl, rfl⟩

theorem needs_place (c : Coordinates) :
    (s.modify id fun e => { e with location := e.location.place c }).needs =
      s.needs.map fun n => if n.1 = id then (id, false) else n := by
  simp only [needs, modify, List.map_map]
  refine List.map_congr_left fun e _ => ?_
  show (StoredEvent.id (if e.id = id then _ else e), _) = if e.id = id then _ else _
  by_cases h : e.id = id
  · simp only [h, if_true]
    rw [← h]
    rfl
  · simp only [h, if_false]

/-! ## Memberships -/

variable (s)

/-- The events, and who takes part in each. -/
def ledger : List (EventId × Membership) := s.events.map fun e => (e.id, e.membership)

/-- Every membership names the event that it belongs to. -/
def Keyed : Prop := ∀ e ∈ s.events, e.membership.event = e.id

variable {s}

theorem membership?_congr {s' : EventStore} (h : s'.ledger = s.ledger) (id : EventId) :
    s'.membership? id = s.membership? id := by
  have hledger : ∀ s : EventStore,
      s.membership? id = (s.ledger.find? fun p => p.1 = id).map (·.2) := by
    intro s
    rw [membership?, get?, ledger, List.find?_map, Option.map_map]
    rfl
  rw [hledger s', hledger s, h]

theorem Keyed.congr {s' : EventStore} (keyed : s.Keyed) (h : s'.ledger = s.ledger) : s'.Keyed := by
  intro e he
  have hmem : (e.id, e.membership) ∈ s'.ledger := List.mem_map.2 ⟨e, he, rfl⟩
  rw [h] at hmem
  obtain ⟨d, hd, heq⟩ := List.mem_map.1 hmem
  injection heq with hid hmembership
  rw [← hid, ← hmembership]
  exact keyed d hd

theorem Keyed.event_eq (keyed : s.Keyed) {m : Membership} (h : s.membership? id = some m) :
    m.event = id := by
  obtain ⟨e, he, rfl⟩ := Option.map_eq_some_iff.1 h
  have hid : e.id = id := by simpa using List.find?_some he
  exact (keyed e (List.mem_of_find?_eq_some he)).trans hid

theorem get?_modify {f : StoredEvent → StoredEvent} (hf : ∀ e, (f e).id = e.id) (other : EventId) :
    (s.modify id f).get? other =
      (s.get? other).map fun e => if e.id = id then f e else e := by
  rw [get?, modify, List.find?_map, get?]
  congr 2
  funext e
  show decide (StoredEvent.id (if e.id = id then f e else e) = other) = decide (e.id = other)
  split
  · rw [hf e]
  · rfl

theorem id_of_get? {e : StoredEvent} (h : s.get? id = some e) : e.id = id := by
  simpa using List.find?_some h

theorem get?_of_find? {e : StoredEvent} (h : s.find? id = some e) : s.get? id = some e :=
  (Option.filter_eq_some_iff.1 h).1

variable (s)

/-- Changing the membership of one event. -/
def remember (change : Membership → Membership) : EventStore :=
  s.modify id fun e => { e with membership := change e.membership }

variable {s}

theorem get?_remember (change : Membership → Membership) (other : EventId) :
    (s.remember id change).get? other = (s.get? other).map fun e =>
      if e.id = id then { e with membership := change e.membership } else e :=
  get?_modify id (f := fun e => { e with membership := change e.membership }) (fun _ => rfl) other

theorem membership?_remember (change : Membership → Membership) :
    (s.remember id change).membership? id = (s.membership? id).map change := by
  rw [membership?, get?_remember, membership?]
  cases h : s.get? id with
  | none => rfl
  | some e => simp [id_of_get? id h]

theorem membership?_remember_other {other : EventId} (hne : other ≠ id)
    (change : Membership → Membership) :
    (s.remember id change).membership? other = s.membership? other := by
  rw [membership?, get?_remember, membership?]
  cases h : s.get? other with
  | none => rfl
  | some e =>
    have hid : e.id ≠ id := by rwa [id_of_get? other h]
    simp [hid]

theorem Keyed.remember (keyed : s.Keyed) {change : Membership → Membership}
    (h : ∀ m, m.event = id → (change m).event = id) : (s.remember id change).Keyed := by
  intro e he
  obtain ⟨d, hd, rfl⟩ := List.mem_map.1 he
  by_cases hid : d.id = id
  · rw [if_pos hid]
    exact (h d.membership ((keyed d hd).trans hid)).trans hid.symm
  · rw [if_neg hid]
    exact keyed d hd

/-- What a load finds is what is stored. -/
theorem membership?_of_load {m : Membership} (h : (s.loadMembership id).1 = .ok (some m)) :
    s.membership? id = some m := by
  obtain ⟨e, faults, heq⟩ | heq := s.call_cases .loadMembership (some id) _
  · rw [loadMembership, heq] at h
    cases h
  · rw [loadMembership, heq] at h
    have hfind : (s.find? id).map (·.membership) = some m := by simpa using h
    obtain ⟨e, he, rfl⟩ := Option.map_eq_some_iff.1 hfind
    rw [membership?, get?_of_find? id he]
    rfl

/-- What a write of a membership can make of the memberships: nothing, or one of them in a new
version: that of a rival who got in first, or the written one, if nobody wrote in between. -/
inductive Persists (s : EventStore) (m : Membership) :
    Except EventStoreError Bool → EventStore → Prop where
  | refused {answer : Except EventStoreError Bool} {s' : EventStore} (refused : answer ≠ .ok true)
      (ledger : s'.ledger = s.ledger) : Persists s m answer s'
  | rivalled {answer : Except EventStoreError Bool} {s' : EventStore} {stored : Membership}
      (refused : answer ≠ .ok true) (found : s.membership? m.event = some stored)
      (ledger : s'.ledger = (s.remember m.event fun m => m.written).ledger) :
      Persists s m answer s'
  | written {s' : EventStore} {stored : Membership} (found : s.membership? m.event = some stored)
      (version : m.version = stored.version ∨ m.version = stored.version + 1)
      (ledger : s'.ledger = (s.remember m.event fun _ => m.written).ledger) :
      Persists s m (.ok true) s'

/-- What was remembered before of an event does not matter if its membership is replaced. -/
theorem ledger_remember_remember (change : Membership → Membership) (m : Membership) :
    ((s.remember id change).remember id fun _ => m).ledger =
      (s.remember id fun _ => m).ledger := by
  simp only [ledger, remember, modify, List.map_map]
  refine List.map_congr_left fun e _ => ?_
  by_cases h : e.location.id = id
  · simp [StoredEvent.id, h]
  · simp [StoredEvent.id, h]

theorem persistMembership_persists (m : Membership) :
    s.Persists m (s.persistMembership m).1 (s.persistMembership m).2 := by
  obtain ⟨e, faults, h⟩ | h := s.call_cases .persistMembership (some m.event) _
  · rw [persistMembership, h]
    exact .refused (by simp) rfl
  · rw [persistMembership, h]
    cases hfind : s.find? m.event with
    | none => exact .refused (by simp) rfl
    | some e =>
      have hget := get?_of_find? m.event hfind
      have hdeleted : (!e.deleted) = true := (Option.filter_eq_some_iff.1 hfind).2
      have hfound : s.membership? m.event = some e.membership := by
        rw [membership?, hget]
        rfl
      by_cases hrivals : s.rivals = 0
      · have hyield : s.yieldToRival m.event = s := if_pos hrivals
        simp only [Option.isNone_some, Bool.false_eq_true, if_false, hyield, hfind, Option.any_some]
        split
        · rename_i hversion
          exact .written hfound (.inl (of_decide_eq_true hversion).symm) rfl
        · exact .refused (by simp) rfl
      · have hevents : (s.yieldToRival m.event).events =
            (s.remember m.event fun m => m.written).events := by
          rw [yieldToRival, if_neg hrivals]
          rfl
        have hget' : (s.yieldToRival m.event).get? m.event =
            some { e with membership := e.membership.written } := by
          rw [get?, hevents, ← get?, get?_remember, hget, Option.map_some,
            if_pos (id_of_get? m.event hget)]
        have hfind' : (s.yieldToRival m.event).find? m.event =
            some { e with membership := e.membership.written } := by
          rw [find?, hget', Option.filter_some, if_pos hdeleted]
        simp only [Option.isNone_some, Bool.false_eq_true, if_false, hfind', Option.any_some]
        split
        · rename_i hversion
          refine .written hfound (.inr (of_decide_eq_true hversion).symm) ?_
          rw [← ledger_remember_remember m.event fun m => m.written, ledger, modify, hevents]
          rfl
        · exact .rivalled (by simp) hfound (congrArg (List.map _) hevents)

end EventStore

end Matchday

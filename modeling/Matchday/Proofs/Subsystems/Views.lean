import Matchday.Proofs.Concurrent.History
import Matchday.Proofs.Store.Calls

/-!
What a subsystem sees of the store of events. All three share the stored events and the store's calls, but each
reads and writes other fields of an event and has calls and failures of its own. Its view of the store is the
store in which all the rest is as if nothing had ever happened to it.

A call of a subsystem does the same on the view as on the store, and leaves every other subsystem's view as it
was. So views can stand in for the store in whatever a subsystem does.

Main statements: `Subsystem.events_call`, `EventStore.Calls.unseen`.
-/

namespace Matchday
set_option autoImplicit false

/-- The subsystem that makes a call. -/
def EventCall.subsystem : EventCall → Subsystem
  | findMissing | setCoordinates | findLocation => .locating
  | loadMembership | persistMembership => .members
  | addPaid => .payments

/-- An event of which nothing is known. -/
def StoredEvent.bare (id : EventId) : StoredEvent := .create ⟨id, "", none, none, .newYear⟩

namespace Subsystem

/-- What a subsystem sees of an event. -/
def event (e : StoredEvent) : Subsystem → StoredEvent
  | members => { StoredEvent.bare e.id with membership := e.membership, deleted := e.deleted }
  | locating => { StoredEvent.create e.location with endsAt := e.endsAt, deleted := e.deleted }
  | payments => { StoredEvent.bare e.id with paid := e.paid }

/-- The failures of a subsystem's own calls. -/
def faults (k : Subsystem) (f : Faults EventCall) : Faults EventCall :=
  ⟨fun c => if c.subsystem = k then f.left c else 0⟩

/-- What a subsystem sees of the store of events. -/
def events (k : Subsystem) (s : EventStore) : EventStore where
  events := s.events.map fun e => k.event e
  writes := if k = locating then s.writes else []
  faults := k.faults s.faults
  rivals := if k = members then s.rivals else 0
  isClosed := s.isClosed

variable {k : Subsystem} {s : EventStore} {id : EventId}

/-! ## Events -/

@[simp] theorem id_event (k : Subsystem) (e : StoredEvent) : (k.event e).id = e.id := by
  cases k <;> rfl

@[simp] theorem event_event (k : Subsystem) (e : StoredEvent) : k.event (k.event e) = k.event e := by
  cases k <;> rfl

theorem get?_events (k : Subsystem) (s : EventStore) (id : EventId) :
    (k.events s).get? id = (s.get? id).map fun e => k.event e := by
  have hid : ((fun e : StoredEvent => decide (e.id = id)) ∘ fun e => k.event e) = fun e => decide (e.id = id) := by
    funext e
    simp
  rw [EventStore.get?, events, List.find?_map, hid]
  rfl

@[simp] theorem events_events (k : Subsystem) (s : EventStore) : k.events (k.events s) = k.events s := by
  have hevents : ((fun e => k.event e) ∘ fun e => k.event e) = fun e => k.event e := funext (event_event k)
  have hfaults : k.faults (k.faults s.faults) = k.faults s.faults := by
    simp only [faults, Faults.mk.injEq]
    funext c
    split <;> rfl
  rw [events, events, List.map_map, hevents, hfaults]
  cases k <;> rfl

/-- A change of an event that looks like another one is that other one for who sees it. -/
theorem events_modify (id : EventId) {f g : StoredEvent → StoredEvent}
    (seen : ∀ e, k.event (f e) = g (k.event e)) : k.events (s.modify id f) = (k.events s).modify id g := by
  simp only [events, EventStore.modify, List.map_map, EventStore.mk.injEq, and_self, and_true]
  refine List.map_congr_left fun e _ => ?_
  show k.event (if e.id = id then f e else e) = if (k.event e).id = id then g (k.event e) else k.event e
  rw [id_event]
  split
  · exact seen e
  · rfl

theorem events_modify_other (id : EventId) {f : StoredEvent → StoredEvent}
    (unseen : ∀ e, k.event (f e) = k.event e) : k.events (s.modify id f) = k.events s := by
  have hsame := events_modify (s := s) id (g := fun e => e) unseen
  rw [hsame, EventStore.modify]
  simp only [ite_self, List.map_id']

/-! ## Calls -/

theorem faults_spend_own {c : EventCall} (own : c.subsystem = k) (f : Faults EventCall) :
    k.faults (f.spend c) = (k.faults f).spend c := by
  simp only [faults, Faults.spend, Faults.set, if_pos own, Faults.mk.injEq]
  funext d
  by_cases h : d = c
  · rw [if_pos h, if_pos h, h, if_pos own]
  · rw [if_neg h, if_neg h]

theorem faults_spend_other {c : EventCall} (other : c.subsystem ≠ k) (f : Faults EventCall) :
    k.faults (f.spend c) = k.faults f := by
  simp only [faults, Faults.spend, Faults.set, Faults.mk.injEq]
  funext d
  by_cases h : d.subsystem = k
  · have hne : d ≠ c := fun heq => other (heq ▸ h)
    rw [if_pos h, if_pos h, if_neg hne]
  · rw [if_neg h, if_neg h]

/-- A subsystem's own call does the same on what it sees, if its work does. -/
theorem events_call {α : Type} {c : EventCall} (own : c.subsystem = k) (event : Option EventId)
    {work : EventStore → Except EventStoreError α × EventStore}
    (same : work (k.events s) = ((work s).1, k.events (work s).2)) :
    (k.events s).call c event work = ((s.call c event work).1, k.events (s.call c event work).2) := by
  have hpending : (k.events s).faults.pending c = s.faults.pending c := by
    show decide (0 < if c.subsystem = k then s.faults.left c else 0) = _
    rw [if_pos own]
    rfl
  have hspend : k.events { s with faults := s.faults.spend c } =
      { k.events s with faults := (k.events s).faults.spend c } := by
    show { k.events s with faults := k.faults (s.faults.spend c) } = _
    rw [faults_spend_own own]
    rfl
  have hclosed : (k.events s).isClosed = s.isClosed := rfl
  simp only [EventStore.call, hclosed, hpending, same]
  split
  · rfl
  · split
    · exact congrArg (Prod.mk _) hspend.symm
    · rfl

theorem events_call_other {α : Type} {c : EventCall} (other : c.subsystem ≠ k) (event : Option EventId)
    {work : EventStore → Except EventStoreError α × EventStore} (unseen : k.events (work s).2 = k.events s) :
    k.events (s.call c event work).2 = k.events s := by
  rw [EventStore.call]
  split
  · rfl
  · split
    · show { k.events s with faults := k.faults (s.faults.spend c) } = k.events s
      rw [faults_spend_other other]
      rfl
    · exact unseen

/-! ## A subsystem's own calls -/

theorem isSome_get?_events (k : Subsystem) (s : EventStore) (id : EventId) :
    ((k.events s).get? id).isSome = (s.get? id).isSome := by
  rw [get?_events, Option.isSome_map]

/-- Whoever sees that an event is deleted finds the same events. -/
theorem find?_events (id : EventId) (deleted : ∀ e, (k.event e).deleted = e.deleted) :
    (k.events s).find? id = (s.find? id).map fun e => k.event e := by
  rw [EventStore.find?, get?_events, EventStore.find?, Option.filter_map]
  simp only [Function.comp_def, deleted]

theorem events_loadMembership (s : EventStore) (id : EventId) : (members.events s).loadMembership id =
    ((s.loadMembership id).1, members.events (s.loadMembership id).2) := by
  refine events_call (k := members) (c := .loadMembership) rfl _ ?_
  simp only [find?_events (k := members) id fun _ => rfl, Option.map_map]
  rfl

theorem events_yieldToRival (s : EventStore) (id : EventId) :
    (members.events s).yieldToRival id = members.events (s.yieldToRival id) := by
  have hmodify : members.events (s.modify id fun e =>
        { e with membership := { e.membership with version := e.membership.version + 1 } }) =
      (members.events s).modify id fun e =>
        { e with membership := { e.membership with version := e.membership.version + 1 } } :=
    events_modify id fun _ => rfl
  rw [EventStore.yieldToRival, EventStore.yieldToRival, apply_ite members.events]
  exact if_congr Iff.rfl rfl (congrArg (fun s' : EventStore => { s' with rivals := s.rivals - 1 }) hmodify.symm)

theorem events_persistMembership (s : EventStore) (m : Membership) : (members.events s).persistMembership m =
    ((s.persistMembership m).1, members.events (s.persistMembership m).2) := by
  refine events_call (k := members) (c := .persistMembership) rfl _ ?_
  have hfind : ∀ s : EventStore,
      (members.events s).find? m.event = (s.find? m.event).map fun e => members.event e :=
    fun s => find?_events m.event fun _ => rfl
  have hversion : ∀ s : EventStore,
      (((members.events s).find? m.event).any fun e => e.membership.version = m.version) =
        (s.find? m.event).any fun e => e.membership.version = m.version := by
    intro s
    rw [hfind, Option.any_map]
    rfl
  have hmodify : ∀ s : EventStore, (members.events s).modify m.event (fun e =>
        { e with membership := { m with version := m.version + 1 } }) =
      members.events (s.modify m.event fun e => { e with membership := { m with version := m.version + 1 } }) :=
    fun s => (events_modify m.event fun _ => rfl).symm
  have hnone : ((members.events s).find? m.event).isNone = (s.find? m.event).isNone := by
    rw [hfind, Option.isNone_map]
  simp only [hnone, events_yieldToRival, hversion, hmodify]
  split
  · rfl
  · split <;> rfl

theorem events_findMissing (s : EventStore) (now : Instant) : (locating.events s).findMissing now =
    ((s.findMissing now).1, locating.events (s.findMissing now).2) := by
  refine events_call (k := locating) (c := .findMissing) rfl _ ?_
  have hmissing : ((locating.events s).events.filter (·.isMissing now)).map (·.location) =
      (s.events.filter (·.isMissing now)).map (·.location) := by
    rw [events, List.filter_map, List.map_map]
    rfl
  rw [hmissing]

theorem events_findLocation (s : EventStore) (id : EventId) : (locating.events s).findLocation id =
    ((s.findLocation id).1, locating.events (s.findLocation id).2) := by
  refine events_call (k := locating) (c := .findLocation) rfl _ ?_
  simp only [find?_events (k := locating) id fun _ => rfl, Option.map_map]
  rfl

theorem events_setCoordinates (s : EventStore) (id : EventId) (c : Coordinates) :
    (locating.events s).setCoordinates id c =
      ((s.setCoordinates id c).1, locating.events (s.setCoordinates id c).2) := by
  refine events_call (k := locating) (c := .setCoordinates) rfl _ ?_
  have hmodify : (locating.events s).modify id (fun e => { e with location := e.location.place c }) =
      locating.events (s.modify id fun e => { e with location := e.location.place c }) :=
    (events_modify id fun _ => rfl).symm
  simp only [isSome_get?_events]
  split
  · exact congrArg (fun s' : EventStore => (Except.ok (), { s' with writes := s.writes ++ [(id, c)] })) hmodify
  · rfl

theorem events_addPaid (s : EventStore) (id : EventId) (who : MemberId) : (payments.events s).addPaid id who =
    ((s.addPaid id who).1, payments.events (s.addPaid id who).2) := by
  refine events_call (k := payments) (c := .addPaid) rfl _ ?_
  have hmodify : (payments.events s).modify id (·.addPaid who) =
      payments.events (s.modify id (·.addPaid who)) := by
    refine (events_modify id fun e => ?_).symm
    show payments.event (e.addPaid who) = (payments.event e).addPaid who
    rw [StoredEvent.addPaid, StoredEvent.addPaid, apply_ite payments.event]
    rfl
  simp only [isSome_get?_events]
  split
  · rw [hmodify]
  · rfl

/-! ## Calls of other subsystems -/

theorem unseen_setCoordinates (other : k ≠ locating) (id : EventId) (c : Coordinates) :
    k.events (s.setCoordinates id c).2 = k.events s := by
  refine events_call_other (c := .setCoordinates) other.symm _ ?_
  have hmodify : k.events (s.modify id fun e => { e with location := e.location.place c }) = k.events s := by
    refine events_modify_other id fun e => ?_
    cases k with
    | locating => exact absurd rfl other
    | members | payments => rfl
  split
  · rw [← hmodify, events, events, if_neg other, if_neg other]
  · rfl

theorem unseen_yieldToRival (other : k ≠ members) (id : EventId) :
    k.events (s.yieldToRival id) = k.events s := by
  have hmodify : k.events (s.modify id fun e =>
      { e with membership := { e.membership with version := e.membership.version + 1 } }) = k.events s := by
    refine events_modify_other id fun e => ?_
    cases k with
    | members => exact absurd rfl other
    | locating | payments => rfl
  rw [EventStore.yieldToRival]
  split
  · rfl
  · rw [← hmodify, events, events, if_neg other, if_neg other]

theorem unseen_persistMembership (other : k ≠ members) (m : Membership) :
    k.events (s.persistMembership m).2 = k.events s := by
  refine events_call_other (c := .persistMembership) other.symm _ ?_
  dsimp only
  split
  · rfl
  · split
    · refine Eq.trans ?_ (unseen_yieldToRival other m.event)
      refine events_modify_other m.event fun e => ?_
      cases k with
      | members => exact absurd rfl other
      | locating | payments => rfl
    · exact unseen_yieldToRival other m.event

theorem unseen_addPaid (other : k ≠ payments) (id : EventId) (who : MemberId) :
    k.events (s.addPaid id who).2 = k.events s := by
  refine events_call_other (c := .addPaid) other.symm _ ?_
  split
  · refine events_modify_other id fun e => ?_
    show k.event (e.addPaid who) = k.event e
    rw [StoredEvent.addPaid]
    split
    · rfl
    · cases k with
      | payments => exact absurd rfl other
      | members | locating => rfl
  · rfl

end Subsystem

/-- What one subsystem calls, no other sees. -/
theorem EventStore.Calls.unseen {j k : Subsystem} {s s' : EventStore} (h : s.Calls j s') (other : k ≠ j) :
    k.events s' = k.events s := by
  cases h with
  | rested j => rfl
  | findMissing now => exact Subsystem.events_call_other (c := .findMissing) other.symm _ rfl
  | findLocation id => exact Subsystem.events_call_other (c := .findLocation) other.symm _ rfl
  | setCoordinates id c => exact Subsystem.unseen_setCoordinates other id c
  | loadMembership id => exact Subsystem.events_call_other (c := .loadMembership) other.symm _ rfl
  | persistMembership m => exact Subsystem.unseen_persistMembership other m

end Matchday

import Matchday.Proofs.Store.Calls
import Matchday.Proofs.Store.Events

/-!
The lists of paid members. Only recording a member changes one, and appends the member unless listed
already; every other call leaves the lists as they are.
-/

namespace Matchday.EventStore
set_option autoImplicit false

variable (s : EventStore)

/-- The members recorded as paid for an event, if the event is kept. -/
def paid? (id : EventId) : Option (List MemberId) := (s.get? id).map (·.paid)

/-- The events, and who has paid for each. -/
def paidLists : List (EventId × List MemberId) := s.events.map fun e => (e.id, e.paid)

/-- Whether the next member is recorded: the store is open, and no fault is left. -/
def isRecording : Bool := !s.isClosed && !s.faults.pending .addPaid

variable {s} {s' : EventStore}

theorem paid?_congr (h : s'.paidLists = s.paidLists) (id : EventId) : s'.paid? id = s.paid? id := by
  have hlists : ∀ s : EventStore, s.paid? id = (s.paidLists.find? fun p => p.1 = id).map (·.2) := by
    intro s
    rw [paid?, get?, paidLists, List.find?_map, Option.map_map]
    rfl
  rw [hlists s', hlists s, h]

/-! ## Calls that record nobody -/

/-- The same members are recorded as paid for the same events, and the next one is recorded if one was. -/
structure SamePaid (s s' : EventStore) : Prop where
  lists : s'.paidLists = s.paidLists
  records : s.isRecording = true → s'.isRecording = true

theorem isRecording_spend {c : EventCall} (hc : c ≠ .addPaid) (h : s.isRecording = true) :
    { s with faults := s.faults.spend c }.isRecording = true := by
  have hleft : (s.faults.spend c).left .addPaid = s.faults.left .addPaid := if_neg hc.symm
  rw [isRecording, Faults.pending] at h ⊢
  rw [hleft]
  exact h

/-- A call that is turned down records nobody. -/
theorem samePaid_call {α : Type} {c : EventCall} (hc : c ≠ .addPaid) (event : Option EventId)
    {work : EventStore → Except EventStoreError α × EventStore} (h : s.SamePaid (work s).2) :
    s.SamePaid (s.call c event work).2 := by
  unfold EventStore.call
  split
  · exact ⟨rfl, id⟩
  · split
    · exact ⟨rfl, isRecording_spend hc⟩
    · exact h

theorem paidLists_modify {id : EventId} {f : StoredEvent → StoredEvent}
    (hf : ∀ e, ((f e).id, (f e).paid) = (e.id, e.paid)) : (s.modify id f).paidLists = s.paidLists :=
  s.modify_map id hf

theorem Calls.samePaid {k : Subsystem} (h : s.Calls k s') : s.SamePaid s' := by
  cases h with
  | rested k => exact ⟨rfl, id⟩
  | findMissing now => exact samePaid_call (by decide) _ ⟨rfl, id⟩
  | findLocation id => exact samePaid_call (by decide) _ ⟨rfl, fun h => h⟩
  | loadMembership id => exact samePaid_call (by decide) _ ⟨rfl, fun h => h⟩
  | setCoordinates id c =>
    refine samePaid_call (by decide) _ ?_
    split
    · exact ⟨paidLists_modify fun _ => rfl, fun h => h⟩
    · exact ⟨rfl, fun h => h⟩
  | persistMembership m =>
    have hyield : s.SamePaid (s.yieldToRival m.event) := by
      unfold yieldToRival
      split
      · exact ⟨rfl, id⟩
      · exact ⟨paidLists_modify fun _ => rfl, id⟩
    refine samePaid_call (by decide) _ ?_
    dsimp only
    split
    · exact ⟨rfl, id⟩
    · split
      · refine ⟨Eq.trans ?_ hyield.lists, hyield.records⟩
        exact paidLists_modify fun _ => rfl
      · exact hyield

/-! ## Recording a member -/

theorem modify_of_get?_none {id : EventId} {f : StoredEvent → StoredEvent} (h : s.get? id = none) :
    (s.modify id f).events = s.events := by
  refine (List.map_congr_left fun e he => ?_).trans (List.map_id' _)
  have hne : ¬e.id = id := by simpa using List.find?_eq_none.1 h e he
  exact if_neg hne

theorem id_addPaid (e : StoredEvent) (who : MemberId) : (e.addPaid who).id = e.id := by
  unfold StoredEvent.addPaid
  split <;> rfl

/-- A member is recorded for an event that is kept, and for no other; the store goes on recording. -/
theorem addPaid_of_isRecording (h : s.isRecording = true) (id : EventId) (who : MemberId) :
    (s.addPaid id who).2.isRecording = true ∧ ∀ other, (s.addPaid id who).2.paid? other =
      (s.paid? other).map fun l => if other = id ∧ who ∉ l then l ++ [who] else l := by
  have hopen : s.isClosed = false ∧ s.faults.pending .addPaid = false := by
    simpa [isRecording] using h
  have hcall : (s.addPaid id who).2 = s.modify id (·.addPaid who) := by
    rw [addPaid, call, hopen.1, hopen.2]
    cases hget : s.get? id with
    | some e => rfl
    | none =>
      have hsame := modify_of_get?_none (f := (·.addPaid who)) hget
      simp only [modify] at hsame ⊢
      rw [hsame]
      rfl
  rw [hcall]
  refine ⟨h, fun other => ?_⟩
  rw [paid?, get?_modify id (fun e => id_addPaid e who) other, paid?]
  cases hget : s.get? other with
  | none => rfl
  | some e =>
    have hid := id_of_get? other hget
    by_cases hother : other = id
    · by_cases hwho : who ∈ e.paid
      · simp [hid, hother, hwho, StoredEvent.addPaid]
      · simp [hid, hother, hwho, StoredEvent.addPaid]
    · simp [hid, hother]

end Matchday.EventStore

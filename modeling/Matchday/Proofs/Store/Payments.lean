import Matchday.Store.Payments

/-!
What the calls of the store of payments make of it. A call that is turned down costs at most a fault; one
that is accepted does its work. Writing a status then sets it, whatever it was before, and reading finds
what is stored.
-/

namespace Matchday.PaymentStore
set_option autoImplicit false

variable (s : PaymentStore)

/-- Whether the next call of a kind does its work. -/
def accepts (c : PaymentCall) : Bool := !s.isClosed && !s.faults.pending c

/-- The store after a call of a kind was turned down. -/
def refused (c : PaymentCall) : PaymentStore :=
  { s with faults := if s.isClosed then s.faults else s.faults.spend c }

variable {s} {id : PaymentId}

theorem call_cases {α : Type} (s : PaymentStore) (c : PaymentCall) (id : PaymentId)
    (status : Option PaymentStatus)
    (work : PaymentStore → Except PaymentStoreError α × PaymentStore) :
    (s.accepts c = true ∧ s.call c id status work = work s) ∨
      s.accepts c = false ∧ ∃ e, s.call c id status work = (.error e, s.refused c) := by
  by_cases hclosed : s.isClosed = true
  · refine .inr ⟨by simp [accepts, hclosed], .unavailable c id status, ?_⟩
    rw [call, refused, if_pos hclosed, if_pos hclosed]
  · by_cases hfault : s.faults.pending c = true
    · refine .inr ⟨by simp [accepts, hfault], .simulated c, ?_⟩
      rw [call, refused, if_neg hclosed, if_pos hfault, if_neg hclosed]
    · refine .inl ⟨by simp [accepts, hclosed, hfault], ?_⟩
      rw [call, if_neg hclosed, if_neg hfault]

theorem find_cases (s : PaymentStore) (id : PaymentId) :
    (s.accepts .find = true ∧ s.find id = (.ok (s.get? id), s)) ∨
      s.accepts .find = false ∧ ∃ e, s.find id = (.error e, s.refused .find) :=
  s.call_cases .find id none _

/-! ## Statuses -/

theorem id_of_get? {p : Payment} (h : s.get? id = some p) : p.id = id := by
  simpa using List.find?_some h

/-- Changing a payment that is not stored changes nothing. -/
theorem modify_of_get?_none {f : Payment → Payment} (h : s.get? id = none) :
    (s.modify id f).payments = s.payments := by
  refine (List.map_congr_left fun p hp => ?_).trans (List.map_id' _)
  have hne : ¬p.id = id := by simpa using List.find?_eq_none.1 h p hp
  exact if_neg hne

/-- Writing a status sets it, if the payment is stored, or is turned down. -/
theorem updateStatus_cases (s : PaymentStore) (id : PaymentId) (status : PaymentStatus) :
    (s.accepts .updateStatus = true ∧ ∃ updates, s.updateStatus id status =
      (.ok (), { s.modify id (·.withStatus status) with updates })) ∨
      s.accepts .updateStatus = false ∧
        ∃ e, s.updateStatus id status = (.error e, s.refused .updateStatus) := by
  refine (s.call_cases .updateStatus id (some status) _).imp_left fun ⟨haccepts, heq⟩ =>
    ⟨haccepts, ?_⟩
  rw [updateStatus, heq]
  cases hget : s.get? id with
  | some p => exact ⟨_, rfl⟩
  | none =>
    refine ⟨s.updates, congrArg (Prod.mk _) ?_⟩
    have hsame := modify_of_get?_none (f := (·.withStatus status)) hget
    simp only [modify] at hsame ⊢
    rw [hsame]

theorem get?_modify (f : Payment → Payment) (hf : ∀ p, (f p).id = p.id) (other : PaymentId) :
    (s.modify id f).get? other = (s.get? other).map fun p => if p.id = id then f p else p := by
  rw [get?, modify, List.find?_map, get?]
  congr 2
  funext p
  show decide (Payment.id (if p.id = id then f p else p) = other) = decide (p.id = other)
  split
  · rw [hf p]
  · rfl

theorem status?_modify (status : PaymentStatus) (other : PaymentId) :
    (s.modify id (·.withStatus status)).status? other =
      if other = id then (s.status? other).map fun _ => status else s.status? other := by
  rw [status?, get?_modify (·.withStatus status) (fun _ => rfl), status?]
  cases hget : s.get? other with
  | none => simp
  | some p =>
    have hid := id_of_get? hget
    by_cases h : other = id <;> simp [hid, h, Payment.withStatus]

theorem status?_congr {s' : PaymentStore} (h : s'.payments = s.payments) (id : PaymentId) :
    s'.status? id = s.status? id := by
  rw [status?, get?, h]
  rfl

/-- A payment that is stored stays in its place when others are added. -/
theorem status?_insert {p : Payment} {status : PaymentStatus} (h : s.status? id = some status) :
    (s.insert p).2.status? id = some status := by
  obtain ⟨-, heq⟩ | ⟨-, e, heq⟩ := s.call_cases .insert p.id none
    fun s => (.ok p, { s with payments := s.payments ++ [p] })
  · obtain ⟨q, hq, hstatus⟩ := Option.map_eq_some_iff.1 h
    have hget : s.payments.find? (fun p => decide (p.id = id)) = some q := hq
    rw [insert, heq]
    show (List.find? _ (s.payments ++ [p])).map (·.status) = _
    rw [List.find?_append, hget]
    exact congrArg some hstatus
  · rw [insert, heq]
    exact h

/-! ## Settling payments one after the other -/

/-- The same payments are stored, and as many readings and writings of a status fail. -/
structure Alike (s s' : PaymentStore) : Prop where
  payments : s'.payments = s.payments
  isClosed : s'.isClosed = s.isClosed
  find : s'.faults.left .find = s.faults.left .find
  updateStatus : s'.faults.left .updateStatus = s.faults.left .updateStatus

/-- Of the payments whose status is tried to be written, those whose try is not set up to fail. -/
def written (s : PaymentStore) (tried : List PaymentId) : List PaymentId :=
  tried.drop (s.faults.left .updateStatus)

/-- What a store has become after some payments were tried to be settled, in this order. -/
structure Marked (s : PaymentStore) (tried : List PaymentId) (s' : PaymentStore) : Prop where
  isOpen : s'.isClosed = false
  finds : s'.faults.left .find = 0
  refusals : s'.faults.left .updateStatus = s.faults.left .updateStatus - tried.length
  payments : ∀ id, s'.get? id =
    (s.get? id).map fun p => if id ∈ s.written tried then p.withStatus .paid else p

variable {tried : List PaymentId} {s' : PaymentStore}

theorem mem_tried_of_mem_written (h : id ∈ s.written tried) : id ∈ tried :=
  List.mem_of_mem_drop h

/-- A try among the first leaves nothing behind. -/
theorem mem_written_concat {other : PaymentId} : id ∈ s.written (tried ++ [other]) ↔
    id ∈ s.written tried ∨ id = other ∧ s.faults.left .updateStatus ≤ tried.length := by
  rw [written, written, List.drop_append, List.mem_append]
  by_cases hle : s.faults.left .updateStatus ≤ tried.length
  · rw [Nat.sub_eq_zero_of_le hle, List.drop_zero, List.mem_singleton]
    simp [hle]
  · have hlen : [other].length ≤ s.faults.left .updateStatus - tried.length := by
      rw [List.length_singleton]
      omega
    rw [List.drop_eq_nil_of_le hlen]
    simp [hle]

theorem Marked.create (isOpen : s.isClosed = false) (finds : s.faults.left .find = 0) :
    s.Marked [] s where
  isOpen := isOpen
  finds := finds
  refusals := rfl
  payments := by simp [written]

theorem Marked.alike (h : s.Marked tried s') {s'' : PaymentStore} (alike : s'.Alike s'') :
    s.Marked tried s'' where
  isOpen := alike.isClosed.trans h.isOpen
  finds := alike.find.trans h.finds
  refusals := alike.updateStatus.trans h.refusals
  payments := by
    intro id
    rw [← h.payments, get?, alike.payments]
    rfl

theorem Marked.accepts_find (h : s.Marked tried s') : s'.accepts .find = true := by
  simp [accepts, Faults.pending, h.isOpen, h.finds]

theorem Marked.accepts_updateStatus (h : s.Marked tried s') :
    s'.accepts .updateStatus = true ↔ s.faults.left .updateStatus ≤ tried.length := by
  simp only [accepts, Faults.pending, h.isOpen, h.refusals, Bool.not_false, Bool.true_and,
    Bool.not_eq_true', decide_eq_false_iff_not]
  omega

theorem Marked.find (h : s.Marked tried s') (id : PaymentId) : (s'.find id).2 = s' := by
  obtain ⟨-, heq⟩ | ⟨hrefuses, -⟩ := s'.find_cases id
  · rw [heq]
  · rw [h.accepts_find] at hrefuses
    cases hrefuses

/-- One more payment is tried to be settled. -/
theorem Marked.updateStatus (h : s.Marked tried s') (id : PaymentId) :
    s.Marked (tried ++ [id]) (s'.updateStatus id .paid).2 := by
  have hrefusals := h.refusals
  obtain ⟨haccepts, updates, heq⟩ | ⟨hrefuses, e, heq⟩ := s'.updateStatus_cases id .paid
  · have hle := h.accepts_updateStatus.1 haccepts
    rw [heq]
    refine ⟨h.isOpen, h.finds, ?_, fun other => ?_⟩
    · show s'.faults.left .updateStatus = _
      rw [List.length_append, List.length_singleton]
      omega
    · show (s'.modify id (·.withStatus .paid)).get? other = _
      rw [get?_modify (·.withStatus .paid) (fun _ => rfl), h.payments other, Option.map_map]
      refine Option.map_congr fun p hp => ?_
      have hid : p.id = other := id_of_get? hp
      by_cases hother : other = id
      · subst hother
        have hafter : other ∈ s.written (tried ++ [other]) := mem_written_concat.2 (.inr ⟨rfl, hle⟩)
        by_cases hw : other ∈ s.written tried <;> simp [Payment.withStatus, hid, hw, hafter]
      · by_cases hw : other ∈ s.written tried <;>
          simp [mem_written_concat, Payment.withStatus, hid, hother, hw]
  · have hlt : ¬s.faults.left .updateStatus ≤ tried.length := by
      rw [← h.accepts_updateStatus, hrefuses]
      exact Bool.false_ne_true
    have hspent : s'.refused .updateStatus = { s' with faults := s'.faults.spend .updateStatus } := by
      rw [refused, h.isOpen]
      rfl
    rw [heq, hspent]
    refine ⟨h.isOpen, h.finds, ?_, fun other => ?_⟩
    · show s'.faults.left .updateStatus - 1 = _
      rw [List.length_append, List.length_singleton]
      omega
    · show s'.get? other = _
      rw [h.payments other]
      simp [mem_written_concat, hlt]

end Matchday.PaymentStore

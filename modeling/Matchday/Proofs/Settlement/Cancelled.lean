import Matchday.Proofs.Settlement.Stages

/-!
Settlements of cancelled payments. Only a question that loads the status first looks at it; neither the
other question nor a settlement does, so a settlement turns a payment that it finds cancelled into a paid
one. It finds none cancelled if nobody asks without looking while there is no status that may be settled,
and nobody cancels a payment that is being pursued: what is pursued is then stored and not cancelled
(`Machine.Standing`).

Main statement: `Machine.cancelled_run`.
-/

namespace Matchday
set_option autoImplicit false

/-- Whether a task may yet settle a payment, or let its settlement begin. -/
def Task.pursues (payment : PaymentId) : Task → Bool
  | query other none | status other (.asking (.ok (some .pending))) => other = payment
  | settlement other stage => other = payment && stage.result?.isNone
  | _ => false

theorem Task.pursues_task {payment : PaymentId} {c : Call} {now : Nat}
    (h : (c.task now).pursues payment = true) : c = .query payment := by
  cases c with
  | query other => rw [of_decide_eq_true h]
  | _ => cases h

theorem Task.pursues_of_asks? {payment : PaymentId} {t : Task} (h : t.asks? = some payment) :
    t.pursues payment = true := by
  unfold asks? at h
  split at h
  · injection h with h
    exact decide_eq_true h
  · injection h with h
    exact decide_eq_true h
  · cases h

/-- A task that pursues a payment after its step did so before, or loads its status, which is pending. -/
theorem Task.pursues_of_step {b : Backend} {goOn : Bool} {t : Task} {payment : PaymentId}
    (h : (t.step b goOn).1.pursues payment = true) (unfinished : t.isFinished = false) :
    t.pursues payment = true ∨ b.payments.status? payment = some .pending := by
  cases t with
  | status other stage =>
    cases stage with
    | starting =>
      right
      have hstep : (Task.step b goOn (.status other .starting)).1 =
          .status other (.asking (b.loadStatus other).1) := rfl
      rw [hstep] at h
      unfold pursues at h
      split at h
      · rename_i heq
        cases heq
      · rename_i heq
        injection heq with hother hload
        injection hload with hload
        rw [← of_decide_eq_true h, ← hother]
        exact Backend.status?_of_loadStatus hload
      · rename_i heq
        cases heq
      · cases h
    | asking answer => cases h
    | finished answer scheduled => cases unfinished
  | settlement other stage =>
    refine .inl ?_
    have hboth : (decide (other = payment) && _) = true := h
    rw [Bool.and_eq_true] at hboth
    cases stage with
    | finished outcome => cases unfinished
    | _ => exact Bool.and_eq_true_iff.2 ⟨hboth.1, rfl⟩
  | mark event address recheckAfter answer => cases answer <;> cases h
  | observe location answer => cases answer <;> cases h
  | query other answer => cases answer <;> cases h
  | _ => cases h

/-! ## Statuses that may be settled -/

/-- Whether the status of a payment may be settled: the payment is stored and not cancelled. -/
def PaymentStore.stands (s : PaymentStore) (payment : PaymentId) : Bool :=
  (s.status? payment).any (· ≠ .cancelled)

theorem PaymentStore.stands_insert {s : PaymentStore} {payment : PaymentId} (p : Payment)
    (h : s.stands payment = true) : (s.insert p).2.stands payment = true := by
  obtain ⟨status, hstatus, hne⟩ := (Option.any_eq_true _ _).1 h
  exact (Option.any_eq_true _ _).2 ⟨status, status?_insert hstatus, hne⟩

theorem PaymentStore.stands_updateStatus {s : PaymentStore} {payment other : PaymentId}
    {status : PaymentStatus} (h : s.stands payment = true)
    (uncancelled : other = payment → status ≠ .cancelled) :
    (s.updateStatus other status).2.stands payment = true := by
  obtain ⟨-, updates, heq⟩ | ⟨-, e, heq⟩ := s.updateStatus_cases other status
  · rw [heq]
    show Option.any _ ((s.modify other (·.withStatus status)).status? payment) = true
    obtain ⟨before, hbefore, hne⟩ := (Option.any_eq_true _ _).1 h
    rw [status?_modify, hbefore]
    by_cases hother : payment = other
    · rw [if_pos hother]
      exact decide_eq_true (uncancelled hother.symm)
    · rw [if_neg hother]
      exact hne
  · rw [heq]
    exact h

theorem PaymentStore.stands_congr {s s' : PaymentStore} (h : s'.payments = s.payments)
    (payment : PaymentId) : s'.stands payment = s.stands payment := by
  rw [stands, status?_congr h]
  rfl

/-- Changes from outside leave a status to be settled, unless they cancel the payment. -/
theorem Backend.stands_change {b : Backend} {payment : PaymentId} {c : Change}
    (h : b.payments.stands payment = true) (uncancelled : c ≠ .setStatus payment .cancelled) :
    (b.change c).payments.stands payment = true := by
  cases c with
  | addPayment p => exact PaymentStore.stands_insert p h
  | setStatus other status =>
    refine PaymentStore.stands_updateStatus h ?_
    rintro rfl rfl
    exact uncancelled rfl
  | _ => exact h

namespace Machine

variable {m : Machine} {payment : PaymentId}

/-! ## Who upsets a settlement -/

/-- Whether some task pursues a payment. -/
def isPursued (payment : PaymentId) (m : Machine) : Bool := m.tasks.any fun e => e.2.pursues payment

/-- The actions by which a settlement may come to find its payment cancelled: a question that does not look
while the payment may not be settled, and a cancellation while the payment is pursued. -/
def upsets (payment : PaymentId) (m : Machine) : Action → List Action
  | .call (.query other) =>
    if other = payment ∧ m.backend.payments.stands payment = false then [.call (.query other)] else []
  | .change (.setStatus other .cancelled) =>
    if other = payment ∧ m.isPursued payment = true then [.change (.setStatus other .cancelled)] else []
  | _ => []

/-- The status that a settlement of a payment finds stored when it goes on. -/
def finds (payment : PaymentId) (m : Machine) : Action → List (Option PaymentStatus)
  | .step id _ =>
    match m.ready? id with
    | some (.settlement other _) =>
      if other = payment then [m.backend.payments.status? payment] else []
    | _ => []
  | _ => []

/-- The time at which the settlement of a payment turns it from cancelled into paid. -/
def overrides (payment : PaymentId) (m : Machine) (a : Action) : List Nat :=
  if m.backend.payments.status? payment = some .cancelled ∧
      m.backend.payments.accepts .updateStatus = true
  then m.marks payment a else []

/-- What is pursued may be settled. -/
def Standing (payment : PaymentId) (m : Machine) : Prop :=
  m.isPursued payment = true → m.backend.payments.stands payment = true

theorem isPursued_of_mem {e : TaskId × Task} (mem : e ∈ m.tasks)
    (pursues : e.2.pursues payment = true) : m.isPursued payment = true :=
  List.any_eq_true.2 ⟨e, mem, pursues⟩

theorem Standing.carried (h : m.Standing payment) {id : TaskId} {goOn : Bool} {t : Task}
    (ready : m.ready? id = some t) : (m.carried id goOn t).Standing payment := by
  intro hpursued
  obtain ⟨e, he, hpursues⟩ := List.any_eq_true.1 hpursued
  have hself := mem_of_ready? ready
  have hstands : m.backend.payments.stands payment = true := by
    obtain rfl | ⟨hold, -⟩ | ⟨other, hasks, -, rfl⟩ := mem_carried he
    · obtain hbefore | hpending := Task.pursues_of_step hpursues (isFinished_of_ready? ready)
      · exact h (isPursued_of_mem hself hbefore)
      · rw [PaymentStore.stands, hpending]
        rfl
    · exact h (isPursued_of_mem hold hpursues)
    · have hother : other = payment := of_decide_eq_true (Bool.and_eq_true_iff.1 hpursues).1
      rw [hother] at hasks
      exact h (isPursued_of_mem hself (Task.pursues_of_asks? hasks))
  rw [carried_backend]
  by_cases hmarking : ∃ other, t = .settlement other .marking
  · obtain ⟨other, rfl⟩ := hmarking
    show (Settlement.mark m.backend other).2.payments.stands payment = true
    rw [Settlement.payments_mark]
    exact PaymentStore.stands_updateStatus hstands fun _ => by decide
  · rw [PaymentStore.stands_congr (t.step_payments m.backend goOn fun other ht => hmarking ⟨other, ht⟩)]
    exact hstands

theorem Standing.calm (h : m.Standing payment) {a : Action} (calm : m.Calm (m.act a) a)
    (silent : m.upsets payment a = []) : (m.act a).Standing payment := by
  intro hpursued
  obtain ⟨e, he, hpursues⟩ := List.any_eq_true.1 hpursued
  have hsteady : isSteady e.2 = true := by
    cases htask : e.2 with
    | worker w => rw [htask] at hpursues; cases hpursues
    | closing crew mode stage => rw [htask] at hpursues; cases hpursues
    | _ => rfl
  obtain hold | ⟨c, rfl, hc⟩ := calm.old e he hsteady
  · have hbefore := isPursued_of_mem hold hpursues
    have hstands := h hbefore
    obtain hsame | ⟨c, rfl, hchange⟩ := calm.payments
    · rw [hsame]
      exact hstands
    · rw [hchange]
      refine Backend.stands_change hstands ?_
      rintro rfl
      rw [upsets, if_pos ⟨rfl, hbefore⟩] at silent
      cases silent
  · rw [hc] at hpursues
    obtain rfl := Task.pursues_task hpursues
    show m.backend.payments.stands payment = true
    by_contra hno
    rw [Bool.not_eq_true] at hno
    rw [upsets, if_pos ⟨rfl, hno⟩] at silent
    cases silent

theorem standing_run (b : Backend) (actions : List Action)
    (silent : (create b).trace (upsets payment) actions = []) :
    ((create b).run actions).Standing payment := by
  induction actions using List.reverseRecOn with
  | nil => exact fun hpursued => absurd hpursued Bool.false_ne_true
  | append_singleton actions a ih =>
    rw [trace_concat, List.append_eq_nil_iff] at silent
    have hstanding := ih silent.1
    rw [run_concat]
    obtain ⟨id, goOn, t, rfl, hready, -, heq⟩ | calm := act_cases (named_run b actions) a
    · rw [heq]
      exact hstanding.carried hready
    · exact hstanding.calm calm silent.2

/-! ## What settlements find -/

/-- A settlement of a payment that may be settled finds it so. -/
theorem Standing.finds (h : m.Standing payment) (a : Action) :
    some .cancelled ∉ m.finds payment a := by
  intro hfound
  cases a with
  | step id goOn =>
    rw [Machine.finds] at hfound
    split at hfound
    · rename_i other stage hready
      split at hfound
      · rename_i hother
        rw [List.mem_singleton] at hfound
        have hpursues : (Task.settlement other stage).pursues payment = true := by
          have hunfinished := isFinished_of_ready? hready
          refine Bool.and_eq_true_iff.2 ⟨decide_eq_true hother, ?_⟩
          cases stage with
          | finished outcome => cases hunfinished
          | _ => rfl
        have hstands := h (isPursued_of_mem (mem_of_ready? hready) hpursues)
        rw [PaymentStore.stands, ← hfound] at hstands
        cases hstands
      · exact List.not_mem_nil hfound
    · exact List.not_mem_nil hfound
  | _ => exact List.not_mem_nil hfound

/-- A settlement that overrides a cancellation finds it. -/
theorem overrides_eq_nil {a : Action} (h : some .cancelled ∉ m.finds payment a) :
    m.overrides payment a = [] := by
  rw [overrides]
  split
  · rename_i hcancelled
    cases a with
    | step id goOn =>
      rw [finds] at h
      rw [marks]
      split
      · rename_i other stage hready
        by_cases hother : other = payment
        · rw [hready] at h
          simp only [if_pos hother, hcancelled.1] at h
          exact absurd (List.mem_singleton_self _) h
        · exact if_neg hother
      · rfl
    | _ => rfl
  · rfl

/-- A step leaves a cancelled payment so, but for that of its settlement that overrides this. -/
theorem status?_act_step (named : m.Named) (id : TaskId) (goOn : Bool)
    (cancelled : m.backend.payments.status? payment = some .cancelled) :
    (m.act (.step id goOn)).backend.payments.status? payment =
      some (if m.overrides payment (.step id goOn) = [] then .cancelled else .paid) := by
  obtain ⟨_, _, t, heq, hready, -, hact⟩ | calm := act_cases named (.step id goOn)
  · injection heq with hid hgoOn
    rw [← hid] at hready hact
    rw [hact, carried_backend]
    by_cases hmarking : ∃ other, t = .settlement other .marking
    · obtain ⟨other, rfl⟩ := hmarking
      have hmarks : m.marks payment (.step id goOn) = if other = payment then [m.now] else [] := by
        rw [marks, hready]
        rfl
      show (Settlement.mark m.backend other).2.payments.status? payment = _
      rw [Settlement.payments_mark]
      obtain ⟨haccepts, updates, hwrite⟩ | ⟨hrefuses, e, hwrite⟩ :=
        m.backend.payments.updateStatus_cases other .paid
      · rw [hwrite, overrides, hmarks]
        show (m.backend.payments.modify other (·.withStatus .paid)).status? payment = _
        rw [PaymentStore.status?_modify, cancelled]
        by_cases hother : other = payment
        · simp [hother, haccepts]
        · simp [hother, Ne.symm hother]
      · have hoverrides : m.overrides payment (.step id goOn) = [] :=
          if_neg fun hno => Bool.false_ne_true (hrefuses.symm.trans hno.2)
        rw [hwrite, hoverrides, if_pos rfl]
        exact cancelled
    · have hsilent : ∀ other, t ≠ .settlement other .marking := fun other ht => hmarking ⟨other, ht⟩
      rw [PaymentStore.status?_congr (t.step_payments m.backend _ hsilent), cancelled, overrides,
        marks_of_not_marking hready (hsilent payment), ite_self, if_pos rfl]
  · have hsame : (m.act (.step id goOn)).backend.payments = m.backend.payments := by
      obtain hsame | ⟨c, hc, -⟩ := calm.payments
      · exact hsame
      · cases hc
    rw [hsame, cancelled, overrides, marks_of_calm calm, ite_self, if_pos rfl]

/-! ## Runs -/

/-- What is noted along a run is part of what is noted more freely. -/
theorem trace_sublist {α : Type} {note free : Machine → Action → List α}
    (h : ∀ m a, (note m a).Sublist (free m a)) (m : Machine) (actions : List Action) :
    (m.trace note actions).Sublist (m.trace free actions) := by
  induction actions generalizing m with
  | nil => exact List.Sublist.refl []
  | cons a rest ih => exact (h m a).append (ih (m.act a))

theorem not_mem_finds_run (b : Backend) (actions : List Action)
    (silent : (create b).trace (upsets payment) actions = []) :
    some .cancelled ∉ (create b).trace (finds payment) actions := by
  induction actions using List.reverseRecOn with
  | nil => exact List.not_mem_nil
  | append_singleton actions a ih =>
    rw [trace_concat, List.append_eq_nil_iff] at silent
    rw [trace_concat, List.mem_append, not_or]
    exact ⟨ih silent.1, (standing_run b actions silent.1).finds a⟩

theorem overrides_run (b : Backend) (actions : List Action)
    (found : some .cancelled ∉ (create b).trace (finds payment) actions) :
    (create b).trace (overrides payment) actions = [] := by
  induction actions using List.reverseRecOn with
  | nil => rfl
  | append_singleton actions a ih =>
    rw [trace_concat, List.mem_append, not_or] at found
    rw [trace_concat, ih found.1, overrides_eq_nil found.2]
    rfl

/-- A step leaves a cancelled payment cancelled, unless the payment's settlement overrides this and makes it
paid, which happens once at most. It does not happen, nor does the settlement go on in any way while its
payment is cancelled, if nobody asks about the payment without looking while it is unknown or cancelled, and
nobody cancels it while it is pursued. -/
theorem cancelled_run (calendar : Instant) (events : EventStore) (payments : PaymentStore)
    (geocoders : Geocoders) (delay : Nat) (payment : PaymentId) (actions : List Action) :
    let start := create (.create calendar events payments geocoders delay)
    let m := start.run actions
    (∀ id goOn, m.backend.payments.status? payment = some .cancelled →
      (m.act (.step id goOn)).backend.payments.status? payment =
        some (if m.overrides payment (.step id goOn) = [] then .cancelled else .paid)) ∧
    (start.trace (overrides payment) actions).length ≤ 1 ∧
    (start.trace (upsets payment) actions = [] →
      some .cancelled ∉ start.trace (finds payment) actions ∧
        start.trace (overrides payment) actions = []) := by
  intro start m
  refine ⟨fun id goOn => status?_act_step (named_run _ actions) id goOn, ?_, fun silent => ?_⟩
  · have once : m.Once payment delay (start.trace (accepts payment) actions)
        (start.trace (marks payment) actions) :=
      once_run (.create calendar events payments geocoders delay) actions
    refine Nat.le_trans (trace_sublist (fun m a => ?_) start actions).length_le once.written_once.1
    show (overrides payment m a).Sublist (marks payment m a)
    rw [overrides]
    split
    · exact List.Sublist.refl _
    · exact List.nil_sublist _
  · have hfinds := not_mem_finds_run _ actions silent
    exact ⟨hfinds, overrides_run _ actions hfinds⟩

/-! ## Cancellations that are overridden -/

/-- A machine that keeps an event and a payment for it, in some status. -/
def atCounter (status : PaymentStatus) : Machine :=
  let payment := Payment.create ticket StoredEvent.small.id (.repeated 3) status
  create (.create .newYear (.insert .empty .small) (PaymentStore.empty.insert payment).2
    ⟨.scripted "primary" [], .scripted "secondary" []⟩ 10)

/-- The settlement of the payment goes on until it ends. -/
def settling : List Action := .wait 10 :: List.replicate 4 (.step (.settlement ticket) true)

/-- Somebody asks about the payment without looking, and its settlement begins to wait. -/
def askingBlindly : List Action :=
  [.call (.query ticket), .step (.call 0) true, .step (.settlement ticket) true]

/-- Somebody asks for the status, and the settlement of the payment begins to wait. -/
def asking : List Action :=
  [.call (.status ticket), .step (.call 0) true, .step (.call 0) true,
    .step (.settlement ticket) true]

/-- Whether the payment was cancelled before the question or is cancelled while its settlement waits, the
settlement makes it paid and records the member. -/
theorem cancelled_paid :
    (atCounter .cancelled).backend.payments.status? ticket = some .cancelled ∧
    ((atCounter .cancelled).run (askingBlindly ++ settling)).backend.payments.status? ticket =
      some .paid ∧
    ((atCounter .cancelled).run (askingBlindly ++ settling)).backend.events.paidMembers StoredEvent.small.id =
      [.repeated 3] ∧
    ((atCounter .pending).run
      (asking ++ [.change (.setStatus ticket .cancelled)])).backend.payments.status? ticket =
        some .cancelled ∧
    ((atCounter .pending).run
      (asking ++ [.change (.setStatus ticket .cancelled)] ++ settling)).backend.payments.status?
        ticket = some .paid ∧
    ((atCounter .pending).run
      (asking ++ [.change (.setStatus ticket .cancelled)] ++ settling)).backend.events.paidMembers
        StoredEvent.small.id = [.repeated 3] := by
  refine ⟨?_, ?_, ?_, ?_, ?_, ?_⟩ <;> rfl

/-- Neither question lets a settlement find the payment cancelled if this is done only when it is paid. -/
theorem cancelled_late :
    (atCounter .pending).trace (upsets ticket)
      (asking ++ settling ++ [.change (.setStatus ticket .cancelled), .call (.status ticket)]) = [] ∧
    some .cancelled ∉ (atCounter .pending).trace (finds ticket)
      (asking ++ settling ++ [.change (.setStatus ticket .cancelled), .call (.status ticket)]) := by
  have silent : (atCounter .pending).trace (upsets ticket)
      (asking ++ settling ++ [.change (.setStatus ticket .cancelled), .call (.status ticket)]) = [] :=
    rfl
  exact ⟨silent, ((cancelled_run _ _ _ _ _ ticket _).2.2 silent).1⟩

end Machine

end Matchday

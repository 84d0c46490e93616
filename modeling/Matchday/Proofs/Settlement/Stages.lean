import Matchday.Proofs.Settlement.Once
import Matchday.Proofs.Store.Payments

/-!
The stages of a settlement. `Settlement.Goes` lists what its next step may make of it and of the shared
state. A settlement that was not dropped tries to write the status of its payment in one step, and no
payment has its status tried twice (`Machine.attempted_run`). So the stage of a settlement tells which of its
two calls it has made (`Machine.noted_run`).
-/

namespace Matchday
set_option autoImplicit false

/-- The shared state when a settlement has ended. -/
def Backend.ends (b : Backend) (payment : PaymentId) (outcome : SettlementOutcome) : Backend :=
  { b with schedule := b.schedule.settled }.record (outcome.entries payment)

namespace Settlement

variable {b b' : Backend} {payment : PaymentId} {s s' : Settlement}

/-- What the next step of a settlement may do. -/
inductive Goes (b : Backend) (payment : PaymentId) : Settlement → Settlement → Backend → Prop where
  | begun : Goes b payment starting (waiting (.after b.now b.schedule.delay)) b
  | dropped (timer : Timer) (abandoned : b.schedule.isAbandoned = true) :
      Goes b payment (waiting timer) (finished .abandoned) (b.ends payment .abandoned)
  | woken (timer : Timer) (due : b.schedule.isAbandoned = true → timer.isDue b.now = true) :
      Goes b payment (waiting timer) marking b
  | marked (updates : Nat) (accepts : b.payments.accepts .updateStatus = true) :
      Goes b payment marking reloading
        { b with payments := { b.payments.modify payment (·.withStatus .paid) with updates } }
  | unmarked (e : PaymentStoreError) (refuses : b.payments.accepts .updateStatus = false) :
      Goes b payment marking (finished (.failed (.mark e)))
        ({ b with payments := b.payments.refused .updateStatus }.ends payment (.failed (.mark e)))
  | reloaded (p : Payment) (found : b.payments.get? payment = some p) :
      Goes b payment reloading (recording p) b
  | vanished (lost : b.payments.get? payment = none) :
      Goes b payment reloading (finished (.failed (.disappeared payment)))
        (b.ends payment (.failed (.disappeared payment)))
  | unread (e : PaymentStoreError) (refuses : b.payments.accepts .find = false) :
      Goes b payment reloading (finished (.failed (.reload e)))
        ({ b with payments := b.payments.refused .find }.ends payment (.failed (.reload e)))
  | recorded (p : Payment) (events : EventStore)
      (added : b.events.addPaid p.event p.member = (.ok (), events)) :
      Goes b payment (recording p) (finished .settled) ({ b with events }.ends payment .settled)
  | unrecorded (p : Payment) (e : EventStoreError) (events : EventStore)
      (refused : b.events.addPaid p.event p.member = (.error e, events)) :
      Goes b payment (recording p) (finished (.failed (.record e)))
        ({ b with events }.ends payment (.failed (.record e)))
  | stayed (outcome : SettlementOutcome) : Goes b payment (finished outcome) (finished outcome) b

theorem step_goes (b : Backend) (payment : PaymentId) (goOn : Bool) (s : Settlement) :
    Goes b payment s (s.step b payment goOn).1 (s.step b payment goOn).2 := by
  cases s with
  | starting => exact .begun
  | waiting timer =>
    simp only [Settlement.step]
    split
    · rename_i h
      rw [Bool.and_eq_true] at h
      exact .dropped timer h.1
    · rename_i h
      refine .woken timer fun habandoned => ?_
      simp only [habandoned, Bool.true_and, Bool.not_eq_true', Bool.not_eq_false,
        Bool.and_eq_true] at h
      exact h.2
  | marking =>
    rw [Settlement.step, Settlement.mark]
    obtain ⟨haccepts, updates, heq⟩ | ⟨hrefuses, e, heq⟩ :=
      b.payments.updateStatus_cases payment .paid
    · rw [heq]
      exact .marked updates haccepts
    · rw [heq]
      exact .unmarked e hrefuses
  | reloading =>
    rw [Settlement.step, Settlement.reload]
    obtain ⟨-, heq⟩ | ⟨hrefuses, e, heq⟩ := b.payments.find_cases payment
    · rw [heq]
      cases hget : b.payments.get? payment with
      | some p => exact .reloaded p hget
      | none => exact .vanished hget
    · rw [heq]
      exact .unread e hrefuses
  | recording p =>
    rw [Settlement.step, Settlement.recordPaid]
    cases hadd : b.events.addPaid p.event p.member with
    | mk answer events =>
      cases answer with
      | ok _ => exact .recorded p events hadd
      | error e => exact .unrecorded p e events hadd
  | finished outcome => exact .stayed outcome

/-- Whether a settlement has tried to write the status. -/
def hasMarked : Settlement → Bool
  | starting | waiting _ | marking | finished .abandoned => false
  | reloading | recording _ | finished .settled | finished (.failed _) => true

theorem Goes.hasMarked_iff (h : Goes b payment s s' b') :
    s'.hasMarked = true ↔ s.hasMarked = true ∨ s = marking := by
  cases h <;> simp [hasMarked]

/-- Whether a settlement has called for its member to be recorded. -/
def hasRecorded : Settlement → Bool
  | finished .settled | finished (.failed (.record _)) => true
  | _ => false

end Settlement

/-- The payment whose status a task tries to write in its next step. -/
def Task.tries? : Task → Option PaymentId
  | settlement payment .marking => some payment
  | _ => none

theorem Task.tries?_eq_some {t : Task} {payment : PaymentId} :
    t.tries? = some payment ↔ t = settlement payment .marking := by
  constructor
  · intro h
    unfold tries? at h
    split at h
    · injection h with h
      rw [h]
    · cases h
  · rintro rfl
    rfl

namespace Machine

variable {m : Machine} {payment : PaymentId} {tried : List PaymentId}

/-- The payment whose status is tried to be written. -/
def attempts (m : Machine) : Action → List PaymentId
  | .step id _ => ((m.ready? id).bind Task.tries?).toList
  | _ => []

theorem attempts_of_calm {m' : Machine} {a : Action} (h : m.Calm m' a) : m.attempts a = [] := by
  cases a with
  | step id goOn =>
    obtain hready | ⟨crew, mode, stage, hready⟩ := h.ready?_cases <;> rw [attempts, hready] <;> rfl
  | _ => rfl

theorem mem_attempts {id : TaskId} {goOn : Bool} {t : Task} (ready : m.ready? id = some t) :
    payment ∈ m.attempts (.step id goOn) ↔ t = .settlement payment .marking := by
  rw [attempts, ready, Option.mem_toList]
  exact Task.tries?_eq_some

/-- No status is tried to be written twice, and those that were tried are the payments whose settlements
are past their attempt. -/
structure Attempted (m : Machine) (tried : List PaymentId) : Prop where
  nodup : tried.Nodup
  marked : ∀ id payment stage, (id, .settlement payment stage) ∈ m.tasks →
    (stage.hasMarked = true ↔ payment ∈ tried)
  settles : ∀ payment ∈ tried, ∃ id stage, (id, .settlement payment stage) ∈ m.tasks

/-- Settlements stay when no task is carried on, and none is added. -/
theorem Calm.settlement_iff {m' : Machine} {a : Action} (calm : m.Calm m' a) {id : TaskId}
    {stage : Settlement} :
    (id, .settlement payment stage) ∈ m'.tasks ↔ (id, .settlement payment stage) ∈ m.tasks := by
  refine ⟨fun h => ?_, fun h => calm.stays _ h rfl⟩
  obtain hold | ⟨c, -, hc⟩ := calm.old _ h rfl
  · exact hold
  · have hnone := Task.settled?_task c m.now
    rw [← hc] at hnone
    cases hnone

theorem Attempted.calm (h : m.Attempted tried) {m' : Machine} {a : Action}
    (calm : m.Calm m' a) : m'.Attempted tried where
  nodup := h.nodup
  marked := fun id payment stage hmem => h.marked id payment stage (calm.settlement_iff.1 hmem)
  settles := by
    intro payment hp
    obtain ⟨id, stage, hmem⟩ := h.settles payment hp
    exact ⟨id, stage, calm.settlement_iff.2 hmem⟩

/-- Each settlement stays under way in some stage. -/
theorem exists_settlement_carried (named : m.Named) {id other : TaskId} {goOn : Bool} {t : Task}
    (ready : m.ready? id = some t) {stage : Settlement}
    (h : (other, .settlement payment stage) ∈ m.tasks) :
    ∃ id' stage', (id', .settlement payment stage') ∈ (m.carried id goOn t).tasks := by
  by_cases hid : other = id
  · rw [hid] at h
    obtain rfl := named.eq_of_mem (mem_of_ready? ready) h
    exact ⟨id, _, mem_carried_self goOn ready⟩
  · exact ⟨other, stage, mem_carried_of_ne h hid⟩

/-- What is found of a settlement behind a step of some task: it took this step, or it did not change, or
it was accepted by the step. -/
theorem settlement_carried (named : m.Named) {id other : TaskId} {goOn : Bool} {t : Task}
    (ready : m.ready? id = some t) {stage : Settlement}
    (h : (other, .settlement payment stage) ∈ (m.carried id goOn t).tasks) :
    (∃ before, t = .settlement payment before ∧ other = id ∧
      before.Goes m.backend payment stage (m.carried id goOn t).backend) ∨
    ((other, .settlement payment stage) ∈ m.tasks ∧ t.settled? ≠ some payment) ∨
    (stage = .starting ∧ t.asks? = some payment ∧
      m.backend.schedule.decision payment = .accepted) := by
  obtain heq | ⟨hold, hne⟩ | ⟨asked, hasks, haccepted, heq⟩ := mem_carried h
  · injection heq with hid htask
    have hkind := t.settled?_step m.backend goOn
    rw [← htask] at hkind
    obtain ⟨before, rfl⟩ := exists_settlement hkind.symm
    injection htask with _ hstage
    refine .inl ⟨before, rfl, hid, ?_⟩
    rw [carried_backend, hstage]
    exact before.step_goes m.backend payment goOn
  · refine .inr (.inl ⟨hold, fun hkind => hne ?_⟩)
    rw [named.eq_settlement hold rfl, named.eq_settlement (mem_of_ready? ready) hkind]
  · injection heq with _ heq
    injection heq with hpayment hstage
    rw [← hpayment] at hasks haccepted
    exact .inr (.inr ⟨hstage, hasks, haccepted⟩)

/-- A payment that was not asked about has no settlement. -/
theorem Named.not_mem_of_accepted (named : m.Named)
    (accepted : m.backend.schedule.decision payment = .accepted) {id : TaskId} {stage : Settlement} :
    (id, .settlement payment stage) ∉ m.tasks := by
  intro hmem
  have hname : TaskId.settlement payment ∈ m.names := by
    rw [← named.eq_settlement hmem rfl]
    exact List.mem_map_of_mem hmem
  exact Schedule.not_mem_of_accepted accepted (named.asked payment hname)

theorem Attempted.carried (h : m.Attempted tried) (named : m.Named) {id : TaskId} {goOn : Bool}
    {t : Task} (ready : m.ready? id = some t) :
    (m.carried id goOn t).Attempted (tried ++ m.attempts (.step id goOn)) where
  nodup := by
    refine List.nodup_append.2 ⟨h.nodup, ?_, ?_⟩
    · rw [attempts, ready]
      show t.tries?.toList.Nodup
      cases t.tries? with
      | none => exact List.nodup_nil
      | some payment => exact List.nodup_singleton payment
    · rintro payment hp _ hother rfl
      have ht := (mem_attempts ready).1 hother
      have hmem := mem_of_ready? ready
      rw [ht] at hmem
      exact absurd ((h.marked id payment .marking hmem).2 hp) (by decide)
  marked := by
    intro other payment stage hmem
    rw [List.mem_append, mem_attempts ready]
    obtain ⟨before, rfl, -, hgoes⟩ | ⟨hold, hne⟩ | ⟨rfl, hasks, haccepted⟩ :=
      settlement_carried named ready hmem
    · rw [hgoes.hasMarked_iff, h.marked id payment before (mem_of_ready? ready)]
      simp
    · rw [h.marked other payment stage hold]
      refine (or_iff_left fun ht => hne ?_).symm
      rw [ht]
      rfl
    · refine iff_of_false Bool.false_ne_true ?_
      rintro (hp | rfl)
      · obtain ⟨id', stage', hmem'⟩ := h.settles payment hp
        exact named.not_mem_of_accepted haccepted hmem'
      · cases hasks
  settles := by
    intro payment hp
    rw [List.mem_append, mem_attempts ready] at hp
    obtain hp | rfl := hp
    · obtain ⟨other, stage, hmem⟩ := h.settles payment hp
      exact exists_settlement_carried named ready hmem
    · exact exists_settlement_carried named ready (mem_of_ready? ready)

theorem Attempted.act (h : m.Attempted tried) (named : m.Named) (a : Action) :
    (m.act a).Attempted (tried ++ m.attempts a) := by
  obtain ⟨id, goOn, t, rfl, hready, -, heq⟩ | calm := act_cases named a
  · rw [heq]
    exact h.carried named hready
  · rw [attempts_of_calm calm, List.append_nil]
    exact h.calm calm

theorem attempted_run (b : Backend) (actions : List Action) :
    ((create b).run actions).Attempted ((create b).trace attempts actions) := by
  induction actions using List.reverseRecOn with
  | nil =>
    exact {
      nodup := List.nodup_nil
      marked := fun _ _ _ hmem => absurd hmem List.not_mem_nil
      settles := fun _ hp => absurd hp List.not_mem_nil }
  | append_singleton actions a ih =>
    rw [run_concat, trace_concat]
    exact ih.act (named_run b actions) a

/-- What was noted of the settlement of a payment tells how far it has come: it has called for the status
to be written, and for its member to be recorded, once or not yet. -/
structure Noted (payment : PaymentId) (m : Machine) (marked : List Nat) (recorded : List Payment) :
    Prop where
  reached : ∀ id stage, (id, .settlement payment stage) ∈ m.tasks →
    marked.length = stage.hasMarked.toNat ∧ recorded.length = stage.hasRecorded.toNat
  absent : (∀ id stage, (id, .settlement payment stage) ∉ m.tasks) → marked = [] ∧ recorded = []

section Noted
variable {marked : List Nat} {recorded : List Payment}

theorem Noted.calm (h : m.Noted payment marked recorded) {m' : Machine} {a : Action}
    (calm : m.Calm m' a) : m'.Noted payment marked recorded where
  reached := fun id stage hmem => h.reached id stage (calm.settlement_iff.1 hmem)
  absent := fun hnone => h.absent fun id stage hmem => hnone id stage (calm.settlement_iff.2 hmem)

/-- By a step of its own a settlement passes at most one of the two points. -/
theorem length_notes {id : TaskId} {goOn : Bool} {before stage : Settlement} {b : Backend}
    (ready : m.ready? id = some (.settlement payment before))
    (goes : before.Goes m.backend payment stage b) :
    before.hasMarked.toNat + (m.marks payment (.step id goOn)).length = stage.hasMarked.toNat ∧
      before.hasRecorded.toNat + (m.records payment (.step id goOn)).length =
        stage.hasRecorded.toNat := by
  rw [marks, records, ready]
  cases goes with
  | stayed outcome => cases isFinished_of_ready? ready
  | _ => simp [Settlement.marksNext, Settlement.hasMarked, Settlement.hasRecorded]

theorem Noted.carried (h : m.Noted payment marked recorded) (named : m.Named) {id : TaskId}
    {goOn : Bool} {t : Task} (ready : m.ready? id = some t) :
    (m.carried id goOn t).Noted payment (marked ++ m.marks payment (.step id goOn))
      (recorded ++ m.records payment (.step id goOn)) := by
  have hothers : t.settled? ≠ some payment → m.marks payment (.step id goOn) = [] ∧
      m.records payment (.step id goOn) = [] :=
    fun hne => ⟨marks_of_ne ready hne, records_of_ne ready hne⟩
  constructor
  case reached =>
    intro other stage hmem
    rw [List.length_append, List.length_append]
    obtain ⟨before, rfl, -, hgoes⟩ | ⟨hold, hne⟩ | ⟨rfl, hasks, haccepted⟩ :=
      settlement_carried named ready hmem
    · rw [(h.reached id before (mem_of_ready? ready)).1, (h.reached id before (mem_of_ready? ready)).2]
      exact length_notes ready hgoes
    · rw [(hothers hne).1, (hothers hne).2]
      exact h.reached other stage hold
    · have hne : t.settled? ≠ some payment := by
        intro hno
        obtain ⟨before, rfl⟩ := exists_settlement hno
        cases hasks
      have hnone := h.absent fun _ _ => named.not_mem_of_accepted haccepted
      rw [(hothers hne).1, (hothers hne).2, hnone.1, hnone.2]
      exact ⟨rfl, rfl⟩
  case absent =>
    intro hnone
    have hbefore : ∀ other stage, (other, .settlement payment stage) ∉ m.tasks := by
      intro other stage hmem
      obtain ⟨id', stage', hmem'⟩ := exists_settlement_carried named ready hmem
      exact hnone id' stage' hmem'
    have hne : t.settled? ≠ some payment := by
      intro hno
      obtain ⟨before, rfl⟩ := exists_settlement hno
      exact hbefore id before (mem_of_ready? ready)
    rw [(hothers hne).1, (hothers hne).2, (h.absent hbefore).1, (h.absent hbefore).2]
    exact ⟨rfl, rfl⟩

theorem Noted.act (h : m.Noted payment marked recorded) (named : m.Named) (a : Action) :
    (m.act a).Noted payment (marked ++ m.marks payment a) (recorded ++ m.records payment a) := by
  obtain ⟨id, goOn, t, rfl, hready, -, heq⟩ | calm := act_cases named a
  · rw [heq]
    exact h.carried named hready
  · rw [marks_of_calm calm, records_of_calm calm, List.append_nil, List.append_nil]
    exact h.calm calm

end Noted

/-- The payments that were accepted are those that have a settlement. -/
theorem accepts_ne_nil_iff (b : Backend) (actions : List Action) (payment : PaymentId) :
    (create b).trace (accepts payment) actions ≠ [] ↔
      ∃ id stage, (id, .settlement payment stage) ∈ ((create b).run actions).tasks := by
  have once : ((create b).run actions).Once payment b.schedule.delay
      ((create b).trace (accepts payment) actions) ((create b).trace (marks payment) actions) :=
    once_run b actions
  constructor
  · intro hne
    have hpos : 0 < ((create b).run actions).tally (settledShare payment) := by
      rw [once.tasks]
      exact List.length_pos_iff.2 hne
    obtain ⟨⟨id, t⟩, hmem, hshare⟩ := exists_of_tally_pos hpos
    obtain ⟨stage, rfl⟩ := exists_settlement (Option.mem_toList.1 (List.count_pos_iff.1 hshare))
    exact ⟨id, stage, hmem⟩
  · rintro ⟨id, stage, hmem⟩
    exact once.ne_nil_of_mem hmem

end Machine

end Matchday

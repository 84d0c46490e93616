import Matchday.Proofs.Settlement.Questions
import Matchday.Proofs.Store.Paid

/-!
Payments are settled at most once. The first question about a payment that is accepted lets its
settlement begin; whatever becomes of the settlement, the payment stays recorded, and no later question
is accepted.

For one payment the invariant is `Machine.Once`: as many calls were accepted as settlements have begun,
one at most, and each settlement is as far as the time since then allows. What is noted of a settlement's
writes is what happens to the stores (`Machine.posts_act`).

Main statement: `Machine.settled_once`.
-/

namespace Matchday.Machine
set_option autoImplicit false

variable {m : Machine} {payment : PaymentId}

/-! ## Histories -/

/-- The time at which a call is told that the settlement of a payment begins. -/
def accepts (payment : PaymentId) (m : Machine) : Action → List Nat
  | .step id goOn =>
    match m.ready? id with
    | some t =>
      if (t.step m.backend goOn).2.2 ∧ t.asks? = some payment then [m.now] else []
    | none => []
  | _ => []

/-- The time at which the status of a payment is written by its settlement. -/
def marks (payment : PaymentId) (m : Machine) : Action → List Nat
  | .step id _ =>
    match m.ready? id with
    | some (.settlement other stage) => if other = payment then stage.marksNext m.now else []
    | _ => []
  | _ => []

/-- The payment, as its settlement has read it, whose member this settlement calls to be recorded. -/
def records (payment : PaymentId) (m : Machine) : Action → List Payment
  | .step id _ =>
    match m.ready? id with
    | some (.settlement other (.recording p)) => if other = payment then [p] else []
    | _ => []
  | _ => []

theorem accepts_of_calm {m' : Machine} {a : Action} (h : m.Calm m' a) :
    m.accepts payment a = [] := by
  cases a with
  | step id goOn =>
    obtain hready | ⟨crew, mode, stage, hready⟩ := h.ready?_cases
    · rw [accepts, hready]
    · rw [accepts, hready]
      exact if_neg fun hno => absurd hno.1 (by simp [Task.step])
  | _ => rfl

theorem marks_of_calm {m' : Machine} {a : Action} (h : m.Calm m' a) :
    m.marks payment a = [] := by
  cases a with
  | step id goOn =>
    obtain hready | ⟨crew, mode, stage, hready⟩ := h.ready?_cases <;> rw [marks, hready]
  | _ => rfl

theorem records_of_calm {m' : Machine} {a : Action} (h : m.Calm m' a) :
    m.records payment a = [] := by
  cases a with
  | step id goOn =>
    obtain hready | ⟨crew, mode, stage, hready⟩ := h.ready?_cases <;> rw [records, hready]
  | _ => rfl

/-! ## What is written -/

section Ready
variable {id : TaskId} {goOn : Bool} {t : Task}

theorem marks_of_marking (ready : m.ready? id = some (.settlement payment .marking)) :
    m.marks payment (.step id goOn) = [m.now] := by
  rw [marks, ready]
  exact if_pos rfl

/-- Only a settlement that is about to write the status marks it. -/
theorem marks_of_not_marking (ready : m.ready? id = some t)
    (h : t ≠ .settlement payment .marking) : m.marks payment (.step id goOn) = [] := by
  rw [marks, ready]
  cases t with
  | settlement other stage =>
    refine ite_eq_right_iff.2 ?_
    rintro rfl
    cases stage with
    | marking => exact absurd rfl h
    | _ => rfl
  | _ => rfl

theorem records_of_recording {p : Payment}
    (ready : m.ready? id = some (.settlement payment (.recording p))) :
    m.records payment (.step id goOn) = [p] := by
  rw [records, ready]
  exact if_pos rfl

theorem records_of_not_recording (ready : m.ready? id = some t)
    (h : ∀ p, t ≠ .settlement payment (.recording p)) : m.records payment (.step id goOn) = [] := by
  rw [records, ready]
  cases t with
  | settlement other stage =>
    cases stage with
    | recording p =>
      refine if_neg ?_
      rintro rfl
      exact h p rfl
    | _ => rfl
  | _ => rfl

/-- The steps of other tasks are not those of the settlement of a payment. -/
theorem marks_of_ne (ready : m.ready? id = some t) (h : t.settled? ≠ some payment) :
    m.marks payment (.step id goOn) = [] := by
  refine marks_of_not_marking ready ?_
  rintro rfl
  exact h rfl

theorem records_of_ne (ready : m.ready? id = some t) (h : t.settled? ≠ some payment) :
    m.records payment (.step id goOn) = [] := by
  refine records_of_not_recording ready ?_
  rintro p rfl
  exact h rfl

end Ready

/-- What an action does to the stored payments and to the lists of paid members. By a mark it makes one
call of the store of payments, which writes this payment as paid, and by a record one of the store of
events, which records the member for the event. Without a mark the store of payments is read once at
most, and without a record the lists of paid members stay as they are. -/
structure Posts (m : Machine) (a : Action) : Prop where
  marked : ∀ payment, m.marks payment a ≠ [] → m.marks payment a = [m.now] ∧
    (m.act a).backend.payments = (m.backend.payments.updateStatus payment .paid).2
  unmarked : (∀ payment, m.marks payment a = []) →
    (m.act a).backend.payments = m.backend.payments ∨
      ∃ payment, (m.act a).backend.payments = (m.backend.payments.find payment).2
  recorded : ∀ payment p, p ∈ m.records payment a → m.records payment a = [p] ∧
    (m.act a).backend.events = (m.backend.events.addPaid p.event p.member).2
  unrecorded : (∀ payment, m.records payment a = []) →
    (m.act a).backend.events.paidLists = m.backend.events.paidLists

theorem posts_of_carried {id : TaskId} {goOn : Bool} {t : Task} (ready : m.ready? id = some t)
    (carried : m.act (.step id goOn) = m.carried id goOn t) : m.Posts (.step id goOn) := by
  have hbackend : (m.act (.step id goOn)).backend = (t.step m.backend goOn).2.1 := by
    rw [carried, carried_backend]
  constructor
  case marked =>
    intro payment hmarks
    have ht : t = .settlement payment .marking := by
      by_contra hno
      exact hmarks (marks_of_not_marking ready hno)
    rw [hbackend, ht]
    rw [ht] at ready
    exact ⟨marks_of_marking ready, Settlement.payments_mark m.backend payment⟩
  case unmarked =>
    intro silent
    rw [hbackend]
    refine t.step_finds m.backend goOn fun payment ht => ?_
    rw [ht] at ready
    have hno := silent payment
    rw [marks_of_marking ready] at hno
    cases hno
  case recorded =>
    intro payment p hp
    have ht : ∃ q, t = .settlement payment (.recording q) := by
      by_contra! hno
      rw [records_of_not_recording ready hno] at hp
      cases hp
    obtain ⟨q, rfl⟩ := ht
    rw [records_of_recording ready, List.mem_singleton] at hp
    rw [hp, hbackend]
    exact ⟨records_of_recording ready, Settlement.events_recordPaid m.backend payment q⟩
  case unrecorded =>
    intro silent
    rw [hbackend]
    obtain ⟨k, hcalls⟩ | ⟨payment, p, ht, -⟩ := t.step_calls m.backend goOn
    · exact hcalls.samePaid.lists
    · rw [ht] at ready
      have hno := silent payment
      rw [records_of_recording ready] at hno
      cases hno

/-- Nobody else writes a status or records a member, changes from outside apart. -/
theorem posts_act (named : m.Named) {a : Action} (inside : ∀ c, a ≠ .change c) : m.Posts a := by
  obtain ⟨id, goOn, t, rfl, hready, -, heq⟩ | calm := act_cases named a
  · exact posts_of_carried hready heq
  · exact {
      marked := fun payment hmarks => absurd (marks_of_calm calm) hmarks
      unmarked := fun _ => .inl (calm.payments.resolve_right fun ⟨c, hc, _⟩ => inside c hc)
      recorded := fun payment p hp => by
        rw [records_of_calm calm] at hp
        cases hp
      unrecorded := fun _ => by rw [calm.events.resolve_right fun ⟨c, hc, _⟩ => inside c hc] }

/-! ## Tallies of payments -/

section Tallies
variable {f : Option PaymentId → Nat} {id : TaskId} {t : Task}

/-- Calls are told of a settlement when it begins. -/
theorem tally_accepted (goOn : Bool) (hf : f none = 0) (named : m.Named)
    (ready : m.ready? id = some t) :
    ((m.carried id goOn t).tally fun t => f t.accepted?) = (m.tally fun t => f t.accepted?) +
      f (if (t.step m.backend goOn).2.2 then t.asks? else none) := by
  obtain ⟨hbefore, hafter⟩ := t.accepted?_step m.backend goOn (isFinished_of_ready? ready)
  have htally := tally_carried (f := fun t => f t.accepted?) goOn named.nodup
    (task?_of_ready? ready) fun _ => hf
  simp only [hbefore, hafter, hf] at htally
  exact htally

/-- So there are as many settlements. -/
theorem tally_settled (goOn : Bool) (hf : f none = 0) (named : m.Named)
    (ready : m.ready? id = some t) :
    ((m.carried id goOn t).tally fun t => f t.settled?) = (m.tally fun t => f t.settled?) +
      f (if (t.step m.backend goOn).2.2 then t.asks? else none) := by
  have htally := tally_exchanged (f := fun t => f t.settled?) goOn named.nodup
    (task?_of_ready? ready)
  simp only [t.settled?_step m.backend goOn] at htally
  obtain ⟨hbegins, heq⟩ | ⟨payment, hbegins, hasks, -, -, heq⟩ := carried_cases m id goOn t
  · rw [heq, hbegins, if_neg Bool.false_ne_true, hf]
    omega
  · have hnew : f (Task.settlement payment .starting).settled? = f (some payment) := rfl
    rw [heq, tally_spawn, hbegins, if_pos rfl, hasks, hnew]
    omega

end Tallies

/-! ## How many -/

/-- Each accepted question has its settlement, and each settlement under way is counted. -/
structure Counted (m : Machine) : Prop where
  running : m.backend.schedule.inFlight = m.tally fun t => t.isRunning.toNat
  accepted : (m.tally fun t => t.accepted?.isSome.toNat) =
    m.tally fun t => t.settled?.isSome.toNat

theorem counted_create (b : Backend) (h : b.schedule.inFlight = 0) : (create b).Counted :=
  ⟨h, rfl⟩

/-- If no settlement is under way, each has ended. -/
theorem Counted.outcome (h : m.Counted) (rests : m.backend.schedule.inFlight = 0) {id : TaskId}
    {payment : PaymentId} {stage : Settlement} (mem : (id, .settlement payment stage) ∈ m.tasks) :
    ∃ outcome, stage = .finished outcome := by
  have hle := le_tally (f := fun t => t.isRunning.toNat) mem
  rw [← h.running, rests] at hle
  cases stage with
  | finished outcome => exact ⟨outcome, rfl⟩
  | _ => exact absurd hle (Nat.not_succ_le_zero 0)

theorem Counted.carried (h : m.Counted) (named : m.Named) {id : TaskId} {goOn : Bool} {t : Task}
    (ready : m.ready? id = some t) : (m.carried id goOn t).Counted where
  running := by
    have hle := le_tally (f := fun t => t.isRunning.toNat) (mem_of_ready? ready)
    have hbefore := h.running
    have hcounted : t.isRunning = true → 0 < m.backend.schedule.inFlight := by
      intro hruns
      rw [hruns] at hle
      exact hbefore ▸ hle
    have hinFlight := (t.step_schedules m.backend goOn).inFlight hcounted
    have hruns := tally_exchanged (f := fun t => t.isRunning.toNat) goOn named.nodup
      (task?_of_ready? ready)
    rw [carried_backend]
    obtain ⟨hbegins, heq⟩ | ⟨payment, hbegins, -, -, -, heq⟩ := carried_cases m id goOn t
    · rw [hbegins, Bool.toNat_false] at hinFlight
      rw [heq]
      omega
    · have hone : (Task.settlement payment .starting).isRunning.toNat = 1 := rfl
      rw [hbegins, Bool.toNat_true] at hinFlight
      rw [heq, tally_spawn]
      omega
  accepted := by
    have hcalls := tally_accepted (f := fun o => o.isSome.toNat) goOn rfl named ready
    have htasks := tally_settled (f := fun o => o.isSome.toNat) goOn rfl named ready
    rw [hcalls, htasks, h.accepted]

theorem Counted.act (h : m.Counted) (named : m.Named) (a : Action) : (m.act a).Counted := by
  obtain ⟨id, goOn, t, -, hready, -, heq⟩ | calm := act_cases named a
  · rw [heq]
    exact h.carried named hready
  · constructor
    · rw [calm.inFlight_eq, h.running]
      exact (calm.tally _ (fun t => by rw [Task.isRunning_cancel]) (fun _ _ _ => rfl)
        fun c now => by rw [Task.isRunning_task]; rfl).symm
    · rw [calm.tally (fun t => t.accepted?.isSome.toNat) (fun t => by rw [Task.accepted?_cancel])
          (fun _ _ _ => rfl) (fun c now => by rw [Task.accepted?_task]; rfl),
        calm.tally (fun t => t.settled?.isSome.toNat) (fun t => by rw [Task.settled?_cancel])
          (fun _ _ _ => rfl) (fun c now => by rw [Task.settled?_task]; rfl)]
      exact h.accepted

theorem counted_run (b : Backend) (h : b.schedule.inFlight = 0) (actions : List Action) :
    ((create b).run actions).Counted := by
  induction actions using List.reverseRecOn with
  | nil => exact counted_create b h
  | append_singleton actions a ih =>
    rw [run_concat]
    exact ih.act (named_run b actions) a

/-- What is under way is what was accepted and has not ended. -/
theorem Counted.inFlight_add_settled (h : m.Counted) :
    m.backend.schedule.inFlight + (m.tally fun t => t.isSettled.toNat) =
      m.tally fun t => t.accepted?.isSome.toNat := by
  have hkinds : ∀ t : Task, t.settled?.isSome.toNat = t.isRunning.toNat + t.isSettled.toNat := by
    intro t
    cases t with
    | settlement payment stage => cases stage <;> rfl
    | _ => rfl
  rw [h.running, h.accepted, ← tally_add, funext hkinds]

/-! ## At most once -/

/-- The calls about a payment that were told that a settlement begins, and the settlements of it. -/
def acceptedShare (payment : PaymentId) (t : Task) : Nat := t.accepted?.toList.count payment

/-- How many settlements of a payment a task is: one or none. -/
def settledShare (payment : PaymentId) (t : Task) : Nat := t.settled?.toList.count payment

/-- A payment is accepted once at most, as long as it is not recorded; then it has one settlement, which
goes on in time. -/
structure Once (payment : PaymentId) (delay : Nat) (m : Machine) (accepts marks : List Nat) :
    Prop where
  calls : m.tally (acceptedShare payment) = accepts.length
  tasks : m.tally (settledShare payment) = accepts.length
  new : payment ∉ m.backend.schedule.scheduled → accepts = []
  single : accepts.length ≤ 1
  past : ∀ time ∈ accepts, time ≤ m.now
  waits : m.backend.schedule.delay = delay
  unmarked : accepts = [] → marks = []
  timely : ∀ id stage, (id, .settlement payment stage) ∈ m.tasks → ∀ time ∈ accepts,
    stage.Timely (time + min delay Timer.longest) m.now marks

variable {delay : Nat} {accepted marked : List Nat}

theorem Once.ne_nil_of_mem (h : m.Once payment delay accepted marked) {id : TaskId}
    {stage : Settlement} (mem : (id, .settlement payment stage) ∈ m.tasks) : accepted ≠ [] := by
  rintro rfl
  have hle := le_tally (f := settledShare payment) mem
  have hone : settledShare payment (.settlement payment stage) = 1 := by
    simp [settledShare, Task.settled?]
  rw [h.tasks, hone] at hle
  exact absurd hle (by decide)

theorem Once.calm (h : m.Once payment delay accepted marked) {m' : Machine} {a : Action}
    (calm : m.Calm m' a) : m'.Once payment delay accepted marked := by
  refine ⟨?_, ?_, ?_, h.single, ?_, calm.delay_eq.trans h.waits, h.unmarked, ?_⟩
  · rw [calm.tally _ (fun t => by rw [acceptedShare, Task.accepted?_cancel]; rfl) (fun _ _ _ => rfl)
      fun c now => by rw [acceptedShare, Task.accepted?_task]; rfl]
    exact h.calls
  · rw [calm.tally _ (fun t => by rw [settledShare, Task.settled?_cancel]; rfl) (fun _ _ _ => rfl)
      fun c now => by rw [settledShare, Task.settled?_task]; rfl]
    exact h.tasks
  · rw [calm.scheduled_eq]
    exact h.new
  · exact fun time htime => Nat.le_trans (h.past time htime) calm.now_le
  · intro id stage hmem time htime
    obtain hold | ⟨c, -, hc⟩ := calm.old _ hmem rfl
    · exact (h.timely id stage hold time htime).later calm.now_le
    · have hnone := Task.settled?_task c m.now
      rw [← hc] at hnone
      cases hnone

section Carried
variable {id : TaskId} {goOn : Bool} {t : Task}

theorem accepts_of_not (ready : m.ready? id = some t)
    (h : ¬((t.step m.backend goOn).2.2 = true ∧ t.asks? = some payment)) :
    m.accepts payment (.step id goOn) = [] := by
  rw [accepts, ready]
  exact if_neg h

/-- The steps of other tasks do not change what is known of a settlement. -/
theorem Once.timely_of_ne (h : m.Once payment delay accepted marked) (named : m.Named)
    (ready : m.ready? id = some t) {other : TaskId} {stage : Settlement}
    (mem : (other, .settlement payment stage) ∈ m.tasks) (ne : other ≠ id) :
    ∀ time ∈ accepted, stage.Timely (time + min delay Timer.longest) m.now
      (marked ++ m.marks payment (.step id goOn)) := by
  have hmarks : m.marks payment (.step id goOn) = [] := by
    refine marks_of_ne ready fun heq => ne ?_
    rw [named.eq_settlement mem rfl, named.eq_settlement (mem_of_ready? ready) heq]
  rw [hmarks, List.append_nil]
  exact h.timely other stage mem

theorem exists_settlement {t : Task} (h : t.settled? = some payment) :
    ∃ stage, t = .settlement payment stage := by
  cases t with
  | settlement other stage =>
    injection h with h
    exact ⟨stage, by rw [h]⟩
  | _ => cases h

theorem length_accepts (ready : m.ready? id = some t) :
    (m.accepts payment (.step id goOn)).length =
      (if (t.step m.backend goOn).2.2 then t.asks? else none).toList.count payment := by
  rw [accepts, ready]
  cases hbegins : (t.step m.backend goOn).2.2 with
  | false => simp [hbegins]
  | true =>
    cases hasks : t.asks? with
    | none => simp [hasks]
    | some other => by_cases heq : other = payment <;> simp [hbegins, hasks, heq]

/-- What was accepted is counted, and so is what began. -/
theorem Once.tallies (h : m.Once payment delay accepted marked) (named : m.Named)
    (ready : m.ready? id = some t) (goOn : Bool) :
    (m.carried id goOn t).tally (acceptedShare payment) =
        (accepted ++ m.accepts payment (.step id goOn)).length ∧
      (m.carried id goOn t).tally (settledShare payment) =
        (accepted ++ m.accepts payment (.step id goOn)).length := by
  have hcalls := tally_accepted (f := fun o => o.toList.count payment) goOn rfl named ready
  have htasks := tally_settled (f := fun o => o.toList.count payment) goOn rfl named ready
  rw [List.length_append, length_accepts ready]
  refine ⟨hcalls.trans ?_, htasks.trans ?_⟩
  · rw [← h.calls]
    rfl
  · rw [← h.tasks]
    rfl

/-- A call asks about a payment, and its settlement begins. -/
theorem Once.accept (h : m.Once payment delay accepted marked) (named : m.Named)
    (ready : m.ready? id = some t) (begins : (t.step m.backend goOn).2.2 = true)
    (asks : t.asks? = some payment) :
    (m.carried id goOn t).Once payment delay (accepted ++ [m.now]) marked := by
  have haccepts : m.accepts payment (.step id goOn) = [m.now] := by
    rw [accepts, ready]
    exact if_pos ⟨begins, asks⟩
  obtain ⟨hcalls, htasks⟩ := h.tallies named ready goOn
  rw [haccepts] at hcalls htasks
  obtain ⟨other, hasks, haccepted, hqueried⟩ :=
    (t.step_schedules m.backend goOn).of_begins begins
  rw [asks] at hasks
  injection hasks with hother
  rw [← hother] at haccepted hqueried
  have hempty : accepted = [] := h.new (Schedule.not_mem_of_accepted haccepted)
  have hbackend : (m.carried id goOn t).backend = (t.step m.backend goOn).2.1 := carried_backend
  refine ⟨hcalls, htasks, ?_, ?_, ?_, ?_, fun hno => absurd hno (by simp), ?_⟩
  · rw [hbackend, hqueried]
    exact fun hno => absurd (Schedule.mem_scheduled_queried _ _) hno
  · rw [hempty]
    exact Nat.le_refl 1
  · rw [hempty, now_carried]
    exact fun time htime => Nat.le_of_eq (List.mem_singleton.1 htime)
  · rw [hbackend, hqueried, Schedule.delay_queried]
    exact h.waits
  · intro other stage hmem time _
    obtain heq | ⟨hold, -⟩ | ⟨other, -, -, heq⟩ := mem_carried hmem
    · injection heq with _ heq
      have hkind := t.settled?_step m.backend goOn
      rw [← heq] at hkind
      obtain ⟨stage, hstage⟩ := exists_settlement hkind.symm
      exact absurd hstage (Task.ne_settlement_of_asks? asks)
    · exact absurd hempty (h.ne_nil_of_mem hold)
    · injection heq with _ heq
      injection heq with _ hstage
      rw [hstage]
      exact h.unmarked hempty

/-- A step that is not the acceptance of a question about a payment. -/
theorem Once.other (h : m.Once payment delay accepted marked) (named : m.Named)
    (ready : m.ready? id = some t)
    (no : ¬((t.step m.backend goOn).2.2 = true ∧ t.asks? = some payment)) :
    (m.carried id goOn t).Once payment delay accepted
      (marked ++ m.marks payment (.step id goOn)) := by
  have hmem := mem_of_ready? ready
  have hmoves := t.step_schedules m.backend goOn
  have hbackend : (m.carried id goOn t).backend = (t.step m.backend goOn).2.1 := carried_backend
  obtain ⟨hcalls, htasks⟩ := h.tallies named ready goOn
  rw [accepts_of_not ready no, List.append_nil] at hcalls htasks
  refine ⟨hcalls, htasks, ?_, h.single, ?_, ?_, ?_, ?_⟩
  · rw [hbackend]
    exact fun hno => h.new fun hold => hno (hmoves.scheduled_prefix.subset hold)
  · rw [now_carried]
    exact h.past
  · rw [hbackend, hmoves.delay_eq]
    exact h.waits
  · intro hempty
    have hmarks : m.marks payment (.step id goOn) = [] := by
      refine marks_of_ne ready fun hyes => ?_
      obtain ⟨stage, rfl⟩ := exists_settlement hyes
      exact h.ne_nil_of_mem hmem hempty
    rw [h.unmarked hempty, hmarks, List.append_nil]
  · intro other stage hother time htime
    rw [now_carried]
    obtain heq | ⟨hold, hne⟩ | ⟨asked, hasks, haccepted, heq⟩ := mem_carried hother
    · injection heq with _ heq
      have hsettles := t.settled?_step m.backend goOn
      rw [← heq] at hsettles
      obtain ⟨before, rfl⟩ := exists_settlement hsettles.symm
      have hmarks : m.marks payment (.step id goOn) = before.marksNext m.now := by
        rw [marks, ready]
        exact if_pos rfl
      injection heq with _ hstage
      rw [hmarks, hstage]
      exact (h.timely id before hmem time htime).step (h.past time htime) h.waits
        (isReady_of_ready? ready)
    · exact h.timely_of_ne named ready hold hne time htime
    · injection heq with _ heq
      injection heq with hpayment _
      rw [← hpayment] at hasks haccepted
      exact absurd (h.new (Schedule.not_mem_of_accepted haccepted)) (List.ne_nil_of_mem htime)

theorem Once.act (h : m.Once payment delay accepted marked) (named : m.Named) (a : Action) :
    (m.act a).Once payment delay (accepted ++ m.accepts payment a)
      (marked ++ m.marks payment a) := by
  obtain ⟨id, goOn, t, rfl, hready, -, heq⟩ | calm := act_cases named a
  · rw [heq]
    by_cases hyes : (t.step m.backend goOn).2.2 = true ∧ t.asks? = some payment
    · have haccepts : m.accepts payment (.step id goOn) = [m.now] := by
        rw [accepts, hready]
        exact if_pos hyes
      have hmarks : m.marks payment (.step id goOn) = [] := by
        refine marks_of_ne hready fun hno => ?_
        obtain ⟨stage, hstage⟩ := exists_settlement hno
        exact Task.ne_settlement_of_asks? hyes.2 hstage
      rw [haccepts, hmarks, List.append_nil]
      exact h.accept named hready hyes.1 hyes.2
    · rw [accepts_of_not hready hyes, List.append_nil]
      exact h.other named hready hyes
  · rw [accepts_of_calm calm, marks_of_calm calm, List.append_nil, List.append_nil]
    exact h.calm calm

end Carried

theorem once_run (b : Backend) (actions : List Action) :
    ((create b).run actions).Once payment b.schedule.delay
      ((create b).trace (accepts payment) actions) ((create b).trace (marks payment) actions) := by
  induction actions using List.reverseRecOn with
  | nil =>
    exact {
      calls := rfl
      tasks := rfl
      new := fun _ => rfl
      single := Nat.zero_le 1
      past := fun _ htime => absurd htime List.not_mem_nil
      waits := rfl
      unmarked := fun _ => rfl
      timely := fun _ _ hmem => absurd hmem List.not_mem_nil }
  | append_singleton actions a ih =>
    rw [run_concat, trace_concat, trace_concat]
    exact ih.act (named_run b actions) a

/-- A status is written once at most, by the only settlement of the payment, and in time. -/
theorem Once.written_once (h : m.Once payment delay accepted marked) :
    marked.length ≤ 1 ∧ ∀ written ∈ marked, ∃ time, accepted = [time] ∧
      time + min delay Timer.longest ≤ written := by
  by_cases hempty : accepted = []
  · rw [h.unmarked hempty]
    exact ⟨Nat.zero_le 1, fun _ hwritten => absurd hwritten List.not_mem_nil⟩
  · obtain ⟨time, htime⟩ : ∃ time, accepted = [time] := by
      have hpos := List.length_pos_iff.2 hempty
      have hsingle := h.single
      exact List.length_eq_one_iff.1 (by omega)
    have hpos : 0 < m.tally (settledShare payment) := by
      rw [h.tasks]
      exact List.length_pos_iff.2 hempty
    obtain ⟨⟨id, t⟩, hmem, hshare⟩ := exists_of_tally_pos hpos
    have hkind : t.settled? = some payment :=
      Option.mem_toList.1 (List.count_pos_iff.1 hshare)
    obtain ⟨stage, rfl⟩ := exists_settlement hkind
    obtain ⟨hlength, hdue⟩ := (h.timely id stage hmem time (by rw [htime]; exact .head _)).marks
    exact ⟨hlength, fun written hwritten => ⟨time, htime, hdue written hwritten⟩⟩

/-- For every payment, one question at most is told that a settlement begins, one settlement at most
begins, and it writes the status once at most, no earlier than the delay after this question, or thirty
years if the delay is longer. At each of these times the store of payments is called once to write it as
paid, and no other action, changes from outside apart, makes such a call. The recorded payments are those that were ever asked about, each once;
none is forgotten. The settlements under way and those that ended are as many as the questions that
were accepted. Every recorded payment was asked about by a call that did not look at its status, or by
one that loaded it as pending, when it was. -/
theorem settled_once (calendar : Instant) (events : EventStore) (payments : PaymentStore)
    (geocoders : Geocoders) (delay : Nat) (actions : List Action) :
    let start := create (.create calendar events payments geocoders delay)
    let m := start.run actions
    (∀ payment,
      m.tally (acceptedShare payment) ≤ 1 ∧ m.tally (settledShare payment) ≤ 1 ∧
      (start.trace (marks payment) actions).length ≤ 1 ∧
      ∀ written ∈ start.trace (marks payment) actions,
        ∃ time, start.trace (accepts payment) actions = [time] ∧
          time + min delay Timer.longest ≤ written) ∧
    (∀ earlier a, earlier ++ [a] <+: actions → (∀ c, a ≠ .change c) → (start.run earlier).Posts a) ∧
    m.backend.schedule.scheduled = (start.trace asked actions).eraseDups ∧
    m.backend.schedule.scheduled.length = Id.countDistinct (start.trace asked actions) ∧
    (∀ earlier, earlier <+: actions →
      (start.run earlier).backend.schedule.scheduled <+: m.backend.schedule.scheduled) ∧
    m.backend.schedule.inFlight + (m.tally fun t => t.isSettled.toNat) =
      (m.tally fun t => t.accepted?.isSome.toNat) ∧
    ∀ payment ∈ m.backend.schedule.scheduled,
      (∃ id answer, (id, .query payment (some answer)) ∈ m.tasks) ∨
        ∃ id scheduled,
          (id, .status payment (.finished (.ok (some .pending)) scheduled)) ∈ m.tasks ∧
            id ∈ start.trace (pendingLoads payment) actions := by
  intro start m
  have hscheduled : m.backend.schedule.scheduled = (start.trace asked actions).eraseDups :=
    scheduled_run _ rfl actions
  refine ⟨fun payment => ?_, fun earlier a _ inside => posts_act (named_run _ earlier) inside,
    hscheduled, congrArg List.length hscheduled, fun earlier le => scheduled_prefix_run _ rfl le,
    (counted_run _ rfl actions).inFlight_add_settled,
    fun payment hmem => (sourced_run _ rfl actions).source hmem⟩
  have once : m.Once payment delay (start.trace (accepts payment) actions)
      (start.trace (marks payment) actions) :=
    once_run (.create calendar events payments geocoders delay) actions
  refine ⟨?_, ?_, once.written_once⟩
  · rw [once.calls]
    exact once.single
  · rw [once.tasks]
    exact once.single

/-! ## A delay that is cut -/

/-- Some payment. -/
def ticket : PaymentId := .repeated 1

/-- A fresh machine on which settlements are to wait for a millisecond more than thirty years. -/
def atBoxOffice : Machine := create (.small .empty [] (Timer.longest + 1))

/-- A question is accepted, its settlement begins to wait, thirty years pass, and it writes the
status. -/
def waitingLongest : List Action :=
  [.call (.query ticket), .step (.call 0) true, .step (.settlement ticket) true,
    .wait Timer.longest, .step (.settlement ticket) true, .step (.settlement ticket) true]

/-- The status is written earlier than the delay after the question. -/
theorem settled_early :
    ∃ time written, atBoxOffice.trace (accepts ticket) waitingLongest = [time] ∧
      written ∈ atBoxOffice.trace (marks ticket) waitingLongest ∧
      written < time + atBoxOffice.backend.schedule.delay := by
  refine ⟨0, Timer.longest, rfl, ?_, by decide⟩
  decide

end Matchday.Machine

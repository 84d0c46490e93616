import Matchday.Proofs.Services.Remainder

/-!
The two workers and the sequential loop. If answers take no time and no round is interrupted, the queue, the store
of events and the geocoders are, at any time that is not a tick's, those after one sweep and then one pass for each
interval of the consumer that has gone by: the first sweep comes before the first pass, and each further sweep does
nothing.

A round in progress counts as done here. No step changes what it comes to, so the state can be compared with that
of the loop after every action, and the loop moves on when a round begins.

Main statement: `Machine.workers_refine`.
-/

namespace Matchday
set_option autoImplicit false

/-! ## The sequential loop -/

namespace Backend

/-- The state after so many sweeps and passes, of which the first sweep comes first and the others count for
nothing. -/
def looped (b : Backend) : Nat → Nat → Backend
  | 0, _ => b
  | _ + 1, k => b.sweep.2.passes k

/-- What so many sweeps answer. -/
def answers (b : Backend) : Nat → List (Except EventStoreError Nat)
  | 0 => []
  | s + 1 => b.sweep.1 :: List.replicate s (.ok 0)

section Loop
variable {b x : Backend} {s k : Nat} (isOpen : b.events.isClosed = false)
  (loads : b.events.faults.left .findMissing = 0)
include isOpen loads

theorem calendar_looped (s k : Nat) : (b.looped s k).calendar = b.calendar := by
  cases s with
  | zero => rfl
  | succ s =>
    obtain ⟨hswept, hcalendar⟩ := swept_sweep isOpen loads
    exact (hswept.passes k).2.trans hcalendar

/-- Where the loop has come to, a sweep is the first or does nothing. -/
theorem Alike.sweep (first : s = 0 → k = 0) (h : (b.looped s k).Alike x)
    (agrees : x.events.agrees b.calendar x.calendar = true) :
    (b.looped (s + 1) k).Alike x.sweep.2 ∧ b.answers s ++ [x.sweep.1] = b.answers (s + 1) := by
  have hagrees : (b.looped s k).events.agrees (b.looped s k).calendar x.calendar = true := by
    rw [calendar_looped isOpen loads, ← h.events]
    exact agrees
  have hstored : ∀ l ∈ Sweep.starting.locations, ∃ p ∈ (b.looped s k).events.times, p.1 = l.recheckAfter := by
    intro l hl
    cases hl
  obtain ⟨hanswer, halike⟩ := Sweep.finish_alike h hagrees hstored
  simp only [Sweep.finish] at hanswer halike
  rw [hanswer]
  cases s with
  | zero =>
    obtain rfl := first rfl
    exact ⟨halike, rfl⟩
  | succ s =>
    have hswept : (b.looped (s + 1) k).Swept := ((swept_sweep isOpen loads).1.passes k).1
    rw [hswept.sweep_eq] at halike ⊢
    refine ⟨halike, ?_⟩
    simp only [answers, List.replicate_succ', List.cons_append]

end Loop

theorem Alike.pass {b x : Backend} {s k : Nat} (later : s ≠ 0) (h : (b.looped s k).Alike x) :
    (b.looped s (k + 1)).Alike x.processNext.2 := by
  obtain ⟨s, rfl⟩ := Nat.exists_eq_succ_of_ne_zero later
  exact h.processNext

/-- What is left of a worker's round, done at once, comes to where the loop is after so many rounds of each. -/
structure Reaches (b : Backend) (begun : WorkerKind → Nat) (results : List (Except EventStoreError Nat))
    (w : Worker) (x : Backend) : Prop where
  alike : (b.looped (begun .sweep) (begun .consumer)).Alike (w.finish x)
  answered : results ++ (w.answer? x).toList = b.answers (begun .sweep)

variable {b x : Backend} {begun : WorkerKind → Nat} {results : List (Except EventStoreError Nat)} {w : Worker}

theorem reaches_iff_of_idle (idle : w.isBusy = false) : b.Reaches begun results w x ↔
    (b.looped (begun .sweep) (begun .consumer)).Alike x ∧ results = b.answers (begun .sweep) := by
  obtain ⟨hfinish, hanswer⟩ := Worker.finish_of_idle (b := x) idle
  constructor
  · rintro ⟨halike, hanswers⟩
    rw [hfinish] at halike
    rw [hanswer, Option.toList_none, List.append_nil] at hanswers
    exact ⟨halike, hanswers⟩
  · rintro ⟨halike, hanswers⟩
    refine ⟨?_, ?_⟩
    · rw [hfinish]
      exact halike
    · rw [hanswer, Option.toList_none, List.append_nil]
      exact hanswers

/-- A worker that goes on with its round, or ends it, leaves the loop where it is. -/
theorem Reaches.carries {stage : WorkerStage} {x' : Backend} (h : b.Reaches begun results w x)
    (carries : w.Carries x w.stage stage x') (going : w.isWaiting = false) :
    b.Reaches begun (results ++ w.result?.toList) (w.become stage) x' := by
  obtain ⟨hfinish, hanswer⟩ := carries.finish going
  refine ⟨h.alike.trans hfinish, ?_⟩
  rw [List.append_assoc, ← hanswer]
  exact h.answered

end Backend

/-! ## The two workers -/

namespace WorkerKind

def id : WorkerKind → TaskId := choose (.call 0) (.call 1)

theorem id_inj {kind other : WorkerKind} : kind.id = other.id ↔ kind = other := by
  cases kind <;> cases other <;> decide

theorem exists_other (kind : WorkerKind) : ∃ other : WorkerKind, ∀ third, third ≠ other → third = kind := by
  cases kind with
  | sweep =>
    refine ⟨.consumer, fun third hthird => ?_⟩
    cases third <;> trivial
  | consumer =>
    refine ⟨.sweep, fun third hthird => ?_⟩
    cases third <;> trivial

end WorkerKind

def Task.result? : Task → Option (Except EventStoreError Nat)
  | worker w => w.result?
  | _ => none

namespace Machine

/-- Whether an action is a step of a task while no other is in a round, time that passes only while every task
waits, or a change of the calendar by which no time comes that an event of some state has. -/
def uninterrupted (b : Backend) (m : Machine) : Action → Bool
  | .step id _ => m.tasks.all fun e => e.1 = id || !e.2.isBusy
  | .wait milliseconds => m.tasks.all fun e => m.heeds e.1 (.wait milliseconds)
  | .change (.setCalendar time) => b.events.agrees b.calendar time
  | _ => false

/-- What the sweep has answered whose round is over. -/
def sweepResults (m : Machine) : Action → List (Except EventStoreError Nat)
  | .step id _ => ((m.ready? id).bind Task.result?).toList
  | _ => []

/-- The two workers as tasks. -/
def crewed (crew : WorkerKind → Worker) : List (TaskId × Task) :=
  [WorkerKind.sweep, .consumer].map fun kind => (kind.id, .worker (crew kind))

/-- Whether no other worker is in a round. -/
def Alone (crew : WorkerKind → Worker) (kind : WorkerKind) : Prop :=
  ∀ other, other ≠ kind → (crew other).isBusy = false

variable {m : Machine} {crew : WorkerKind → Worker} {kind : WorkerKind}

theorem task?_crewed (tasks : m.tasks = crewed crew) (kind : WorkerKind) :
    m.task? kind.id = some (.worker (crew kind)) := by
  rw [task?, tasks]
  cases kind <;> rfl

theorem forall_mem_crewed {P : TaskId × Task → Prop} :
    (∀ e ∈ crewed crew, P e) ↔ ∀ kind : WorkerKind, P (kind.id, .worker (crew kind)) := by
  rw [crewed, List.forall_mem_map]
  refine ⟨fun h kind => h kind ?_, fun h kind _ => h kind⟩
  cases kind <;> simp

theorem exists_of_mem_crewed {e : TaskId × Task} (h : e ∈ crewed crew) :
    ∃ kind : WorkerKind, e = (kind.id, .worker (crew kind)) := by
  obtain ⟨kind, -, rfl⟩ := List.mem_map.1 h
  exact ⟨kind, rfl⟩

theorem put_crewed (tasks : m.tasks = crewed crew) (kind : WorkerKind) (w : Worker) :
    (m.put kind.id (.worker w)).tasks = crewed (Function.update crew kind w) := by
  rw [put, tasks]
  cases kind <;> rfl

theorem uninterrupted_step {b : Backend} (tasks : m.tasks = crewed crew) (kind : WorkerKind) (goOn : Bool) :
    m.uninterrupted b (.step kind.id goOn) = true ↔ Alone crew kind := by
  rw [uninterrupted, tasks, List.all_eq_true, forall_mem_crewed]
  apply forall_congr'
  intro other
  rw [Bool.or_eq_true, decide_eq_true_iff, WorkerKind.id_inj, Bool.not_eq_true', or_iff_not_imp_left]
  rfl

theorem act_crewed (tasks : m.tasks = crewed crew) (ready : (Task.worker (crew kind)).isReady m.backend = true)
    (goOn : Bool) :
    (m.act (.step kind.id goOn)).tasks = crewed (Function.update crew kind ((crew kind).step m.backend goOn).1) ∧
      (m.act (.step kind.id goOn)).backend = ((crew kind).step m.backend goOn).2 ∧
      m.sweepResults (.step kind.id goOn) = (crew kind).result?.toList := by
  have hready : m.ready? kind.id = some (.worker (crew kind)) := by
    have hcan : m.canStep (.worker (crew kind)) = true := (Bool.and_true _).trans ready
    rw [ready?, task?_crewed tasks]
    exact if_pos hcan
  rw [act_of_ready? hready rfl, sweepResults, hready]
  refine ⟨?_, carried_backend, rfl⟩
  have hexchanged : m.carried kind.id goOn (.worker (crew kind)) =
      m.exchanged kind.id goOn (.worker (crew kind)) := rfl
  rw [hexchanged]
  apply put_crewed tasks

theorem alone_of_waits (waits : ∀ kind, (crew kind).isWaiting = true) (kind : WorkerKind) : Alone crew kind :=
  fun other _ => Worker.isBusy_of_isWaiting (waits other)

theorem Alone.update (h : Alone crew kind) (w : Worker) : Alone (Function.update crew kind w) kind := by
  intro other hne
  rw [Function.update_of_ne hne]
  exact h other hne

/-- A machine on which nothing is but the two workers that began in some state. They keep pace, have begun so many
rounds, of which one at most is in progress, and when that is done have brought the state as far as the loop. -/
structure Refines (b : Backend) (periods : WorkerKind → Nat) (m : Machine) (crew : WorkerKind → Worker)
    (begun : WorkerKind → Nat) (results : List (Except EventStoreError Nat)) : Prop where
  isOpen : b.events.isClosed = false
  loads : b.events.faults.left .findMissing = 0
  tasks : m.tasks = crewed crew
  kinds : ∀ kind, (crew kind).kind = kind ∧ (crew kind).period = periods kind
  alone : ∃ kind, Alone crew kind
  paced : ∀ kind, (crew kind).InPace b.now m.now (begun kind)
  quick : m.backend.geocoders.isQuick 0 = true
  times : m.backend.events.times = b.events.times
  agrees : b.events.agrees b.calendar m.backend.calendar = true
  stored : ∀ kind, ∀ l ∈ (crew kind).locations, ∃ p ∈ b.events.times, p.1 = l.recheckAfter
  reaches : ∀ kind, Alone crew kind → b.Reaches begun results (crew kind) m.backend

variable {b : Backend} {periods : WorkerKind → Nat} {begun : WorkerKind → Nat}
  {results : List (Except EventStoreError Nat)}

theorem Refines.tick_eq (h : m.Refines b periods crew begun results) (kind : WorkerKind) (n : Nat) :
    (crew kind).tick b.now n = kind.tick b.now (periods kind) n := by
  rw [Worker.tick, (h.kinds kind).1, (h.kinds kind).2]

theorem Refines.period_pos (h : m.Refines b periods crew begun results) (kind : WorkerKind) :
    0 < periods kind := by
  rw [← (h.kinds kind).2]
  exact Nat.pos_of_ne_zero (h.paced kind).positive

/-! ## Steps -/

/-- The first sweep comes before the first pass. -/
theorem Refines.first (h : m.Refines b periods crew begun results) (unswept : begun .sweep = 0) :
    m.now ≤ b.now ∧ begun .consumer = 0 := by
  have hsweep := (h.paced .sweep).now_le_tick
  rw [h.tick_eq, unswept, WorkerKind.tick_sweep] at hsweep
  refine ⟨by omega, ?_⟩
  by_contra hsome
  obtain ⟨k, hk⟩ := Nat.exists_eq_succ_of_ne_zero hsome
  have hconsumer := h.paced .consumer
  rw [hk] at hconsumer
  have htick := hconsumer.tick_le_now
  rw [h.tick_eq, WorkerKind.tick_consumer, Nat.add_mul] at htick
  have hpositive := h.period_pos .consumer
  omega

/-- When a worker begins a round, so does the loop. -/
theorem Refines.begins (h : m.Refines b periods crew begun results) (waits : (crew kind).isWaiting = true)
    (due : m.now = (crew kind).tick b.now (begun kind)) (alone : Alone crew kind) :
    let later := Function.update begun kind (begun kind + 1)
    (b.looped (later .sweep) (later .consumer)).Alike ((Round.ofKind kind).finish m.backend) ∧
      results ++ ((Round.ofKind kind).answer? m.backend).toList = b.answers (later .sweep) := by
  obtain ⟨halike, rfl⟩ :=
    (Backend.reaches_iff_of_idle (Worker.isBusy_of_isWaiting waits)).1 (h.reaches kind alone)
  cases kind with
  | sweep =>
    have hagrees : m.backend.events.agrees b.calendar m.backend.calendar = true := by
      rw [EventStore.agrees_congr h.times]
      exact h.agrees
    exact halike.sweep h.isOpen h.loads (fun unswept => (h.first unswept).2) hagrees
  | consumer =>
    have hswept : begun .sweep ≠ 0 := by
      intro unswept
      have hnow := (h.first unswept).1
      rw [due, h.tick_eq, WorkerKind.tick_consumer, Nat.add_mul] at hnow
      have hpositive := h.period_pos .consumer
      omega
    exact ⟨halike.pass hswept, List.append_nil _⟩

theorem Refines.reaches_carries (h : m.Refines b periods crew begun results)
    (ready : (Task.worker (crew kind)).isReady m.backend = true) (alone : Alone crew kind)
    {stage : WorkerStage} {b' : Backend} (carries : (crew kind).Carries m.backend (crew kind).stage stage b') :
    b.Reaches (Function.update begun kind (if (crew kind).isWaiting then begun kind + 1 else begun kind))
      (results ++ (crew kind).result?.toList) ((crew kind).become stage) b' := by
  cases hwaits : (crew kind).isWaiting with
  | false =>
    rw [if_neg Bool.false_ne_true, Function.update_eq_self]
    exact (h.reaches kind alone).carries carries hwaits
  | true =>
    have hdue : m.now = (crew kind).tick b.now (begun kind) :=
      ((h.paced kind).isReady.1 ready).resolve_left (ne_false_of_eq_true hwaits)
    obtain ⟨halike, hanswers⟩ := h.begins hwaits hdue alone
    obtain ⟨hfinish, hanswer, hnone⟩ := carries.begins hwaits
    rw [(h.kinds kind).1] at hfinish hanswer
    rw [if_pos rfl, hnone, Option.toList_none, List.append_nil]
    exact ⟨hfinish ▸ halike, hanswer ▸ hanswers⟩

/-- A step of a worker, while the other is in no round. -/
theorem Refines.step (h : m.Refines b periods crew begun results)
    (ready : (Task.worker (crew kind)).isReady m.backend = true) (alone : Alone crew kind) (goOn : Bool) :
    (m.act (.step kind.id goOn)).Refines b periods
      (Function.update crew kind ((crew kind).step m.backend goOn).1)
      (Function.update begun kind (if (crew kind).isWaiting then begun kind + 1 else begun kind))
      (results ++ m.sweepResults (.step kind.id goOn)) := by
  obtain ⟨htasks, hbackend, hresults⟩ := act_crewed h.tasks ready goOn
  have hpace := (h.paced kind).step ready h.quick goOn
  obtain ⟨stage, b', hstep, hcarries⟩ :=
    Worker.step_carries (h.paced kind).positive (h.paced kind).untold (h.paced kind).alive m.backend goOn
  rw [hstep] at htasks hbackend hpace ⊢
  rw [hresults]
  have hlasts := hcarries.lasts
  have hreaches := h.reaches_carries ready alone hcarries
  generalize m.act (.step kind.id goOn) = m' at htasks hbackend ⊢
  have hnow : m'.now = m.now := by
    rw [now, hbackend]
    exact hlasts.now
  refine ⟨h.isOpen, h.loads, htasks, ?_, ⟨kind, alone.update _⟩, ?_, ?_, ?_, ?_, ?_, ?_⟩
  · apply (Function.forall_update_iff crew (p := fun other w => w.kind = other ∧ w.period = periods other)).2
    exact ⟨h.kinds kind, fun other _ => h.kinds other⟩
  · intro other
    rw [hnow]
    obtain rfl | hne := eq_or_ne other kind
    · rw [Function.update_self, Function.update_self]
      exact hpace
    · rw [Function.update_of_ne hne, Function.update_of_ne hne]
      exact h.paced other
  · rw [hbackend, hlasts.isQuick]
    exact h.quick
  · rw [hbackend, hlasts.times]
    exact h.times
  · rw [hbackend, hlasts.calendar]
    exact h.agrees
  · apply (Function.forall_update_iff crew
      (p := fun _ w => ∀ l ∈ w.locations, ∃ p ∈ b.events.times, p.1 = l.recheckAfter)).2
    refine ⟨fun l hl => ?_, fun other _ => h.stored other⟩
    obtain hl | hl := hcarries.locations hl
    · exact h.stored kind l hl
    · rw [← h.times]
      exact hl
  · intro other hother
    rw [hbackend]
    obtain rfl | hne := eq_or_ne other kind
    · rw [Function.update_self]
      exact hreaches
    · -- if the other alone may be in a round, neither is
      have hidle := hother kind hne.symm
      rw [Function.update_self] at hidle
      rw [Function.update_of_ne hne, Backend.reaches_iff_of_idle (alone other hne)]
      exact (Backend.reaches_iff_of_idle hidle).1 hreaches

/-- Time that passes while both workers wait. -/
theorem Refines.wait (h : m.Refines b periods crew begun results) {milliseconds : Nat}
    (waits : ∀ kind, (crew kind).isWaiting = true)
    (early : ∀ kind, m.now + milliseconds ≤ (crew kind).tick b.now (begun kind)) :
    (m.act (.wait milliseconds)).Refines b periods crew begun results := by
  have hpaced : ∀ kind, (crew kind).InPace b.now (m.now + milliseconds) (begun kind) := by
    intro kind
    apply (h.paced kind).wait (Nat.le_add_right _ _) (waits kind) (early kind)
  have hreaches : ∀ kind, Alone crew kind →
      b.Reaches begun results (crew kind) (m.act (.wait milliseconds)).backend := by
    intro kind alone
    have hidle := Worker.isBusy_of_isWaiting (waits kind)
    obtain ⟨halike, hanswers⟩ := (Backend.reaches_iff_of_idle hidle).1 (h.reaches kind alone)
    exact (Backend.reaches_iff_of_idle hidle).2 ⟨halike.trans ⟨rfl, rfl, rfl⟩, hanswers⟩
  exact { h with paced := hpaced, reaches := hreaches }

/-- A change of the calendar by which none of the stored times comes. -/
theorem Refines.setCalendar (h : m.Refines b periods crew begun results) {time : Instant}
    (agrees : b.events.agrees b.calendar time = true) :
    (m.act (.change (.setCalendar time))).Refines b periods crew begun results := by
  have hagrees : m.backend.events.agrees m.backend.calendar time = true := by
    rw [EventStore.agrees_congr h.times]
    exact EventStore.agrees_of_agrees h.agrees agrees
  have hsame : m.backend.Alike (m.act (.change (.setCalendar time))).backend := ⟨rfl, rfl, rfl⟩
  have hreaches : ∀ kind, Alone crew kind →
      b.Reaches begun results (crew kind) (m.act (.change (.setCalendar time))).backend := by
    intro kind alone
    have hstored := h.stored kind
    rw [← h.times] at hstored
    obtain ⟨hanswer, hfinish⟩ := Worker.finish_alike hsame hagrees hstored
    obtain ⟨halike, hanswers⟩ := h.reaches kind alone
    exact ⟨halike.trans hfinish, hanswer ▸ hanswers⟩
  exact { h with agrees := agrees, reaches := hreaches }

theorem Refines.act (h : m.Refines b periods crew begun results) {a : Action}
    (wanted : m.uninterrupted b a = true) :
    ∃ crew' begun', (m.act a).Refines b periods crew' begun' (results ++ m.sweepResults a) := by
  cases a with
  | change c =>
    cases c with
    | setCalendar time => exact ⟨crew, begun, (List.append_nil results).symm ▸ h.setCalendar wanted⟩
    | _ => cases wanted
  | call c | cancel told => cases wanted
  | wait milliseconds =>
    rw [uninterrupted, h.tasks, List.all_eq_true, forall_mem_crewed] at wanted
    have hheeds := fun kind =>
      ((h.paced kind).heeds_iff (task?_crewed h.tasks kind) milliseconds).1 (wanted kind)
    have hwait := h.wait (fun kind => (hheeds kind).1) fun kind => (hheeds kind).2.2
    exact ⟨crew, begun, (List.append_nil results).symm ▸ hwait⟩
  | step id goOn =>
    cases hready : m.ready? id with
    | none =>
      obtain ⟨-, heq⟩ | ⟨t, hno, -⟩ | ⟨told, mode, stage, hno⟩ := m.act_step id goOn
      · rw [heq, sweepResults, hready, Option.bind_none, Option.toList_none, List.append_nil]
        exact ⟨crew, begun, h⟩
      · rw [hready] at hno
        cases hno
      · rw [hready] at hno
        cases hno
    | some t =>
      obtain ⟨kind, hkind⟩ := exists_of_mem_crewed (h.tasks ▸ mem_of_ready? hready)
      injection hkind with hid htask
      subst hid htask
      have halone := (uninterrupted_step h.tasks kind goOn).1 wanted
      exact ⟨_, _, h.step (isReady_of_ready? hready) halone goOn⟩

/-- The workers begin where the loop does. -/
theorem refines_startWorkers {sweepPeriod consumerPeriod : Nat}
    (positive : ∀ kind : WorkerKind, kind.choose sweepPeriod consumerPeriod ≠ 0)
    (isOpen : b.events.isClosed = false) (loads : b.events.faults.left .findMissing = 0)
    (instant : b.geocoders.isQuick 0 = true) :
    ((create b).startWorkers sweepPeriod consumerPeriod).1.Refines b
      (fun kind => kind.choose sweepPeriod consumerPeriod)
      (fun kind => .create kind (kind.choose sweepPeriod consumerPeriod) (kind.choose 0 1)) (fun _ => 0) [] where
  isOpen := isOpen
  loads := loads
  tasks := rfl
  kinds := fun _ => ⟨rfl, rfl⟩
  alone := ⟨.sweep, fun _ _ => rfl⟩
  paced := fun kind => Worker.inPace_create kind (positive kind) (kind.choose 0 1) b.now
  quick := instant
  times := rfl
  agrees := b.events.agrees_refl b.calendar
  stored := fun _ _ hl => absurd hl List.not_mem_nil
  reaches := fun _ _ => ⟨⟨rfl, rfl, rfl⟩, rfl⟩

theorem Refines.run (h : m.Refines b periods crew begun results) {actions : List Action}
    (wanted : m.always (uninterrupted b) actions = true) :
    ∃ crew' begun', (m.run actions).Refines b periods crew' begun' (results ++ m.trace sweepResults actions) := by
  induction actions using List.reverseRecOn with
  | nil =>
    rw [trace, List.append_nil]
    exact ⟨crew, begun, h⟩
  | append_singleton actions a ih =>
    rw [always_concat, Bool.and_eq_true] at wanted
    obtain ⟨crew₁, begun₁, hrefines⟩ := ih wanted.1
    rw [run_concat, trace_concat, ← List.append_assoc]
    exact hrefines.act wanted.2

/-! ## Going on -/

/-- A worker comes to its next wait by its own steps, while the other is in no round. -/
theorem Refines.exists_rest (h : m.Refines b periods crew begun results) (alone : Alone crew kind) :
    ∃ more w results', m.always (uninterrupted b) more = true ∧ (m.run more).now = m.now ∧
      (m.run more).Refines b periods (Function.update crew kind w) begun results' ∧ w.isWaiting = true := by
  induction hrank : (crew kind).rank using WellFoundedLT.induction generalizing m crew results with
  | ind rank ih =>
    cases hwaits : (crew kind).isWaiting with
    | true =>
      refine ⟨[], crew kind, results, rfl, rfl, ?_, hwaits⟩
      rw [Function.update_eq_self]
      exact h
    | false =>
      have hstep := h.step ((h.paced kind).isReady.2 (.inl hwaits)) alone true
      rw [hwaits, if_neg Bool.false_ne_true, Function.update_eq_self] at hstep
      have hlt : ((crew kind).step m.backend true).1.rank < rank :=
        hrank ▸ Worker.rank_step_lt (h.paced kind).positive (h.paced kind).alive hwaits
      obtain ⟨more, w, results', hmore, hnow, hrest, hwaiting⟩ :=
        ih _ hlt hstep (alone.update _) (by rw [Function.update_self])
      rw [Function.update_idem] at hrest
      refine ⟨.step kind.id true :: more, w, results', ?_, ?_, hrest, hwaiting⟩
      · rw [always, hmore, (uninterrupted_step h.tasks kind true).2 alone]
        rfl
      · exact hnow.trans (now_act fun _ => Action.noConfusion)

/-- Both workers come to their next waits. -/
theorem Refines.exists_rests (h : m.Refines b periods crew begun results) :
    ∃ more crew' results', m.always (uninterrupted b) more = true ∧ (m.run more).now = m.now ∧
      (m.run more).Refines b periods crew' begun results' ∧ ∀ kind, (crew' kind).isWaiting = true := by
  obtain ⟨kind, alone⟩ := h.alone
  obtain ⟨first, w, results₁, hfirst, hnow, hrefines, hwaits⟩ := h.exists_rest alone
  obtain ⟨other, hboth⟩ := kind.exists_other
  have halone : Alone (Function.update crew kind w) other := by
    intro third hthird
    rw [hboth third hthird, Function.update_self]
    exact Worker.isBusy_of_isWaiting hwaits
  obtain ⟨rest, w', results', hrest, hnow', hrefines', hwaits'⟩ := hrefines.exists_rest halone
  refine ⟨first ++ rest, _, results', ?_, ?_, run_append m first rest ▸ hrefines', fun third => ?_⟩
  · rw [always_append, hfirst, hrest]
    rfl
  · rw [run_append, hnow', hnow]
  · obtain rfl | hthird := eq_or_ne third other
    · rw [Function.update_self]
      exact hwaits'
    · rw [Function.update_of_ne hthird, hboth third hthird, Function.update_self]
      exact hwaits

/-- When both workers wait, time passes up to the next tick of either. -/
theorem Refines.exists_wait (h : m.Refines b periods crew begun results)
    (waits : ∀ kind, (crew kind).isWaiting = true) {later : Nat} (le : m.now ≤ later)
    (early : ∀ kind, later ≤ (crew kind).tick b.now (begun kind)) :
    ∃ more, m.always (uninterrupted b) more = true ∧ (m.run more).now = later ∧
      (m.run more).Refines b periods crew begun results := by
  obtain rfl | hlt := Nat.eq_or_lt_of_le le
  · exact ⟨[], rfl, rfl, h⟩
  · have hend : m.now + (later - m.now) = later := by omega
    rw [← hend] at early
    refine ⟨[.wait (later - m.now)], ?_, hend, h.wait waits early⟩
    rw [always, always, Bool.and_true, uninterrupted, h.tasks, List.all_eq_true, forall_mem_crewed]
    intro kind
    apply ((h.paced kind).heeds_iff (task?_crewed h.tasks kind) _).2
    have hearly := early kind
    exact ⟨waits kind, by omega, hearly⟩

/-- How far some time is away from the next ticks of both workers. -/
def ticksLeft (start target : Nat) (periods begun : WorkerKind → Nat) : Nat :=
  (target - WorkerKind.sweep.tick start (periods .sweep) (begun .sweep)) +
    (target - WorkerKind.consumer.tick start (periods .consumer) (begun .consumer))

theorem ticksLeft_update {start target : Nat} (kind : WorkerKind) (positive : 0 < periods kind)
    (early : kind.tick start (periods kind) (begun kind) < target) :
    ticksLeft start target periods (Function.update begun kind (begun kind + 1)) <
      ticksLeft start target periods begun := by
  have hnext := kind.tick_succ start (periods kind) (begun kind)
  cases kind with
  | sweep =>
    rw [ticksLeft, ticksLeft, Function.update_self, hnext, Function.update_of_ne (by decide)]
    omega
  | consumer =>
    rw [ticksLeft, ticksLeft, Function.update_self, hnext, Function.update_of_ne (by decide)]
    omega

/-- Time can go on to any moment, from one round to the next. -/
theorem Refines.exists_time (h : m.Refines b periods crew begun results) {target : Nat} (le : m.now ≤ target) :
    ∃ more, m.always (uninterrupted b) more = true ∧ (m.run more).now = target := by
  induction hleft : ticksLeft b.now target periods begun using Nat.strong_induction_on
    generalizing m crew begun results with
  | h left ih =>
    obtain ⟨first, crew₁, results₁, hfirst, hnow, hrests, hwaits⟩ := h.exists_rests
    rw [← hnow] at le
    -- the worker whose tick comes first
    obtain ⟨kind, hnearest⟩ : ∃ kind, ∀ other,
        (crew₁ kind).tick b.now (begun kind) ≤ (crew₁ other).tick b.now (begun other) := by
      obtain hle | hle := Nat.le_total ((crew₁ .sweep).tick b.now (begun .sweep))
        ((crew₁ .consumer).tick b.now (begun .consumer))
      · exact ⟨.sweep, fun other => by cases other <;> [exact Nat.le_refl _; exact hle]⟩
      · exact ⟨.consumer, fun other => by cases other <;> [exact hle; exact Nat.le_refl _]⟩
    by_cases hfar : target ≤ (crew₁ kind).tick b.now (begun kind)
    · obtain ⟨rest, hrest, htarget, -⟩ := hrests.exists_wait hwaits le fun other => hfar.trans (hnearest other)
      refine ⟨first ++ rest, ?_, ?_⟩
      · rw [always_append, hfirst, hrest]
        rfl
      · rw [run_append, htarget]
    · obtain ⟨rest, hrest, hdue, htick⟩ := hrests.exists_wait hwaits (hrests.paced kind).now_le_tick hnearest
      have halone := alone_of_waits hwaits kind
      have hbegins := htick.step ((htick.paced kind).isReady.2 (.inr hdue)) halone true
      rw [hwaits kind, if_pos rfl] at hbegins
      have hearly : kind.tick b.now (periods kind) (begun kind) < target := by
        rw [← htick.tick_eq]
        omega
      have hlt := hleft ▸ ticksLeft_update kind (h.period_pos kind) hearly
      have hnow' : (((m.run first).run rest).act (.step kind.id true)).now = ((m.run first).run rest).now :=
        now_act fun _ => Action.noConfusion
      obtain ⟨last, hlast, htarget⟩ := ih _ hlt hbegins (by omega) rfl
      refine ⟨first ++ (rest ++ .step kind.id true :: last), ?_, ?_⟩
      · rw [always_append, always_append, always, hfirst, hrest, hlast,
          (uninterrupted_step htick.tasks kind true).2 halone]
        rfl
      · rw [run_append, run_append]
        exact htarget

/-! ## The workers and the loop -/

/-- Two workers with periods that are not zero, on a machine on which nothing else is, with a store that lists its
events and geocoders that answer at once. The stored events are those at the beginning, but for the points that are
written, and the calendar passes none of their times; each round goes on uninterrupted, and time passes only while
both workers wait. At any time that is not a tick's the queue, the store and the geocoders are those after one
sweep and as many passes as the consumer has had whole intervals, and all sweeps but the first have queued nothing.
Time can go on to any moment. -/
theorem workers_refine (b : Backend) (sweepPeriod consumerPeriod : Nat)
    (positive : sweepPeriod ≠ 0 ∧ consumerPeriod ≠ 0) (isOpen : b.events.isClosed = false)
    (loads : b.events.faults.left .findMissing = 0)
    (instant : b.geocoders.primary.latency = 0 ∧ b.geocoders.secondary.latency = 0) (actions : List Action) :
    let started := ((create b).startWorkers sweepPeriod consumerPeriod).1
    let m := started.run actions
    started.always (uninterrupted b) actions = true →
      (∀ time, m.now = b.now + time → ¬ sweepPeriod ∣ time → ¬ consumerPeriod ∣ time →
        let looped := b.sweep.2.passes (time / consumerPeriod)
        m.backend.queue = looped.queue ∧ m.backend.events = looped.events ∧
          m.backend.geocoders = looped.geocoders ∧
          started.trace sweepResults actions =
            b.sweep.1 :: List.replicate (time / sweepPeriod) (.ok 0)) ∧
      ∀ time, m.now ≤ b.now + time → ∃ more, m.always (uninterrupted b) more = true ∧
        (m.run more).now = b.now + time := by
  intro started m wanted
  have hpositive : ∀ kind : WorkerKind, kind.choose sweepPeriod consumerPeriod ≠ 0 := by
    intro kind
    cases kind with
    | sweep => exact positive.1
    | consumer => exact positive.2
  have hquick : b.geocoders.isQuick 0 = true := by
    rw [Geocoders.isQuick, instant.1, instant.2]
    rfl
  obtain ⟨crew, begun, hrefines⟩ := (refines_startWorkers hpositive isOpen loads hquick).run wanted
  refine ⟨fun time elapsed hsweep hconsumer => ?_, fun time le => hrefines.exists_time le⟩
  have hrests : ∀ kind, (crew kind).isWaiting = true ∧
      begun kind = kind.ticksBy time (kind.choose sweepPeriod consumerPeriod) := by
    intro kind
    obtain ⟨hkind, hperiod⟩ := hrefines.kinds kind
    have hbetween : ¬ (crew kind).period ∣ time := by
      rw [hperiod]
      cases kind with
      | sweep => exact hsweep
      | consumer => exact hconsumer
    obtain ⟨hwaits, hbegun⟩ := (hrefines.paced kind).rests elapsed hbetween
    rw [hkind, hperiod] at hbegun
    exact ⟨hwaits, hbegun⟩
  have halone := alone_of_waits (fun kind => (hrests kind).1) .sweep
  have hidle := Worker.isBusy_of_isWaiting (hrests .sweep).1
  obtain ⟨halike, hanswers⟩ := (Backend.reaches_iff_of_idle hidle).1 (hrefines.reaches .sweep halone)
  rw [(hrests .sweep).2, (hrests .consumer).2] at halike
  rw [(hrests .sweep).2] at hanswers
  exact ⟨halike.queue, halike.events, halike.geocoders, hanswers⟩

/-! ## Two intervals -/

/-- An event without its point, whose first lookup fails; the next one succeeds. -/
def restless : Backend :=
  .small (.insert .empty .small) [.error .scriptEnded, .ok ⟨.zero false, .zero false⟩] 0

/-- The first worker sweeps, the other has a round, and then both have one, the sweep first. -/
def twoIntervals : List Action :=
  List.replicate 6 (.step (.call 0) true) ++ [.step (.call 1) true, .wait 10] ++
    List.replicate 8 (.step (.call 1) true) ++ [.wait 10] ++ List.replicate 5 (.step (.call 0) true) ++
    List.replicate 8 (.step (.call 1) true) ++ [.wait 5]

theorem workers_refine_restless :
    let started := ((create restless).startWorkers 20 10).1
    (20 ≠ 0 ∧ 10 ≠ 0) ∧ restless.events.faults.left .findMissing = 0 ∧
      started.always (uninterrupted restless) twoIntervals = true ∧
      (started.run twoIntervals).now = restless.now + 25 ∧ ¬ 20 ∣ 25 ∧ ¬ 10 ∣ 25 ∧
      (started.run twoIntervals).backend.queue = (restless.sweep.2.passes 2).queue ∧
      (started.run twoIntervals).backend.queue = .empty ∧
      started.trace sweepResults twoIntervals = [.ok 1, .ok 0] ∧
      ∃ more, (started.run twoIntervals).always (uninterrupted restless) more = true ∧
        ((started.run twoIntervals).run more).now = restless.now + 1000 := by
  have wanted : (((create restless).startWorkers 20 10).1).always (uninterrupted restless) twoIntervals = true := by
    decide
  obtain ⟨hsame, hmore⟩ := workers_refine restless 20 10 (by decide) rfl rfl ⟨rfl, rfl⟩ twoIntervals wanted
  obtain ⟨hqueue, -, -, hresults⟩ := hsame 25 (by decide) (by decide) (by decide)
  have hempty : (restless.sweep.2.passes 2).queue = .empty := by decide
  exact ⟨by decide, rfl, wanted, by decide, by decide, by decide, hqueue, hqueue.trans hempty, hresults,
    hmore 1000 (by decide)⟩

end Machine

end Matchday

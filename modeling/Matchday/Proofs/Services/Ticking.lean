import Matchday.Proofs.Concurrent.Lives
import Matchday.Proofs.Services.Rounds

/-!
Workers that are at work. A worker with a period that is not zero never breaks down and does not end
before it is told to stop; until then its next round is always to come. By its own steps alone it comes to
one, and if it is carried on whenever it can be, no time longer than its period, or the time that a round
takes, passes without one.
-/

namespace Matchday
set_option autoImplicit false

/-- Whether an action carries on some task, or is only time that passes. -/
def Action.isOf (id : TaskId) : Action → Bool
  | step other _ => other = id
  | wait _ => true
  | _ => false

namespace Machine

/-- Whether time passes only while a task waits, and only as long as it does. -/
def heeds (id : TaskId) (m : Machine) : Action → Bool
  | .wait milliseconds => (m.task? id).all fun t => !m.canStep t &&
      t.timer?.all fun timer => m.now + milliseconds ≤ timer.due
  | _ => true

/-- Whether what the rounds of a kind of worker wait for takes some time at most. -/
def serves (kind : WorkerKind) (latency : Nat) (m : Machine) (_ : Action) : Bool :=
  kind.isQuick latency m.backend.geocoders

end Machine

/-- Of something for each worker that for one of them. -/
def WorkerKind.choose {α : Type} (forSweep forConsumer : α) : WorkerKind → α
  | sweep => forSweep
  | consumer => forConsumer

def Task.isBusy : Task → Bool
  | worker w => w.isBusy
  | _ => false

namespace Machine

/-- Whether a worker is in a round. -/
def isBusy (id : TaskId) (m : Machine) : Bool := (m.task? id).any Task.isBusy

/-- The time at which a worker begins a round. -/
def rounds (id : TaskId) (m : Machine) (a : Action) : List Nat :=
  if m.isBusy id = false ∧ (m.act a).isBusy id = true then [m.now] else []

variable {m : Machine} {id : TaskId} {w : Worker} {latency : Nat}

/-! ## What becomes of a worker -/

/-- What an action may make of a worker. -/
inductive Treats (m : Machine) (id : TaskId) (w : Worker) : Action → Worker → Prop where
  | waited (milliseconds : Nat) : Treats m id w (.wait milliseconds) w
  | left {a : Action} (timeless : ∀ milliseconds, a ≠ .wait milliseconds) : Treats m id w a w
  | told {a : Action} (timeless : ∀ milliseconds, a ≠ .wait milliseconds) :
      Treats m id w a { w with isCancelled := true }
  | stepped (goOn : Bool) (ready : (Task.worker w).isReady m.backend = true) :
      Treats m id w (.step id goOn) (w.step m.backend goOn).1

/-- A worker, as it can have become, under its name. -/
structure Employs (m : Machine) (id : TaskId) (w : Worker) : Prop where
  named : m.Named
  mem : (id, .worker w) ∈ m.tasks
  sound : w.IsSound

theorem Employs.task?_eq (h : m.Employs id w) : m.task? id = some (.worker w) :=
  task?_of_mem h.named.nodup h.mem

theorem Employs.isBusy_eq (h : m.Employs id w) : m.isBusy id = w.isBusy := by
  rw [isBusy, h.task?_eq]
  rfl

theorem Treats.isSound {a : Action} {w' : Worker} (h : m.Treats id w a w') (sound : w.IsSound) :
    w'.IsSound := by
  cases h with
  | waited milliseconds | left timeless => exact sound
  | told timeless =>
    obtain ⟨kind, period, isCancelled, stage, task⟩ := w
    cases stage with
    | ended ending => exact sound.imp_right fun h => ⟨h.1, h.2.1, rfl⟩
    | _ => exact sound
  | stepped goOn ready => exact sound.step m.backend goOn

theorem Employs.act (h : m.Employs id w) (a : Action) :
    ∃ w', (m.act a).Employs id w' ∧ m.Treats id w a w' := by
  suffices hnext : ∃ w', (id, .worker w') ∈ (m.act a).tasks ∧ m.Treats id w a w' by
    obtain ⟨w', hmem, htreats⟩ := hnext
    exact ⟨w', ⟨h.named.act a, hmem, htreats.isSound h.sound⟩, htreats⟩
  by_cases htime : ∃ milliseconds, a = .wait milliseconds
  · obtain ⟨milliseconds, rfl⟩ := htime
    exact ⟨w, h.mem, .waited milliseconds⟩
  · have timeless : ∀ milliseconds, a ≠ .wait milliseconds := fun _ ha => htime ⟨_, ha⟩
    obtain ⟨t', hmem, (rfl | rfl) | ⟨goOn, rfl, hready, -, rfl⟩ |
      ⟨crew, mode, stage, next, htask, -, -, -⟩⟩ := exists_mem_act h.named a h.mem
    · exact ⟨w, hmem, .left timeless⟩
    · exact ⟨_, hmem, .told timeless⟩
    · exact ⟨_, hmem, .stepped goOn (isReady_of_ready? hready)⟩
    · cases htask

theorem Treats.kept {a : Action} {w' : Worker} (h : m.Treats id w a w') : w'.kind = w.kind ∧
    w'.period = w.period ∧ (w.isCancelled = true → w'.isCancelled = true) := by
  cases h with
  | waited milliseconds | left timeless => exact ⟨rfl, rfl, fun told => told⟩
  | told timeless => exact ⟨rfl, rfl, fun _ => rfl⟩
  | stepped goOn ready =>
    obtain ⟨stage, heq, -⟩ := w.step_goes m.backend goOn
    rw [heq]
    exact ⟨rfl, rfl, fun told => told⟩

theorem Treats.task_eq {a : Action} {w' : Worker} (h : m.Treats id w a w') : w'.task = w.task := by
  cases h with
  | waited milliseconds | left timeless | told timeless => rfl
  | stepped goOn ready =>
    obtain ⟨stage, heq, -⟩ := w.step_goes m.backend goOn
    rw [heq]
    rfl

/-- A worker that has ended stays so. -/
theorem Treats.alive {a : Action} {w' : Worker} (h : m.Treats id w a w') (alive : w'.ending? = none) :
    w.ending? = none := by
  cases h with
  | waited milliseconds | left timeless | told timeless => exact alive
  | stepped goOn ready =>
    rw [Worker.isReady_worker, Bool.and_eq_true, Bool.not_eq_true'] at ready
    exact Option.not_isSome_iff_eq_none.1 (ne_true_of_eq_false ready.1)

theorem Treats.span_eq {a : Action} {w' : Worker} (h : m.Treats id w a w') :
    w'.span latency = w.span latency := by
  rw [Worker.span, h.kept.1, h.kept.2.1]
  rfl

/-- On a machine that runs a worker goes on, with its kind, its period and its number, and told to stop if it
was. -/
theorem Employs.run (h : m.Employs id w) (later : List Action) :
    ∃ w', (m.run later).Employs id w' ∧ w'.kind = w.kind ∧ w'.period = w.period ∧ w'.task = w.task ∧
      (w.isCancelled = true → w'.isCancelled = true) := by
  induction later using List.reverseRecOn with
  | nil => exact ⟨w, h, rfl, rfl, rfl, fun told => told⟩
  | append_singleton later a ih =>
    obtain ⟨w₁, hw₁, hkind, hperiod, htask, htold⟩ := ih
    obtain ⟨w', hw', htreats⟩ := hw₁.act a
    obtain ⟨hkind', hperiod', htold'⟩ := htreats.kept
    rw [run_concat]
    exact ⟨w', hw', hkind'.trans hkind, hperiod'.trans hperiod, htreats.task_eq.trans htask,
      fun told => htold' (htold told)⟩

/-! ## Rounds and time -/

theorem rounds_eq {a : Action} {w' : Worker} (h : m.Employs id w) (h' : (m.act a).Employs id w') :
    m.rounds id a = if w.isBusy = false ∧ w'.isBusy = true then [m.now] else [] := by
  rw [rounds, h.isBusy_eq, h'.isBusy_eq]

/-- An action that takes no time puts off no round, or begins one. -/
theorem Treats.latest_cases {a : Action} {w' : Worker} (h : m.Treats id w a w') (sound : w.IsSound)
    (quick : m.serves w.kind latency a = true) :
    (∃ milliseconds, a = .wait milliseconds ∧ w' = w) ∨
      (m.act a).now = m.now ∧ (w'.latest latency m.now ≤ w.latest latency m.now ∨
        w.isBusy = false ∧ w'.isBusy = true ∧ w'.latest latency m.now ≤ m.now + w.span latency) := by
  cases h with
  | waited milliseconds => exact .inl ⟨milliseconds, rfl, rfl⟩
  | left timeless | told timeless => exact .inr ⟨now_act timeless, .inl (Nat.le_refl _)⟩
  | stepped goOn ready =>
    exact .inr ⟨now_act fun _ => Action.noConfusion, Worker.latest_step sound ready quick⟩

theorem canStep_worker : m.canStep (.worker w) = (!w.ending?.isSome &&
    (w.isWaiting && w.isCancelled || w.timer?.all (·.isDue m.now))) := by
  rw [canStep, Worker.isReady_worker]
  exact Bool.and_true _

/-- While time may pass for a worker that has not ended, it waits for something, and was not interrupted. -/
theorem Employs.exists_timer (h : m.Employs id w) (alive : w.ending? = none) {milliseconds : Nat}
    (heeded : m.heeds id (.wait milliseconds) = true) : (w.isWaiting && w.isCancelled) = false ∧
      ∃ timer, w.timer? = some timer ∧ m.now + milliseconds ≤ timer.due := by
  rw [heeds, h.task?_eq, Option.all_some, Bool.and_eq_true, Bool.not_eq_true', canStep_worker, alive,
    Option.isSome_none, Bool.not_false, Bool.true_and, Bool.or_eq_false_iff] at heeded
  obtain ⟨⟨hfree, hstuck⟩, hearly⟩ := heeded
  cases htimer : w.timer? with
  | none =>
    rw [htimer] at hstuck
    cases hstuck
  | some timer =>
    rw [Task.timer?, htimer] at hearly
    exact ⟨hfree, timer, rfl, of_decide_eq_true hearly⟩

/-- An action puts off the next round of a worker by no more than the rounds that it begins. -/
theorem Employs.latest_act_le (h : m.Employs id w) {a : Action} {w' : Worker}
    (h' : (m.act a).Employs id w') (treats : m.Treats id w a w') (positive : w.period ≠ 0)
    (untold : w.isCancelled = false) (quick : m.serves w.kind latency a = true)
    (heeded : m.heeds id a = true) : w'.latest latency (m.act a).now ≤
      w.latest latency m.now + (m.rounds id a).length * w.span latency := by
  obtain ⟨milliseconds, rfl, rfl⟩ | ⟨hnow, hle | ⟨hidle, hbusy, hle⟩⟩ :=
    treats.latest_cases h.sound quick
  · obtain ⟨-, timer, htimer, hearly⟩ := h.exists_timer (h.sound.ending?_eq positive untold) heeded
    exact (Worker.latest_of_wait htimer hearly).le.trans (Nat.le_add_right _ _)
  · rw [hnow]
    exact hle.trans (Nat.le_add_right _ _)
  · rw [hnow, rounds_eq h h', if_pos ⟨hidle, hbusy⟩, List.length_singleton, Nat.one_mul]
    exact hle.trans (Nat.add_le_add_right w.now_le_latest _)

/-- However it is treated, a worker is never further from its next round than the time between two. -/
theorem Employs.latest_run_le (h : m.Employs id w)
    (near : w.latest latency m.now ≤ m.now + w.span latency) {later : List Action}
    (quick : m.always (serves w.kind latency) later = true) :
    ∃ w', (m.run later).Employs id w' ∧ w'.kind = w.kind ∧ w'.period = w.period ∧
      w'.latest latency (m.run later).now ≤ (m.run later).now + w'.span latency := by
  induction later using List.reverseRecOn with
  | nil => exact ⟨w, h, rfl, rfl, near⟩
  | append_singleton later a ih =>
    rw [always_concat, Bool.and_eq_true] at quick
    obtain ⟨w₁, hw₁, hkind, hperiod, hnear⟩ := ih quick.1
    obtain ⟨w', hw', htreats⟩ := hw₁.act a
    rw [run_concat]
    refine ⟨w', hw', htreats.kept.1.trans hkind, htreats.kept.2.1.trans hperiod, ?_⟩
    rw [htreats.span_eq]
    obtain ⟨milliseconds, rfl, rfl⟩ | ⟨hnow, hle | ⟨-, -, hle⟩⟩ :=
      htreats.latest_cases hw₁.sound (hkind ▸ quick.2)
    · have hadd := w'.latest_add milliseconds |>.trans (Nat.add_le_add_right hnear milliseconds)
      rwa [Nat.add_right_comm] at hadd
    · rw [hnow]
      exact hle.trans hnear
    · rw [hnow]
      exact hle

/-- A worker that is carried on when it can be, and not told to stop, begins its rounds in time. -/
theorem Employs.latest_run_le_rounds (h : m.Employs id w) (positive : w.period ≠ 0)
    {later : List Action} (quick : m.always (serves w.kind latency) later = true)
    (heeded : m.always (heeds id) later = true) :
    ∃ w', (m.run later).Employs id w' ∧ w'.kind = w.kind ∧ w'.period = w.period ∧
      (w'.isCancelled = false → w'.latest latency (m.run later).now ≤
        w.latest latency m.now + (m.trace (rounds id) later).length * w.span latency) := by
  induction later using List.reverseRecOn with
  | nil => exact ⟨w, h, rfl, rfl, fun _ => Nat.le_add_right _ _⟩
  | append_singleton later a ih =>
    rw [always_concat, Bool.and_eq_true] at quick heeded
    obtain ⟨w₁, hw₁, hkind, hperiod, hle⟩ := ih quick.1 heeded.1
    obtain ⟨w', hw', htreats⟩ := hw₁.act a
    have hspan : w₁.span latency = w.span latency := by rw [Worker.span, hkind, hperiod]; rfl
    rw [run_concat, trace_concat, List.length_append, Nat.add_mul]
    refine ⟨w', hw', htreats.kept.1.trans hkind, htreats.kept.2.1.trans hperiod, fun untold => ?_⟩
    have huntold : w₁.isCancelled = false := by
      cases htold : w₁.isCancelled with
      | false => rfl
      | true =>
        rw [htreats.kept.2.2 htold] at untold
        cases untold
    have hact := hw₁.latest_act_le hw' htreats (hperiod ▸ positive) huntold (hkind ▸ quick.2) heeded.2
    rw [hspan] at hact
    exact hact.trans (by have hbefore := hle huntold; omega)

/-- Such a worker has one round at least in every stretch of time that is longer than the time from one round
to the next. -/
theorem Employs.le_length_rounds (h : m.Employs id w) (positive : w.period ≠ 0)
    (near : w.latest latency m.now ≤ m.now + w.span latency) {later : List Action}
    (quick : m.always (serves w.kind latency) later = true)
    (heeded : m.always (heeds id) later = true)
    (untold : ∀ w', (m.run later).Employs id w' → w'.isCancelled = false) {k : Nat}
    (late : m.now + k * w.span latency < (m.run later).now) :
    k ≤ (m.trace (rounds id) later).length := by
  obtain ⟨w', hw', -, -, hle⟩ := h.latest_run_le_rounds positive quick heeded
  by_contra hfew
  have hmore : ((m.trace (rounds id) later).length + 1) * w.span latency ≤ k * w.span latency :=
    Nat.mul_le_mul_right _ (Nat.lt_of_not_le hfew)
  rw [Nat.add_mul, Nat.one_mul] at hmore
  have hnow : (m.run later).now ≤ w'.latest latency (m.run later).now := w'.now_le_latest
  have hnext := hle (untold w' hw')
  omega

/-! ## The next round -/

theorem Employs.step (h : m.Employs id w) (ready : m.canStep (.worker w) = true) (goOn : Bool) :
    (m.act (.step id goOn)).Employs id (w.step m.backend goOn).1 := by
  have hready := h.named.ready?_of_canStep h.mem ready
  refine ⟨h.named.act _, ?_, h.sound.step m.backend goOn⟩
  rw [act_of_ready? hready rfl]
  exact mem_carried_self goOn hready

/-- A worker that has not ended need only wait until it can take its next step. -/
theorem Employs.exists_canStep (h : m.Employs id w) (alive : w.ending? = none) :
    ∃ pause, (∀ a ∈ pause, a.isOf id = true) ∧ m.always (heeds id) pause = true ∧
      m.trace (rounds id) pause = [] ∧ (m.run pause).Employs id w ∧
      (m.run pause).canStep (.worker w) = true := by
  cases hready : m.canStep (.worker w) with
  | true => exact ⟨[], fun _ ha => absurd ha List.not_mem_nil, rfl, rfl, h, hready⟩
  | false =>
    have hstuck := hready
    rw [canStep_worker, alive, Option.isSome_none, Bool.not_false, Bool.true_and, Bool.or_eq_false_iff]
      at hstuck
    cases htimer : w.timer? with
    | none =>
      rw [htimer] at hstuck
      cases hstuck.2
    | some timer =>
      rw [htimer] at hstuck
      have hdue : m.now < timer.due := Nat.lt_of_not_le (of_decide_eq_false hstuck.2)
      have hend : m.now + (timer.due - m.now) = timer.due := Nat.add_sub_of_le hdue.le
      have hw : (m.act (.wait (timer.due - m.now))).Employs id w := ⟨h.named.act (.wait _), h.mem, h.sound⟩
      refine ⟨[.wait (timer.due - m.now)], List.forall_mem_singleton.2 rfl, ?_, ?_, hw, ?_⟩
      · rw [always, always, Bool.and_true, heeds, h.task?_eq, Option.all_some, hready, Task.timer?, htimer]
        exact decide_eq_true hend.le
      · rw [trace, trace, List.append_nil, rounds_eq h hw]
        exact if_neg fun hno => Bool.false_ne_true (hno.1.symm.trans hno.2)
      · rw [canStep_worker, alive, htimer]
        exact Bool.or_eq_true_iff.2 (.inr (decide_eq_true hend.ge))

/-- A worker that has not ended takes its next step, whether or not others do anything. -/
theorem Employs.exists_step (h : m.Employs id w) (alive : w.ending? = none) (goOn : Bool) :
    ∃ more b, (∀ a ∈ more, a.isOf id = true) ∧ m.always (heeds id) more = true ∧
      (m.run more).Employs id (w.step b goOn).1 ∧ m.trace (rounds id) more =
        if w.isBusy = false ∧ (w.step b goOn).1.isBusy = true then [b.now] else [] := by
  obtain ⟨pause, hown, hheeded, hquiet, hw, hready⟩ := h.exists_canStep alive
  have hstep := hw.step hready goOn
  refine ⟨pause ++ [.step id goOn], (m.run pause).backend, ?_, ?_, ?_, ?_⟩
  · exact List.forall_mem_append.2 ⟨hown, List.forall_mem_singleton.2 (decide_eq_true rfl)⟩
  · rw [always_concat, hheeded]
    rfl
  · rw [run_concat]
    exact hstep
  · rw [trace_concat, hquiet, List.nil_append, rounds_eq hw hstep]
    rfl

/-- A worker that was not told to stop comes to its next round by its own steps. -/
theorem Employs.exists_round (h : m.Employs id w) (positive : w.period ≠ 0)
    (untold : w.isCancelled = false) :
    ∃ more, (∀ a ∈ more, a.isOf id = true) ∧ m.always (heeds id) more = true ∧
      m.trace (rounds id) more ≠ [] := by
  induction hrank : w.rank using WellFoundedLT.induction generalizing m w with
  | ind rank ih =>
    have alive := h.sound.ending?_eq positive untold
    obtain ⟨more, b, hown, hheeded, hw, hround⟩ := h.exists_step alive true
    cases hwaits : w.isWaiting with
    | true =>
      refine ⟨more, hown, hheeded, ?_⟩
      rw [hround, if_pos ⟨Worker.isBusy_of_isWaiting hwaits, Worker.isBusy_step hwaits untold⟩]
      exact List.cons_ne_nil _ _
    | false =>
      obtain ⟨stage, hstage, -⟩ := w.step_goes b true
      have hlt : (w.step b true).1.rank < rank := hrank ▸ Worker.rank_step_lt positive alive hwaits
      obtain ⟨rest, hown', hheeded', hround'⟩ :=
        ih _ hlt hw (hstage ▸ positive) (hstage ▸ untold) rfl
      refine ⟨more ++ rest, List.forall_mem_append.2 ⟨hown, hown'⟩, ?_, ?_⟩
      · rw [always_append, hheeded, hheeded']
        rfl
      · rw [trace_append]
        exact List.append_ne_nil_of_right_ne_nil _ hround'

/-! ## Workers by their numbers -/

variable {n : Nat}

theorem Employs.callTask?_eq (h : m.Employs (.call n) w) : m.callTask? n = some (.worker w) := h.task?_eq

theorem Employs.endings_eq (h : m.Employs (.call n) w) :
    m.endings [n] = (w.ending?.map fun ending => (w.kind, ending)).toList := by
  rw [endings, List.filterMap_cons, h.callTask?_eq, Option.bind_some, Task.ending?]
  cases w.ending? <;> rfl

theorem Employs.isCancelled_eq (h : m.Employs (.call n) w) : m.isCancelled [n] = w.isCancelled := by
  rw [isCancelled, List.all_cons, h.callTask?_eq]
  exact Bool.and_true _

/-- A worker that has broken down, or will when it begins, has no round. -/
theorem Employs.rounds_of_zero (h : m.Employs (.call n) w) (zero : w.period = 0) (later : List Action) :
    m.trace (rounds (.call n)) later = [] := by
  induction later using List.reverseRecOn with
  | nil => rfl
  | append_singleton later a ih =>
    obtain ⟨w₁, hw₁, -, hperiod, -⟩ := h.run later
    obtain ⟨w', hw', htreats⟩ := hw₁.act a
    have hidle : w'.isBusy = false :=
      Worker.isBusy_of_zero hw'.sound (htreats.kept.2.1.trans (hperiod.trans zero))
    rw [trace_concat, ih, rounds_eq hw₁ hw', hidle]
    exact if_neg fun hno => Bool.false_ne_true hno.2

/-- A worker with a period of zero breaks down by its first step. -/
theorem Employs.endings_of_zero (h : m.Employs (.call n) w) (zero : w.period = 0) (goOn : Bool) :
    (m.act (.step (.call n) goOn)).endings [n] = [(w.kind, w.breakdown)] := by
  suffices hbroken : ∃ w', (m.act (.step (.call n) goOn)).Employs (.call n) w' ∧ w'.kind = w.kind ∧
      w'.ending? = some w.breakdown by
    obtain ⟨w', hw', hkind, hending⟩ := hbroken
    rw [hw'.endings_eq, hending, hkind]
    rfl
  obtain hstage | hstage := h.sound.stage_of_zero zero
  · have hready : m.canStep (.worker w) = true := by
      rw [canStep_worker, Worker.ending?, Worker.timer?, hstage]
      exact Bool.or_true _
    obtain ⟨stage, heq, -⟩ := w.step_goes m.backend goOn
    exact ⟨_, h.step hready goOn, heq ▸ rfl, Worker.ending?_step_of_zero h.sound zero⟩
  · obtain ⟨w', hw', htreats⟩ := h.act (.step (.call n) goOn)
    refine ⟨w', hw', htreats.kept.1, ?_⟩
    cases htreats with
    | left timeless | told timeless =>
      rw [Worker.ending?, hstage]
    | stepped goOn ready => exact Worker.ending?_step_of_zero h.sound zero

/-- The workers that a crew begins with. -/
theorem employs_startWorkers (named : m.Named) {sweepPeriod consumerPeriod : Nat} {kind : WorkerKind}
    (h : (kind, n) ∈ [WorkerKind.sweep, .consumer].zip (m.startWorkers sweepPeriod consumerPeriod).2) :
    (m.startWorkers sweepPeriod consumerPeriod).1.Employs (.call n)
      (.create kind (kind.choose sweepPeriod consumerPeriod) n) := by
  have hnamed : (m.record [.serviceStarting WorkerKind.sweep.service,
      .serviceStarting WorkerKind.consumer.service]).Named := ⟨named.1, named.2, named.3, named.4, named.5⟩
  refine ⟨(hnamed.call _).call _, ?_, trivial⟩
  obtain h | h := List.mem_cons.1 h
  · injection h with hkind hn
    subst hkind hn
    exact mem_spawn.2 (.inl (mem_spawn.2 (.inr rfl)))
  · injection List.mem_singleton.1 h with hkind hn
    subst hkind hn
    exact mem_spawn.2 (.inr rfl)

end Machine

end Matchday

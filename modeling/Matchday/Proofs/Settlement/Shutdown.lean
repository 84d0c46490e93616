import Matchday.Proofs.Settlement.Punctual
import Mathlib.Data.Nat.Find

/-!
The end of the settling. Once the schedule is closed no settlement begins any more. A task that waits for
those under way returns when the last of them has ended: at the last deadline if none is dropped, and at once
if the schedule was abandoned, since then every settlement in its delay is dropped before time passes.

Main statement: `Machine.shutdown_returns`.
-/

namespace Matchday
set_option autoImplicit false

namespace Machine

variable {m : Machine} {id : TaskId} {t : Task}

/-! ## Runs on a closed schedule -/

end Machine

/-- Whether a settlement has left its delay other than by being dropped. -/
def Settlement.hasLeft : Settlement → Bool
  | starting | waiting _ | finished .abandoned => false
  | marking | reloading | recording _ | finished .settled | finished (.failed _) => true

theorem Settlement.Goes.hasLeft {b b' : Backend} {payment : PaymentId} {s s' : Settlement}
    (h : Goes b payment s s' b') (left : s.hasLeft = true) : s'.hasLeft = true := by
  cases h with
  | stayed => exact left
  | begun | dropped | woken => cases left
  | _ => rfl

namespace Machine

variable {m : Machine} {id : TaskId} {payment : PaymentId}

/-- The times at which the settlement of a payment calls a store to write the status or to record the
member. -/
def writes (payment : PaymentId) (m : Machine) (a : Action) : List Nat :=
  m.marks payment a ++ (m.records payment a).map fun _ => m.now

/-- The schedule was abandoned, and a settlement was dropped by that or is still in its delay. -/
def Dooms (m : Machine) (id : TaskId) (payment : PaymentId) : Prop :=
  m.backend.schedule.isAbandoned = true ∧ ∃ stage, (id, .settlement payment stage) ∈ m.tasks ∧
    (stage = .finished .abandoned ∨ stage.hasLeft = false ∧
      m.now < (Task.settlement payment stage).deadline m.backend)

theorem Dooms.act (h : m.Dooms id payment) (named : m.Named) {a : Action}
    (allowed : m.allows a = true) : (m.act a).Dooms id payment := by
  obtain ⟨habandoned, stage, hmem, hstage⟩ := h
  refine ⟨isAbandoned_act named habandoned, ?_⟩
  obtain rfl | ⟨hleft, hearly⟩ := hstage
  · obtain ⟨t', hmem', (rfl | rfl) | ⟨goOn, -, hready, -, -⟩ | ⟨crew, mode, stage, next, heq, -⟩⟩ :=
      exists_mem_act named a hmem
    · exact ⟨_, hmem', .inl rfl⟩
    · exact ⟨_, hmem', .inl rfl⟩
    · cases isFinished_of_ready? hready
    · cases heq
  by_cases htime : ∃ milliseconds, a = .wait milliseconds
  · obtain ⟨milliseconds, rfl⟩ := htime
    have hstuck := (of_allows_wait allowed hmem rfl).1
    have hrunning : stage.result? = none := by
      cases stage with
      | finished outcome => exact absurd hearly (Nat.lt_irrefl _)
      | _ => rfl
    obtain ⟨timer, -, hgoing, -⟩ := exists_timer_of_canStep hstuck hrunning
    rw [habandoned] at hgoing
    cases hgoing
  · have hnow : (m.act a).now = m.now := now_act fun _ ha => htime ⟨_, ha⟩
    have hdeadline : ∀ t : Task, t.deadline (m.act a).backend = t.deadline m.backend :=
      Task.deadline_congr hnow (delay_act named a)
    obtain ⟨t', hmem', (rfl | rfl) | ⟨goOn, -, hready, -, rfl⟩ | ⟨crew, mode, stage, next, heq, -⟩⟩ :=
      exists_mem_act named a hmem
    · refine ⟨stage, hmem', .inr ⟨hleft, ?_⟩⟩
      rw [hnow, hdeadline]
      exact hearly
    · refine ⟨stage, hmem', .inr ⟨hleft, ?_⟩⟩
      rw [hnow, hdeadline]
      exact hearly
    · have hgoes := stage.step_goes m.backend payment goOn
      refine ⟨(stage.step m.backend payment goOn).1, hmem', ?_⟩
      rw [hnow, hdeadline]
      generalize (stage.step m.backend payment goOn).2 = after at hgoes
      generalize (stage.step m.backend payment goOn).1 = next at hgoes ⊢
      cases hgoes with
      | begun => exact .inr ⟨rfl, hearly⟩
      | dropped => exact .inl rfl
      | woken timer due =>
        have hdue : timer.due ≤ m.now := of_decide_eq_true (due habandoned)
        exact absurd hearly (Nat.not_lt.2 hdue)
      | stayed => cases isFinished_of_ready? hready
      | _ => cases hleft
    · cases heq

end Machine

/-- How many steps a settlement takes at most before it has ended. -/
def Settlement.remaining : Settlement → Nat
  | starting => 5
  | waiting _ => 4
  | marking => 3
  | reloading => 2
  | recording _ => 1
  | finished _ => 0

/-- How many steps of settlements a task takes at most. -/
def Task.remaining : Task → Nat
  | settlement _ stage => stage.remaining
  | _ => 0

theorem Settlement.Goes.remaining_lt {b b' : Backend} {payment : PaymentId} {s s' : Settlement}
    (h : Goes b payment s s' b') (running : s.result? = none) : s'.remaining < s.remaining := by
  cases h with
  | stayed => cases running
  | _ => exact Nat.lt_of_sub_pos (by simp [remaining])

theorem Settlement.Goes.isAbandoned_eq {b b' : Backend} {payment : PaymentId} {s s' : Settlement}
    (h : Goes b payment s s' b') : b'.schedule.isAbandoned = b.schedule.isAbandoned := by
  cases h <;> rfl

namespace Machine

variable {m : Machine} {id : TaskId} {t : Task}

/-- A step of a settlement brings all settlements nearer to their ends. -/
theorem act_settlement (named : m.Named) {payment : PaymentId} {stage : Settlement}
    (ready : m.ready? id = some (.settlement payment stage)) :
    (m.act (.step id true)).tally Task.remaining < m.tally Task.remaining ∧
    (m.act (.step id true)).backend.schedule.isAbandoned = m.backend.schedule.isAbandoned ∧
    ∀ e ∈ m.tasks, e.1 ≠ id → e ∈ (m.act (.step id true)).tasks := by
  have hgoes := stage.step_goes m.backend payment true
  have hrunning : stage.result? = none := by
    have hunfinished := isFinished_of_ready? ready
    cases stage with
    | finished outcome => cases hunfinished
    | _ => rfl
  rw [act_of_ready? ready rfl]
  refine ⟨?_, ?_, fun e he hne => mem_carried_of_ne he hne⟩
  · have htally := tally_exchanged (f := Task.remaining) true named.nodup (task?_of_ready? ready)
    have hlt : Task.remaining (Task.step m.backend true (.settlement payment stage)).1 <
        Task.remaining (.settlement payment stage) := hgoes.remaining_lt hrunning
    have hcarried : m.carried id true (.settlement payment stage) =
        m.exchanged id true (.settlement payment stage) := rfl
    rw [hcarried]
    omega
  · rw [carried_backend]
    exact hgoes.isAbandoned_eq

/-- Who waits for the end of the settling cannot go on while settlements are under way. -/
theorem Sound.canStep_of_busy (h : m.Sound) (mem : (id, t) ∈ m.tasks)
    (shutting : t.isShuttingDown = true) (busy : m.backend.schedule.inFlight ≠ 0) :
    m.canStep t = false := by
  unfold Task.isShuttingDown at shutting
  split at shutting
  · simp [canStep, Task.isReady, Task.isInterrupted, Task.awaitsSettlements, busy]
  · simp [canStep, Task.isReady, Task.isInterrupted, Task.awaitsSettlements, busy]
  · exact absurd (h.orderly.ended _ mem rfl) busy
  · cases shutting

/-- If each settlement under way is in its delay, time may pass until the first of them can go on. -/
theorem Sound.exists_wait (h : m.Sound) (busy : m.backend.schedule.inFlight ≠ 0)
    (stuck : ∀ other payment stage, (other, .settlement payment stage) ∈ m.tasks →
      m.canStep (.settlement payment stage) = false) :
    ∃ milliseconds, m.allows (.wait milliseconds) = true ∧ ∃ other payment stage,
      (m.act (.wait milliseconds)).ready? other = some (.settlement payment stage) := by
  have hrunning : ∃ due other payment, (other, .settlement payment (.waiting ⟨due⟩)) ∈ m.tasks := by
    obtain ⟨other, payment, stage, hmem, hrunning⟩ := h.exists_running busy
    obtain ⟨timer, rfl, -⟩ := exists_timer_of_canStep (stuck other payment stage hmem) hrunning
    exact ⟨timer.due, other, payment, hmem⟩
  classical
  obtain ⟨other, payment, hmem⟩ := Nat.find_spec hrunning
  have hleast : ∀ due other payment, (other, .settlement payment (.waiting ⟨due⟩)) ∈ m.tasks →
      Nat.find hrunning ≤ due := fun due other payment h =>
    Nat.find_min' hrunning ⟨other, payment, h⟩
  generalize Nat.find hrunning = first at hmem hleast
  obtain ⟨timer, htimer, hgoing, hlate⟩ :=
    exists_timer_of_canStep (stuck other payment _ hmem) rfl
  injection htimer with htimer
  rw [← htimer] at hlate
  have hnow : m.now + (first - m.now) = first := Nat.add_sub_of_le (Nat.le_of_lt hlate)
  refine ⟨first - m.now, ?_, other, payment, .waiting ⟨first⟩, ?_⟩
  · refine List.all_eq_true.2 ?_
    rintro ⟨name, task⟩ he
    rw [Bool.or_eq_true, Bool.and_eq_true, hnow]
    by_cases hurgent : task.isUrgent = true
    · refine .inr ?_
      cases task with
      | settlement p s =>
        refine ⟨by rw [stuck name p s he]; rfl, ?_⟩
        cases s with
        | waiting timer => exact decide_eq_true (hleast timer.due name p he)
        | _ => rfl
      | shutdown mode stage =>
        rw [h.canStep_of_busy he hurgent busy]
        exact ⟨rfl, rfl⟩
      | closing crew mode stage =>
        rw [h.canStep_of_busy he hurgent busy]
        exact ⟨rfl, rfl⟩
      | _ => cases hurgent
    · rw [Bool.not_eq_true] at hurgent
      exact .inl (by rw [hurgent]; rfl)
  · refine (h.named.act _).ready?_of_canStep hmem ?_
    have hdue : first ≤ (m.act (.wait (first - m.now))).backend.now := Nat.le_of_eq hnow.symm
    simp [canStep, Task.isReady, Task.isFinished, Settlement.result?, Task.timer?, Settlement.timer?,
      Task.awaitsSettlements, Timer.isDue, Task.awaitedCrew, allEnded, hdue]

/-- The step of a task that closes the application puts the task where it belongs. -/
theorem exists_act_closing {crew : Crew} {mode : Option ShutdownMode} {stage : Closing}
    (ready : m.ready? id = some (.closing crew mode stage)) :
    ∃ next, (id, .closing crew mode next) ∈ (m.act (.step id true)).tasks ∧
      stage.Goes m crew mode next (m.act (.step id true)).backend.schedule := by
  obtain ⟨next, schedule, log, told, hgoes, heq⟩ := act_closing ready true
  rw [heq]
  refine ⟨next, mem_put_self ?_, hgoes⟩
  rw [names_cancel]
  exact List.mem_map_of_mem (f := Prod.fst) (mem_of_ready? ready)

/-- Who closes the application and has seen the end of the settling returns. -/
theorem Sound.isDone_of_seen (h : m.Sound) {crew : Crew} {way : ShutdownMode}
    (mem : (id, .closing crew (some way) (.settling .finished)) ∈ m.tasks)
    (rests : m.backend.schedule.inFlight = 0) :
    (m.act (.step id true)).isDone id = true ∧
      (m.act (.step id true)).backend.schedule.isAbandoned = m.backend.schedule.isAbandoned := by
  have hready := h.named.ready?_of_canStep mem (canStep_of_rests rfl rests)
  obtain ⟨next, hmem, hgoes⟩ := exists_act_closing hready
  generalize hschedule : (m.act (.step id true)).backend.schedule = schedule at hgoes ⊢
  cases hgoes with
  | returned => exact ⟨(isDone_iff (h.named.act _)).2 ⟨_, hmem, rfl⟩, rfl⟩
  | skipped stage plain => cases plain

/-- When no settlement is under way, who waits for the end of the settling returns without waiting. -/
theorem Sound.exists_return_of_rests (h : m.Sound) (mem : (id, t) ∈ m.tasks)
    (shutting : t.isShuttingDown = true) (rests : m.backend.schedule.inFlight = 0) :
    ∃ later, m.isPunctual later = true ∧ (m.run later).isDone id = true ∧
      (m.run later).backend.schedule.isAbandoned = m.backend.schedule.isAbandoned := by
  have hready := h.named.ready?_of_canStep mem (canStep_of_rests shutting rests)
  unfold Task.isShuttingDown at shutting
  split at shutting
  · rename_i mode
    have heq := act_of_ready? hready rfl true
    refine ⟨[.step id true], rfl, ?_, ?_⟩
    · show (m.act (.step id true)).isDone id = true
      refine (isDone_iff (h.named.act _)).2 ⟨.shutdown mode .finished, ?_, rfl⟩
      rw [heq]
      exact mem_carried_self true hready
    · show (m.act (.step id true)).backend.schedule.isAbandoned = _
      rw [heq, carried_backend]
      rfl
  · obtain ⟨next, hmem, hgoes⟩ := exists_act_closing hready
    generalize hschedule : (m.act (.step id true)).backend.schedule = schedule at hgoes
    cases hgoes with
    | drained way settles =>
      injection settles with settles
      have hrests : (m.act (.step id true)).backend.schedule.inFlight = 0 := by rw [hschedule, rests]
      obtain ⟨hdone, hsame⟩ := (h.act (.step id true)).isDone_of_seen hmem hrests
      exact ⟨[.step id true, .step id true], rfl, hdone, by rw [← hschedule]; exact hsame⟩
    | skipped stage plain => cases plain
  · obtain ⟨hdone, hsame⟩ := h.isDone_of_seen mem rests
    exact ⟨[.step id true], rfl, hdone, hsame⟩
  · cases shutting

/-- Who waits for the end of the settling returns. -/
theorem Sound.exists_return (h : m.Sound) (mem : (id, t) ∈ m.tasks)
    (shutting : t.isShuttingDown = true) :
    ∃ later, m.isPunctual later = true ∧ (m.run later).isDone id = true ∧
      (m.run later).backend.schedule.isAbandoned = m.backend.schedule.isAbandoned := by
  induction hn : m.tally Task.remaining using Nat.strong_induction_on generalizing m with
  | _ n ih =>
    by_cases hrests : m.backend.schedule.inFlight = 0
    · exact h.exists_return_of_rests mem shutting hrests
    -- a settlement that can go on does so, perhaps after some time
    have hgoes : ∀ {start : Machine} {other : TaskId} {payment : PaymentId} {stage : Settlement},
        start.Sound → (id, t) ∈ start.tasks → start.tally Task.remaining = n →
        start.ready? other = some (.settlement payment stage) →
        ∃ later, start.isPunctual later = true ∧ (start.run later).isDone id = true ∧
          (start.run later).backend.schedule.isAbandoned =
            start.backend.schedule.isAbandoned := by
      intro start other payment stage hsound hmem htally hready
      obtain ⟨hlt, hsame, hkeeps⟩ := act_settlement hsound.named hready
      have hne : id ≠ other := by
        rintro rfl
        rw [hsound.named.eq_of_mem hmem (mem_of_ready? hready)] at shutting
        cases shutting
      obtain ⟨later, hpunctual, hdone, hafter⟩ :=
        ih _ (htally ▸ hlt) (hsound.act _) (hkeeps _ hmem hne) rfl
      exact ⟨.step other true :: later, hpunctual, hdone, hafter.trans hsame⟩
    by_cases hstuck : ∀ other payment stage, (other, .settlement payment stage) ∈ m.tasks →
        m.canStep (.settlement payment stage) = false
    · obtain ⟨milliseconds, hallowed, other, payment, stage, hready⟩ := h.exists_wait hrests hstuck
      obtain ⟨later, hpunctual, hdone, hafter⟩ :=
        hgoes (h.act (.wait milliseconds)) mem hn hready
      refine ⟨.wait milliseconds :: later, ?_, hdone, hafter⟩
      rw [isPunctual, hallowed, hpunctual]
      rfl
    · push Not at hstuck
      obtain ⟨other, payment, stage, hmem, hcan⟩ := hstuck
      rw [ne_eq, Bool.not_eq_false] at hcan
      exact hgoes h mem hn (h.named.ready?_of_canStep hmem hcan)

end Machine

end Matchday

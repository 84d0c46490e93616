import Matchday.Proofs.Services.Ticking

/-!
Workers that keep pace. If answers take no time, a worker that is carried on whenever it can be begins each
round at its tick and is done with it at the same moment, so that its ticks are whole periods apart from
the first.

Main statements: `Worker.InPace.step`, `Worker.InPace.wait`, `Worker.InPace.heeds_iff`.
-/

namespace Matchday
set_option autoImplicit false

/-- While no more time passes, a round waits for nothing. -/
theorem Round.isDue_of_latest {now : Nat} {r : Round} (h : r.latest 0 now ≤ now) :
    r.timer?.all (·.isDue now) = true := by
  cases r with
  | sweep stage => rfl
  | pass stage =>
    cases stage with
    | resolving task lookup =>
      cases lookup with
      | primaryAsked answer timer | secondaryAsked e answer timer =>
        exact decide_eq_true ((Nat.le_max_right now timer.due).trans h)
      | starting | finished result => rfl
    | _ => rfl

/-- The time of a tick of a worker that began at some time. -/
def WorkerKind.tick (start period n : Nat) (kind : WorkerKind) : Nat :=
  (kind.firstTick start period).due + n * period

theorem WorkerKind.tick_succ (start period n : Nat) (kind : WorkerKind) :
    kind.tick start period (n + 1) = kind.tick start period n + period := by
  rw [tick, tick, Nat.add_mul, Nat.one_mul, Nat.add_assoc]

theorem WorkerKind.tick_sweep (start period n : Nat) : sweep.tick start period n = start + n * period := rfl

theorem WorkerKind.tick_consumer (start period n : Nat) :
    consumer.tick start period n = start + (n + 1) * period := by
  rw [tick, Nat.add_mul, Nat.one_mul]
  show start + period + n * period = start + (n * period + period)
  omega

/-- A time that is no whole number of periods after the beginning is not a tick's. -/
theorem WorkerKind.tick_ne {start period time : Nat} (between : ¬ period ∣ time) (kind : WorkerKind) (n : Nat) :
    start + time ≠ kind.tick start period n := by
  intro heq
  apply between
  cases kind with
  | sweep =>
    rw [tick_sweep] at heq
    exact ⟨n, by rw [Nat.mul_comm]; omega⟩
  | consumer =>
    rw [tick_consumer] at heq
    exact ⟨n + 1, by rw [Nat.mul_comm]; omega⟩

/-- The ticks in some time from the beginning on. -/
def WorkerKind.ticksBy (time period : Nat) : WorkerKind → Nat
  | sweep => time / period + 1
  | consumer => time / period

theorem WorkerKind.eq_ticksBy {start period time n : Nat} {kind : WorkerKind}
    (next : start + time < kind.tick start period n)
    (last : ∀ k, n = k + 1 → kind.tick start period k ≤ start + time) : n = kind.ticksBy time period := by
  cases kind with
  | sweep =>
    rw [tick_sweep] at next
    cases n with
    | zero => omega
    | succ k =>
      have hlast := last k rfl
      rw [tick_sweep] at hlast
      have hdiv : time / period = k := Nat.div_eq_of_lt_le (by omega) (by omega)
      rw [ticksBy, hdiv]
  | consumer =>
    rw [tick_consumer] at next
    have hlast : n * period ≤ time := by
      cases n with
      | zero => omega
      | succ k =>
        have hlast := last k rfl
        rw [tick_consumer] at hlast
        omega
    have hdiv : time / period = n := Nat.div_eq_of_lt_le hlast (by omega)
    rw [ticksBy, hdiv]

namespace Worker

variable {w : Worker} {b : Backend} {start now n : Nat} {goOn : Bool}

/-- What a step of a worker that was not told to stop makes of its stage and of the state. -/
inductive Carries (b : Backend) (w : Worker) : WorkerStage → WorkerStage → Backend → Prop where
  | begun : Carries b w .starting (.waiting (w.kind.firstTick b.now w.period))
      (b.record [w.kind.startingEntry w.period])
  | ticked (timer : Timer) :
      Carries b w (.waiting timer) (.busy (nextTick w.period timer.due b.now) (.ofKind w.kind)) b
  | worked (next : Nat) (round : Round) (unfinished : round.isFinished = false) :
      Carries b w (.busy next round) (.busy next (round.step b).1) (round.step b).2
  | rested (next : Nat) (round : Round) (finished : round.isFinished = true) :
      Carries b w (.busy next round) (.waiting ⟨next⟩) (b.record round.entries)

theorem step_carries (positive : w.period ≠ 0) (untold : w.isCancelled = false) (alive : w.ending? = none)
    (b : Backend) (goOn : Bool) :
    ∃ stage b', w.step b goOn = (w.become stage, b') ∧ w.Carries b w.stage stage b' := by
  obtain ⟨kind, period, isCancelled, stage, task⟩ := w
  obtain rfl : isCancelled = false := untold
  cases stage with
  | starting =>
    refine ⟨_, _, ?_, .begun⟩
    simp only [step, start, if_neg positive]
  | waiting timer => exact ⟨_, _, rfl, .ticked timer⟩
  | busy next round =>
    cases hfinished : round.isFinished with
    | true =>
      refine ⟨_, _, ?_, .rested next round hfinished⟩
      simp only [step, hfinished, if_true]
    | false =>
      refine ⟨_, _, ?_, .worked next round hfinished⟩
      simp only [step, hfinished, Bool.false_eq_true, if_false]
  | ended ending => cases alive

/-! ## Ticks -/

def tick (start : Nat) (w : Worker) (n : Nat) : Nat := w.kind.tick start w.period n

theorem tick_succ (start : Nat) (w : Worker) (n : Nat) : w.tick start (n + 1) = w.tick start n + w.period :=
  w.kind.tick_succ start w.period n

theorem le_tick (start : Nat) (w : Worker) (n : Nat) : start ≤ w.tick start n := by
  rw [tick, WorkerKind.tick]
  cases w.kind with
  | sweep => exact Nat.le_add_right _ _
  | consumer => exact (Nat.le_add_right _ _).trans (Nat.le_add_right _ _)

/-- Whether a worker that began at some time has begun so many rounds, each at its tick, and is at the next one's
time or before it. -/
def Keeps (start now : Nat) (w : Worker) (n : Nat) : Prop :=
  match w.stage with
  | .starting => n = 0 ∧ now = start
  | .waiting timer => timer.due = w.tick start n ∧ now ≤ timer.due ∧ ∀ k, n = k + 1 → w.tick start k ≤ now
  | .busy next _ => ∃ k, n = k + 1 ∧ now = w.tick start k ∧ next = w.tick start (k + 1)
  | .ended _ => False

/-- A worker that goes on and keeps pace, and whose round, if it is in one, waits for nothing. -/
structure InPace (start now : Nat) (w : Worker) (n : Nat) : Prop where
  positive : w.period ≠ 0
  untold : w.isCancelled = false
  sound : w.IsSound
  keeps : w.Keeps start now n
  prompt : ∀ next round, w.stage = .busy next round → round.latest 0 now ≤ now

theorem inPace_create (kind : WorkerKind) {period : Nat} (positive : period ≠ 0) (task start : Nat) :
    (create kind period task).InPace start start 0 :=
  ⟨positive, rfl, trivial, ⟨rfl, rfl⟩, fun _ _ h => WorkerStage.noConfusion h⟩

theorem InPace.alive (h : w.InPace start now n) : w.ending? = none := h.sound.ending?_eq h.positive h.untold

/-- A worker that is not waiting can take its next step; one that waits can at its tick. -/
theorem InPace.isReady (h : w.InPace start b.now n) : (Task.worker w).isReady b = true ↔
    w.isWaiting = false ∨ b.now = w.tick start n := by
  have hkeeps := h.keeps
  have hprompt := h.prompt
  rw [isReady_worker, h.alive, h.untold]
  obtain ⟨kind, period, isCancelled, stage, task⟩ := w
  cases stage with
  | starting => exact iff_of_true rfl (.inl rfl)
  | waiting timer =>
    obtain ⟨hdue, hnow, -⟩ := hkeeps
    show decide (timer.due ≤ b.now) = true ↔ true = false ∨ _
    rw [decide_eq_true_iff, hdue] at *
    constructor
    · intro hle
      exact .inr (Nat.le_antisymm hnow hle)
    · rintro (hno | heq)
      · cases hno
      · exact heq.ge
  | busy next round => exact iff_of_true (Round.isDue_of_latest (hprompt next round rfl)) (.inl rfl)
  | ended ending => cases hkeeps

theorem Carries.keeps {stage : WorkerStage} {b' : Backend} (h : w.Carries b w.stage stage b')
    (keeps : w.Keeps start b.now n) (ready : w.isWaiting = false ∨ b.now = w.tick start n) :
    (w.become stage).Keeps start b.now (if w.isWaiting then n + 1 else n) := by
  obtain ⟨kind, period, isCancelled, before, task⟩ := w
  cases h with
  | begun =>
    obtain ⟨rfl, hstart⟩ := keeps
    refine ⟨?_, ?_, fun k hk => Nat.noConfusion hk⟩
    · show (kind.firstTick b.now period).due = (kind.firstTick start period).due + 0 * period
      rw [hstart, Nat.zero_mul]
      rfl
    · cases kind with
      | sweep => exact Nat.le_refl _
      | consumer => exact Nat.le_add_right _ _
  | ticked timer =>
    obtain ⟨hdue, hnow, -⟩ := keeps
    obtain hno | heq := ready
    · cases hno
    · refine ⟨n, rfl, heq, ?_⟩
      rw [hdue, ← heq, nextTick_punctual, heq]
      exact (tick_succ start _ n).symm
  | worked next round unfinished => exact keeps
  | rested next round finished =>
    obtain ⟨k, rfl, hnow, hnext⟩ := keeps
    refine ⟨hnext, ?_, fun j hj => ?_⟩
    · show b.now ≤ next
      rw [hnow, hnext, tick_succ]
      exact Nat.le_add_right _ _
    · injection hj with hj
      rw [← hj]
      exact hnow.ge

theorem Carries.prompt {stage : WorkerStage} {b' : Backend} (h : w.Carries b w.stage stage b')
    (quick : b.geocoders.isQuick 0 = true)
    (prompt : ∀ next round, w.stage = .busy next round → round.latest 0 b.now ≤ b.now) (next : Nat)
    (round : Round) (busy : stage = .busy next round) : round.latest 0 b.now ≤ b.now := by
  obtain ⟨kind, period, isCancelled, before, task⟩ := w
  cases h with
  | begun | rested => cases busy
  | ticked timer =>
    injection busy with _ hround
    rw [← hround, Round.latest_ofKind]
    cases kind <;> exact Nat.le_refl _
  | worked next' round' unfinished =>
    injection busy with _ hround
    rw [← hround]
    have hquick : round'.kind.isQuick 0 b.geocoders = true := by
      cases round' with
      | sweep stage => rfl
      | pass stage => exact quick
    exact (Round.latest_step hquick).trans (prompt next' round' rfl)

/-- A step of a worker begins its next round if it waits for it. -/
theorem InPace.step (h : w.InPace start b.now n) (ready : (Task.worker w).isReady b = true)
    (quick : b.geocoders.isQuick 0 = true) (goOn : Bool) :
    (w.step b goOn).1.InPace start b.now (if w.isWaiting then n + 1 else n) := by
  obtain ⟨stage, b', heq, hcarries⟩ := step_carries h.positive h.untold h.alive b goOn
  have hsound := h.sound.step b goOn
  rw [heq] at hsound ⊢
  exact ⟨h.positive, h.untold, hsound, hcarries.keeps h.keeps (h.isReady.1 ready),
    hcarries.prompt quick h.prompt⟩

/-- Time that passes while a worker waits, and no longer, brings it nearer to its next tick. -/
theorem InPace.wait (h : w.InPace start now n) {later : Nat} (le : now ≤ later) (waits : w.isWaiting = true)
    (early : later ≤ w.tick start n) : w.InPace start later n := by
  have hkeeps := h.keeps
  obtain ⟨positive, untold, sound, -, -⟩ := h
  obtain ⟨kind, period, isCancelled, stage, task⟩ := w
  cases stage with
  | waiting timer =>
    obtain ⟨hdue, -, hlast⟩ := hkeeps
    refine ⟨positive, untold, sound, ⟨hdue, hdue ▸ early, fun k hk => (hlast k hk).trans le⟩, ?_⟩
    intro next round hstage
    cases hstage
  | _ => cases waits

theorem InPace.timer?_eq (h : w.InPace start now n) (waits : w.isWaiting = true) :
    w.timer? = some ⟨w.tick start n⟩ := by
  have hkeeps := h.keeps
  obtain ⟨kind, period, isCancelled, stage, task⟩ := w
  cases stage with
  | waiting timer => exact congrArg some (congrArg Timer.mk hkeeps.1)
  | _ => cases waits

/-- Time may pass for a worker only before its tick, and up to it. -/
theorem InPace.heeds_iff {m : Machine} {id : TaskId} (h : w.InPace start m.now n)
    (task : m.task? id = some (.worker w)) (milliseconds : Nat) :
    m.heeds id (.wait milliseconds) = true ↔
      w.isWaiting = true ∧ m.now ≠ w.tick start n ∧ m.now + milliseconds ≤ w.tick start n := by
  have hcan : m.canStep (.worker w) = true ↔ w.isWaiting = false ∨ m.now = w.tick start n := by
    have hready : m.canStep (.worker w) = (Task.worker w).isReady m.backend := Bool.and_true _
    rw [hready]
    exact InPace.isReady h
  rw [Machine.heeds, task, Option.all_some, Bool.and_eq_true, Bool.not_eq_true', ← Bool.not_eq_true, hcan,
    not_or, Bool.not_eq_false, and_assoc, Task.timer?]
  refine and_congr_right fun waits => and_congr_right fun _ => ?_
  rw [h.timer?_eq waits, Option.all_some, decide_eq_true_iff]

/-- No worker is later than its next tick. -/
theorem InPace.now_le_tick (h : w.InPace start now n) : now ≤ w.tick start n := by
  have hkeeps := h.keeps
  obtain ⟨kind, period, isCancelled, stage, task⟩ := w
  cases stage with
  | starting =>
    rw [hkeeps.2]
    apply le_tick
  | waiting timer => exact hkeeps.1 ▸ hkeeps.2.1
  | busy next round =>
    obtain ⟨k, rfl, rfl, -⟩ := hkeeps
    rw [tick_succ]
    omega
  | ended ending => cases hkeeps

/-- The tick of a round that was begun has come. -/
theorem InPace.tick_le_now {k : Nat} (h : w.InPace start now (k + 1)) : w.tick start k ≤ now := by
  have hkeeps := h.keeps
  obtain ⟨kind, period, isCancelled, stage, task⟩ := w
  cases stage with
  | starting => exact absurd hkeeps.1 (Nat.succ_ne_zero k)
  | waiting timer => exact hkeeps.2.2 k rfl
  | busy next round =>
    obtain ⟨j, hj, hnow, -⟩ := hkeeps
    injection hj with hj
    rw [hj]
    exact hnow.ge
  | ended ending => cases hkeeps

/-- At any time that is not a tick's a worker waits, and has begun as many rounds as ticks have come. -/
theorem InPace.rests {time : Nat} (h : w.InPace start now n) (elapsed : now = start + time)
    (between : ¬ w.period ∣ time) : w.isWaiting = true ∧ n = w.kind.ticksBy time w.period := by
  have hticks : ∀ k, now ≠ w.tick start k := by
    rw [elapsed]
    exact WorkerKind.tick_ne between w.kind
  constructor
  · have hkeeps := h.keeps
    obtain ⟨kind, period, isCancelled, stage, task⟩ := w
    cases stage with
    | starting =>
      have hzero : time = 0 := by
        have hstart := hkeeps.2
        omega
      rw [hzero] at between
      exact absurd (Nat.dvd_zero period) between
    | waiting timer => rfl
    | busy next round =>
      obtain ⟨k, -, hnow, -⟩ := hkeeps
      exact absurd hnow (hticks k)
    | ended ending => cases hkeeps
  · rw [elapsed] at h hticks
    apply WorkerKind.eq_ticksBy
    · exact Nat.lt_of_le_of_ne h.now_le_tick (hticks n)
    · rintro k rfl
      exact h.tick_le_now

end Worker

end Matchday

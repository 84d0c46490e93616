import Matchday.Concurrent.Task
import Mathlib.Data.ENat.Basic

/-!
The rounds of a worker: how many steps and how much time one takes. The rank of a lookup, a pass, a sweep
or a round is the number of steps that it still takes, which each step makes smaller. The latest time is
the one at which it is done, with what it waits for, if each geocoder answers within some time; no step
puts it off. From the two follow when a worker has begun its next round at the latest, and that it comes to
one.

Main statements: `Worker.latest_step`, `Worker.rank_step_lt`.
-/

namespace Matchday
set_option autoImplicit false

/-! ## Lookups -/

/-- Whether each geocoder answers within some time. -/
def Geocoders.isQuick (latency : Nat) (g : Geocoders) : Bool :=
  min g.primary.latency Timer.longest ≤ latency && min g.secondary.latency Timer.longest ≤ latency

namespace Lookup

def rank : Lookup → Nat
  | starting => 3
  | primaryAsked _ _ => 2
  | secondaryAsked _ _ _ => 1
  | finished _ => 0

def latest (latency now : Nat) : Lookup → Nat
  | starting => now + 2 * latency
  | primaryAsked _ timer => max now timer.due + latency
  | secondaryAsked _ _ timer => max now timer.due
  | finished _ => now

variable {latency now : Nat} {address : String} {caller : Caller} {g : Geocoders}

theorem eq_finished {l : Lookup} {result : Resolution} (h : l.result? = some result) :
    l = finished result := by
  cases l with
  | finished r => exact congrArg finished (Option.some.inj h)
  | _ => cases h

theorem now_le_latest (l : Lookup) : now ≤ l.latest latency now := by
  cases l with
  | starting => exact Nat.le_add_right _ _
  | primaryAsked answer timer => exact Nat.le_trans (Nat.le_max_left _ _) (Nat.le_add_right _ _)
  | secondaryAsked e answer timer => exact Nat.le_max_left _ _
  | finished result => exact Nat.le_refl _

theorem latest_add (l : Lookup) (milliseconds : Nat) :
    l.latest latency (now + milliseconds) ≤ l.latest latency now + milliseconds := by
  cases l <;> simp only [latest] <;> omega

theorem latest_of_wait {l : Lookup} {timer : Timer} {milliseconds : Nat}
    (waits : l.timer? = some timer) (early : now + milliseconds ≤ timer.due) :
    l.latest latency (now + milliseconds) = l.latest latency now := by
  cases l with
  | starting | finished result => cases waits
  | primaryAsked answer t | secondaryAsked e answer t =>
    injection waits with waits
    subst waits
    simp only [latest]
    omega

theorem rank_step_lt {l : Lookup} (unfinished : l.result? = none) :
    (l.step now address caller g).1.rank < l.rank := by
  cases l with
  | starting => exact Nat.lt_succ_self 2
  | primaryAsked answer timer =>
    cases answer with
    | ok c => exact Nat.succ_pos 1
    | error e => exact Nat.lt_succ_self 1
  | secondaryAsked e answer timer => exact Nat.succ_pos 0
  | finished result => cases unfinished

theorem latest_step (quick : g.isQuick latency = true) (l : Lookup) :
    (l.step now address caller g).1.latest latency now ≤ l.latest latency now := by
  rw [Geocoders.isQuick, Bool.and_eq_true, decide_eq_true_eq, decide_eq_true_eq] at quick
  cases l with
  | starting =>
    show max now (now + min g.primary.latency Timer.longest) + latency ≤ now + 2 * latency
    omega
  | primaryAsked answer timer =>
    cases answer with
    | ok c => exact now_le_latest _
    | error e =>
      show max now (now + min g.secondary.latency Timer.longest) ≤ max now timer.due + latency
      omega
  | secondaryAsked e answer timer => exact now_le_latest _
  | finished result => exact Nat.le_refl _

end Lookup

/-! ## Passes and sweeps -/

namespace Pass

def rank : Pass → Nat
  | starting => 7
  | resolving _ lookup => lookup.rank + 3
  | writing _ _ => 2
  | untracking _ _ | requeueing _ => 1
  | finished _ => 0

def latest (latency now : Nat) : Pass → Nat
  | starting => now + 2 * latency
  | resolving _ lookup => lookup.latest latency now
  | _ => now

variable {latency : Nat} {b : Backend}

theorem latest_add {now : Nat} (p : Pass) (milliseconds : Nat) :
    p.latest latency (now + milliseconds) ≤ p.latest latency now + milliseconds := by
  cases p with
  | starting =>
    simp only [latest]
    omega
  | resolving task lookup => exact lookup.latest_add milliseconds
  | _ => exact Nat.le_refl _

theorem latest_of_wait {now : Nat} {p : Pass} {timer : Timer} {milliseconds : Nat}
    (waits : p.timer? = some timer) (early : now + milliseconds ≤ timer.due) :
    p.latest latency (now + milliseconds) = p.latest latency now := by
  cases p with
  | resolving task lookup => exact Lookup.latest_of_wait waits early
  | _ => cases waits

theorem step_resolving {task : LookupTask} {lookup : Lookup} (unfinished : lookup.result? = none) :
    (step b (resolving task lookup)).1 =
      resolving task (lookup.step b.now task.address .refresh b.geocoders).1 := by
  cases lookup with
  | finished result => cases unfinished
  | _ => rfl

theorem rank_step_lt {p : Pass} (unfinished : p.result? = none) : (p.step b).1.rank < p.rank := by
  cases p with
  | starting =>
    rw [step]
    split
    · exact Nat.succ_pos 6
    · exact Nat.lt_succ_self 6
  | resolving task lookup =>
    cases hresult : lookup.result? with
    | none =>
      rw [step_resolving hresult]
      exact Nat.add_lt_add_right (Lookup.rank_step_lt hresult) 3
    | some result =>
      obtain rfl := Lookup.eq_finished hresult
      cases result with
      | ok c => exact Nat.lt_succ_self 2
      | error e => exact Nat.succ_lt_succ (Nat.succ_pos 1)
  | writing task c =>
    rw [step]
    split
    · exact Nat.lt_succ_self 1
    · exact Nat.lt_succ_self 1
  | untracking task c | requeueing task => exact Nat.succ_pos 0
  | finished outcome => cases unfinished

theorem now_le_latest {now : Nat} (p : Pass) : now ≤ p.latest latency now := by
  cases p with
  | starting => exact Nat.le_add_right _ _
  | resolving task lookup => exact lookup.now_le_latest
  | _ => exact Nat.le_refl _

theorem latest_step (quick : b.geocoders.isQuick latency = true) (p : Pass) :
    (p.step b).1.latest latency b.now ≤ p.latest latency b.now := by
  cases p with
  | starting =>
    rw [step]
    split
    · exact Nat.le_add_right _ _
    · exact Nat.le_refl _
  | resolving task lookup =>
    cases hresult : lookup.result? with
    | none =>
      rw [step_resolving hresult]
      exact Lookup.latest_step quick lookup
    | some result =>
      obtain rfl := Lookup.eq_finished hresult
      cases result <;> exact Nat.le_refl _
  | writing task c =>
    rw [step]
    split
    · exact Nat.le_refl _
    · exact Nat.le_refl _
  | _ => exact Nat.le_refl _

end Pass

def Sweep.rank : Sweep → ℕ∞
  -- how many locations there are is not known before they are loaded
  | starting => ⊤
  | observing missing _ => (missing.length + 1 : Nat)
  | finished _ => 0

theorem Sweep.rank_step_lt {b : Backend} {s : Sweep} (unfinished : s.result? = none) :
    (s.step b).1.rank < s.rank := by
  cases s with
  | starting =>
    rw [step]
    split
    · exact ENat.top_pos
    · exact ENat.natCast_lt_top _
  | observing missing queued =>
    cases missing with
    | nil => exact ENat.natCast_lt_natCast.2 (Nat.succ_pos 0)
    | cons l ls => exact ENat.natCast_lt_natCast.2 (Nat.lt_succ_self _)
  | finished result => cases unfinished

/-! ## Rounds -/

namespace Round

def kind : Round → WorkerKind
  | sweep _ => .sweep
  | pass _ => .consumer

def rank : Round → ℕ∞
  | sweep stage => stage.rank
  | pass stage => (stage.rank : Nat)

def latest (latency now : Nat) : Round → Nat
  | sweep _ => now
  | pass stage => stage.latest latency now

theorem kind_ofKind (kind : WorkerKind) : (ofKind kind).kind = kind := by cases kind <;> rfl

theorem kind_step (b : Backend) (r : Round) : (r.step b).1.kind = r.kind := by cases r <;> rfl

theorem rank_step_lt {b : Backend} {r : Round} (unfinished : r.isFinished = false) :
    (r.step b).1.rank < r.rank := by
  cases r with
  | sweep stage =>
    exact Sweep.rank_step_lt (Option.not_isSome_iff_eq_none.1 (ne_true_of_eq_false unfinished))
  | pass stage =>
    exact ENat.natCast_lt_natCast.2
      (Pass.rank_step_lt (Option.not_isSome_iff_eq_none.1 (ne_true_of_eq_false unfinished)))

end Round

/-- Whether what the rounds of a worker wait for takes some time at most. -/
def WorkerKind.isQuick (latency : Nat) (g : Geocoders) : WorkerKind → Bool
  | sweep => true
  | consumer => g.isQuick latency

/-- The most time that a round of a worker takes, if each geocoder answers within some time. -/
def WorkerKind.roundTime (latency : Nat) : WorkerKind → Nat
  | sweep => 0
  | consumer => 2 * latency

namespace Round

theorem now_le_latest {latency now : Nat} (r : Round) : now ≤ r.latest latency now := by
  cases r with
  | sweep stage => exact Nat.le_refl _
  | pass stage => exact stage.now_le_latest

theorem latest_add {latency now : Nat} (r : Round) (milliseconds : Nat) :
    r.latest latency (now + milliseconds) ≤ r.latest latency now + milliseconds := by
  cases r with
  | sweep stage => exact Nat.le_refl _
  | pass stage => exact stage.latest_add milliseconds

theorem latest_of_wait {latency now : Nat} {r : Round} {timer : Timer} {milliseconds : Nat}
    (waits : r.timer? = some timer) (early : now + milliseconds ≤ timer.due) :
    r.latest latency (now + milliseconds) = r.latest latency now := by
  cases r with
  | sweep stage => cases waits
  | pass stage => exact Pass.latest_of_wait waits early

theorem latest_step {latency : Nat} {b : Backend} {r : Round}
    (quick : r.kind.isQuick latency b.geocoders = true) :
    (r.step b).1.latest latency b.now ≤ r.latest latency b.now := by
  cases r with
  | sweep stage => exact Nat.le_refl _
  | pass stage => exact Pass.latest_step quick stage

theorem latest_ofKind (latency now : Nat) (kind : WorkerKind) :
    (ofKind kind).latest latency now = now + kind.roundTime latency := by
  cases kind <;> rfl

end Round

/-! ## Workers -/

theorem nextTick_le {period due now : Nat} (h : due ≤ now) : nextTick period due now ≤ now + period := by
  unfold nextTick
  split
  · exact Nat.le_refl _
  · omega

/-- What the next step of a worker may make of its stage. -/
inductive Worker.Goes (b : Backend) (w : Worker) : WorkerStage → WorkerStage → Prop where
  | broken (zero : w.period = 0) : Goes b w .starting (.ended w.breakdown)
  | begun (positive : w.period ≠ 0) : Goes b w .starting (.waiting (w.kind.firstTick b.now w.period))
  | stopped (timer : Timer) (told : w.isCancelled = true) : Goes b w (.waiting timer) (.ended .stopped)
  | ticked (timer : Timer) (going : w.isCancelled = false ∨ timer.isDue b.now = true) :
      Goes b w (.waiting timer) (.busy (nextTick w.period timer.due b.now) (.ofKind w.kind))
  | worked (next : Nat) (round : Round) (unfinished : round.isFinished = false) :
      Goes b w (.busy next round) (.busy next (round.step b).1)
  | rested (next : Nat) (round : Round) (finished : round.isFinished = true) :
      Goes b w (.busy next round) (.waiting ⟨next⟩)
  | stayed (ending : Ending) : Goes b w (.ended ending) (.ended ending)

namespace Worker

def isBusy (w : Worker) : Bool :=
  match w.stage with
  | .busy _ _ => true
  | _ => false

/-- What holds of a worker whatever happens to it: with a period of zero it does nothing but break down; with
any other it never does, its rounds are of its kind, and it stops only if it was told to. -/
def IsSound (w : Worker) : Prop :=
  match w.stage with
  | .starting => True
  | .waiting _ => w.period ≠ 0
  | .busy _ round => w.period ≠ 0 ∧ round.kind = w.kind
  | .ended ending =>
    (w.period = 0 ∧ ending = w.breakdown) ∨ (w.period ≠ 0 ∧ ending = .stopped ∧ w.isCancelled = true)

/-- The steps after which a worker waits for its next tick. -/
def rank (w : Worker) : ℕ∞ :=
  match w.stage with
  | .starting => 1
  | .busy _ round => round.rank + 1
  | .waiting _ | .ended _ => 0

/-- The time from one round to the next at most, if each geocoder answers within some time. -/
def span (latency : Nat) (w : Worker) : Nat := max w.period (w.kind.roundTime latency)

/-- The time at which a worker has begun its next round at the latest, if each geocoder answers within some
time. -/
def latest (latency now : Nat) (w : Worker) : Nat :=
  match w.stage with
  | .starting => (w.kind.firstTick now w.period).due
  | .waiting timer => max now timer.due
  | .busy next round => max next (round.latest latency now)
  | .ended _ => now

variable {b : Backend} {w : Worker} {goOn : Bool} {latency : Nat}

theorem step_goes (w : Worker) (b : Backend) (goOn : Bool) :
    ∃ stage, (w.step b goOn).1 = w.become stage ∧ w.Goes b w.stage stage := by
  obtain ⟨kind, period, isCancelled, stage, task⟩ := w
  cases stage with
  | starting =>
    by_cases hperiod : period = 0
    · exact ⟨.ended (.panicked task _), congrArg (become _) (if_pos hperiod), .broken hperiod⟩
    · exact ⟨.waiting _, congrArg (become _) (if_neg hperiod), .begun hperiod⟩
  | waiting timer =>
    simp only [step]
    split
    · rename_i h
      rw [Bool.and_eq_true] at h
      exact ⟨_, rfl, .stopped timer h.1⟩
    · rename_i h
      refine ⟨_, rfl, .ticked timer ?_⟩
      cases hcancelled : isCancelled with
      | false => exact .inl rfl
      | true =>
        rw [hcancelled, Bool.true_and, Bool.not_eq_true, Bool.not_eq_false', Bool.and_eq_true] at h
        exact .inr h.2
  | busy next round =>
    simp only [step]
    split
    · rename_i h
      exact ⟨_, rfl, .rested next round h⟩
    · rename_i h
      exact ⟨_, rfl, .worked next round (Bool.eq_false_of_not_eq_true h)⟩
  | ended ending => exact ⟨_, rfl, .stayed ending⟩

theorem IsSound.step (h : w.IsSound) (b : Backend) (goOn : Bool) : (w.step b goOn).1.IsSound := by
  obtain ⟨stage, heq, hgoes⟩ := w.step_goes b goOn
  rw [heq]
  obtain ⟨kind, period, isCancelled, before, task⟩ := w
  cases hgoes with
  | broken zero => exact .inl ⟨zero, rfl⟩
  | begun positive => exact positive
  | stopped timer told => exact .inr ⟨h, rfl, told⟩
  | ticked timer going => exact ⟨h, Round.kind_ofKind kind⟩
  | worked next round unfinished => exact ⟨h.1, (round.kind_step b).trans h.2⟩
  | rested next round finished => exact h.1
  | stayed ending => exact h

theorem rank_step_lt (positive : w.period ≠ 0) (alive : w.ending? = none)
    (idle : w.isWaiting = false) : (w.step b goOn).1.rank < w.rank := by
  obtain ⟨stage, heq, hgoes⟩ := w.step_goes b goOn
  rw [heq]
  obtain ⟨kind, period, isCancelled, before, task⟩ := w
  cases hgoes with
  | broken zero => exact absurd zero positive
  | begun positive => exact zero_lt_one
  | stopped | ticked => cases idle
  | worked next round unfinished =>
    exact (ENat.add_lt_add_iff_right ENat.one_ne_top).2 (Round.rank_step_lt unfinished)
  | rested next round finished => exact zero_lt_one.trans_le le_add_self
  | stayed ending => cases alive

theorem isBusy_step (waits : w.isWaiting = true) (untold : w.isCancelled = false) :
    (w.step b goOn).1.isBusy = true := by
  obtain ⟨stage, heq, hgoes⟩ := w.step_goes b goOn
  rw [heq]
  obtain ⟨kind, period, isCancelled, before, task⟩ := w
  cases hgoes with
  | stopped timer told =>
    rw [untold] at told
    cases told
  | ticked timer going => rfl
  | _ => cases waits

theorem isBusy_of_isWaiting (waits : w.isWaiting = true) : w.isBusy = false := by
  obtain ⟨kind, period, isCancelled, stage, task⟩ := w
  cases stage with
  | waiting timer => rfl
  | _ => cases waits

/-- A worker with a period of zero has not begun or has broken down. -/
theorem IsSound.stage_of_zero (h : w.IsSound) (zero : w.period = 0) :
    w.stage = .starting ∨ w.stage = .ended w.breakdown := by
  obtain ⟨kind, period, isCancelled, stage, task⟩ := w
  cases stage with
  | starting => exact .inl rfl
  | waiting timer => exact absurd zero h
  | busy next round => exact absurd zero h.1
  | ended ending =>
    obtain ⟨-, hending⟩ | ⟨positive, -⟩ := h
    · exact .inr (congrArg WorkerStage.ended hending)
    · exact absurd zero positive

theorem isBusy_of_zero (h : w.IsSound) (zero : w.period = 0) : w.isBusy = false := by
  rw [isBusy]
  obtain hstage | hstage := h.stage_of_zero zero <;> rw [hstage]

theorem ending?_step_of_zero (h : w.IsSound) (zero : w.period = 0) :
    (w.step b goOn).1.ending? = some w.breakdown := by
  obtain ⟨stage, heq, hgoes⟩ := w.step_goes b goOn
  rw [heq]
  obtain hstage | hstage := h.stage_of_zero zero
  · rw [hstage] at hgoes
    cases hgoes with
    | broken => rfl
    | begun positive => exact absurd zero positive
  · rw [hstage] at hgoes
    cases hgoes
    rfl

/-- A worker with any other period ends only by stopping, when it was told to. -/
theorem IsSound.ending?_cases (h : w.IsSound) (positive : w.period ≠ 0) :
    w.ending? = none ∨ w.ending? = some .stopped ∧ w.isCancelled = true := by
  obtain ⟨kind, period, isCancelled, stage, task⟩ := w
  cases stage with
  | ended ending =>
    obtain ⟨zero, -⟩ | ⟨-, rfl, told⟩ := h
    · exact absurd zero positive
    · exact .inr ⟨rfl, told⟩
  | _ => exact .inl rfl

theorem IsSound.ending?_eq (h : w.IsSound) (positive : w.period ≠ 0) (untold : w.isCancelled = false) :
    w.ending? = none := by
  refine (h.ending?_cases positive).resolve_right fun hended => ?_
  rw [untold] at hended
  exact Bool.false_ne_true hended.2

theorem now_le_latest {now : Nat} (w : Worker) : now ≤ w.latest latency now := by
  obtain ⟨kind, period, isCancelled, stage, task⟩ := w
  cases stage with
  | starting =>
    cases kind with
    | sweep => exact Nat.le_refl now
    | consumer => exact Nat.le_add_right now period
  | waiting timer => exact Nat.le_max_left _ _
  | busy next round => exact Nat.le_trans round.now_le_latest (Nat.le_max_right _ _)
  | ended ending => exact Nat.le_refl now

theorem latest_add {now : Nat} (w : Worker) (milliseconds : Nat) :
    w.latest latency (now + milliseconds) ≤ w.latest latency now + milliseconds := by
  obtain ⟨kind, period, isCancelled, stage, task⟩ := w
  cases stage with
  | starting =>
    cases kind with
    | sweep => exact Nat.le_refl _
    | consumer => exact Nat.le_of_eq (Nat.add_right_comm now milliseconds period)
  | waiting timer =>
    simp only [latest]
    omega
  | busy next round =>
    have hround : round.latest latency (now + milliseconds) ≤ round.latest latency now + milliseconds :=
      round.latest_add milliseconds
    simp only [latest]
    omega
  | ended ending => exact Nat.le_refl _

theorem latest_create (kind : WorkerKind) (period task now : Nat) :
    (create kind period task).latest latency now ≤ now + (create kind period task).span latency := by
  cases kind with
  | sweep => exact Nat.le_add_right _ _
  | consumer => exact Nat.add_le_add_left (Nat.le_max_left _ _) now

/-- While what a worker waits for is to come, time that passes does not put off its next round. -/
theorem latest_of_wait {now milliseconds : Nat} {timer : Timer} (waits : w.timer? = some timer)
    (early : now + milliseconds ≤ timer.due) :
    w.latest latency (now + milliseconds) = w.latest latency now := by
  obtain ⟨kind, period, isCancelled, stage, task⟩ := w
  cases stage with
  | starting | ended ending => cases waits
  | waiting t =>
    injection waits with waits
    subst waits
    simp only [latest]
    omega
  | busy next round => exact congrArg (max next) (Round.latest_of_wait waits early)

theorem isReady_worker : (Task.worker w).isReady b = (!w.ending?.isSome &&
    (w.isWaiting && w.isCancelled || w.timer?.all (·.isDue b.now))) := by
  simp [Task.isReady, Task.isFinished, Task.isInterrupted, Task.timer?, Task.awaitsSettlements]

/-- When a worker takes a step it comes no later to its next round, or begins it. -/
theorem latest_step (sound : w.IsSound) (ready : (Task.worker w).isReady b = true)
    (quick : w.kind.isQuick latency b.geocoders = true) :
    (w.step b goOn).1.latest latency b.now ≤ w.latest latency b.now ∨
      w.isBusy = false ∧ (w.step b goOn).1.isBusy = true ∧
        (w.step b goOn).1.latest latency b.now ≤ b.now + w.span latency := by
  obtain ⟨stage, heq, hgoes⟩ := w.step_goes b goOn
  rw [heq]
  obtain ⟨kind, period, isCancelled, before, task⟩ := w
  cases hgoes with
  | broken zero | stopped timer told => exact .inl (now_le_latest _)
  | begun positive => exact .inl (Nat.max_le.2 ⟨now_le_latest _, Nat.le_refl _⟩)
  | ticked timer going =>
    have hdue : timer.due ≤ b.now := by
      obtain rfl | hdue := going
      · simpa [Task.isReady, Task.isFinished, ending?, Task.isInterrupted, Task.timer?, timer?,
          Task.awaitsSettlements, Timer.isDue] using ready
      · exact of_decide_eq_true hdue
    refine .inr ⟨rfl, rfl, ?_⟩
    show max (nextTick period timer.due b.now) ((Round.ofKind kind).latest latency b.now) ≤
      b.now + max period (kind.roundTime latency)
    rw [Round.latest_ofKind, ← Nat.add_max_add_left]
    exact max_le_max_right _ (nextTick_le hdue)
  | worked next round unfinished =>
    have hquick : round.kind.isQuick latency b.geocoders = true := sound.2 ▸ quick
    exact .inl (max_le_max_left next (Round.latest_step hquick))
  | rested next round finished =>
    exact .inl (Nat.max_le.2 ⟨now_le_latest _, Nat.le_max_left _ _⟩)
  | stayed ending => exact .inl (Nat.le_refl _)

end Worker

end Matchday

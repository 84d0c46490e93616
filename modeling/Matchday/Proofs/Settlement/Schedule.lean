import Matchday.Proofs.Concurrent.Footprint

/-!
What a step does to the schedule of settlements: nothing, or one of the schedule's operations. A
question is recorded, a settlement that was under way ends, or the schedule is closed
(`Task.step_schedules`). So no recorded payment is ever forgotten, a payment is accepted only at the
first question about it, and each settlement is counted until it ends.
-/

namespace Matchday
set_option autoImplicit false

namespace Schedule

/-- A question is recorded behind those before it. -/
theorem scheduled_queried (s : Schedule) (payment : PaymentId) :
    (s.queried payment).scheduled =
      if payment ∈ s.scheduled then s.scheduled else s.scheduled ++ [payment] := by
  have hmem : s.isScheduled payment = decide (payment ∈ s.scheduled) := List.contains_eq_mem ..
  simp only [queried, decision, hmem]
  by_cases hs : payment ∈ s.scheduled
  · simp only [hs, decide_true, if_true]
  · by_cases hc : s.isClosed = true
    · simp only [hs, hc, decide_false, if_true, if_false, Bool.false_eq_true]
    · simp only [hs, hc, decide_false, if_false, Bool.false_eq_true]

theorem mem_scheduled_queried (s : Schedule) (payment : PaymentId) :
    payment ∈ (s.queried payment).scheduled := by
  rw [scheduled_queried]
  split
  · assumption
  · exact List.mem_append_right _ (List.mem_singleton_self payment)

theorem not_mem_of_accepted {s : Schedule} {payment : PaymentId}
    (h : s.decision payment = .accepted) : payment ∉ s.scheduled := by
  intro hmem
  have hs : s.isScheduled payment = true := List.contains_iff_mem.2 hmem
  rw [decision, if_pos hs] at h
  cases h

theorem delay_queried (s : Schedule) (payment : PaymentId) :
    (s.queried payment).delay = s.delay := by
  unfold queried
  split <;> rfl

/-- A settlement is counted from the question that was accepted. -/
theorem inFlight_queried (s : Schedule) (payment : PaymentId) :
    (s.queried payment).inFlight =
      s.inFlight + (decide (s.decision payment = .accepted)).toNat := by
  unfold queried
  split
  all_goals
    rename_i h
    rw [h]
    rfl

end Schedule

/-! ## Steps -/

/-- The payment that a task's next step asks the schedule about. -/
def Task.asks? : Task → Option PaymentId
  | query payment none => some payment
  | status payment (.asking (.ok (some .pending))) => some payment
  | _ => none

/-- Whether a task is a settlement that has not ended. -/
def Task.isRunning : Task → Bool
  | settlement _ stage => stage.result?.isNone
  | _ => false

/-- What a step makes of a schedule, by the payment that it asks about, by whether a settlement begins,
and by whether the task is a settlement under way before the step and after it. -/
inductive Schedules (s s' : Schedule) (asks : Option PaymentId) (begins runs runs' : Bool) :
    Prop where
  | rested (same : s' = s) (silent : asks = none) (idle : begins = false) (goes : runs' = runs)
  | queried (payment : PaymentId) (asked : asks = some payment) (move : s' = s.queried payment)
      (accepts : begins = decide (s.decision payment = .accepted)) (goes : runs' = runs)
  | settled (move : s' = s.settled) (silent : asks = none) (idle : begins = false)
      (ran : runs = true) (ended : runs' = false)
  | closed (mode : ShutdownMode) (move : s' = s.close mode) (silent : asks = none)
      (idle : begins = false) (goes : runs' = runs)

section Consequences
variable {s s' : Schedule} {asks : Option PaymentId} {begins runs runs' : Bool}

theorem Schedules.scheduled_of_asks {payment : PaymentId}
    (h : Schedules s s' (some payment) begins runs runs') :
    s'.scheduled =
      if payment ∈ s.scheduled then s.scheduled else s.scheduled ++ [payment] := by
  cases h with
  | queried other asked move =>
    injection asked with asked
    rw [move, asked, Schedule.scheduled_queried]
  | rested _ silent | settled _ silent | closed _ _ silent => cases silent

theorem Schedules.scheduled_of_silent (h : Schedules s s' none begins runs runs') :
    s'.scheduled = s.scheduled := by
  cases h with
  | rested same => rw [same]
  | queried payment asked => cases asked
  | settled move | closed mode move => rw [move]; rfl

theorem Schedules.scheduled_prefix (h : Schedules s s' asks begins runs runs') :
    s.scheduled <+: s'.scheduled := by
  cases asks with
  | none => exact ⟨[], by rw [List.append_nil, h.scheduled_of_silent]⟩
  | some payment =>
    rw [h.scheduled_of_asks]
    split
    · exact List.prefix_rfl
    · exact List.prefix_append _ _

theorem Schedules.delay_eq (h : Schedules s s' asks begins runs runs') : s'.delay = s.delay := by
  cases h with
  | rested same => rw [same]
  | queried payment _ move => rw [move, Schedule.delay_queried]
  | settled move | closed mode move => rw [move]; rfl

theorem Schedules.inFlight (h : Schedules s s' asks begins runs runs')
    (counted : runs = true → 0 < s.inFlight) :
    s'.inFlight + runs.toNat = s.inFlight + runs'.toNat + begins.toNat := by
  cases h with
  | rested same _ idle goes =>
    rw [same, idle, goes]
    rfl
  | queried payment _ move accepts goes =>
    rw [move, Schedule.inFlight_queried, accepts, goes]
    omega
  | settled move _ idle ran ended =>
    have hpos := counted ran
    rw [move, idle, ran, ended]
    show s.inFlight - 1 + 1 = s.inFlight + 0 + 0
    omega
  | closed mode move _ idle goes =>
    rw [move, idle, goes]
    rfl

/-- A settlement begins only by an accepted question. -/
theorem Schedules.of_begins (h : Schedules s s' asks begins runs runs') (yes : begins = true) :
    ∃ payment, asks = some payment ∧ s.decision payment = .accepted ∧
      s' = s.queried payment := by
  cases h with
  | queried payment asked move accepts =>
    rw [yes] at accepts
    exact ⟨payment, asked, of_decide_eq_true accepts.symm, move⟩
  | rested _ _ idle | settled _ _ idle | closed _ _ _ idle =>
    rw [yes] at idle
    cases idle

end Consequences

theorem Settlement.step_schedules (b : Backend) (payment : PaymentId) (goOn : Bool)
    (s : Settlement) :
    Schedules b.schedule (s.step b payment goOn).2.schedule none false s.result?.isNone
      (s.step b payment goOn).1.result?.isNone := by
  cases s with
  | starting => exact .rested rfl rfl rfl rfl
  | waiting timer =>
    simp only [Settlement.step]
    split
    · exact .settled rfl rfl rfl rfl rfl
    · exact .rested rfl rfl rfl rfl
  | marking =>
    simp only [Settlement.step, Settlement.mark]
    split
    · exact .rested rfl rfl rfl rfl
    · exact .settled rfl rfl rfl rfl rfl
  | reloading =>
    simp only [Settlement.step, Settlement.reload]
    split
    · exact .rested rfl rfl rfl rfl
    · exact .settled rfl rfl rfl rfl rfl
    · exact .settled rfl rfl rfl rfl rfl
  | recording p =>
    simp only [Settlement.step, Settlement.recordPaid]
    split
    · exact .settled rfl rfl rfl rfl rfl
    · exact .settled rfl rfl rfl rfl rfl
  | finished outcome => exact .rested rfl rfl rfl rfl

theorem StatusQuery.step_schedules (b : Backend) (payment : PaymentId) (s : StatusQuery) :
    Schedules b.schedule (s.step b payment).2.2.schedule (Task.status payment s).asks?
      (s.step b payment).2.1 false false := by
  cases s with
  | starting =>
    simp only [StatusQuery.step, Backend.loadStatus]
    split <;> exact .rested rfl rfl rfl rfl
  | asking answer =>
    rcases answer with e | _ | status
    · exact .rested rfl rfl rfl rfl
    · exact .rested rfl rfl rfl rfl
    · cases status with
      | pending => exact .queried payment rfl rfl rfl rfl
      | paid | cancelled => exact .rested rfl rfl rfl rfl
  | finished answer scheduled => exact .rested rfl rfl rfl rfl

theorem Shutdown.step_schedules (b : Backend) (mode : ShutdownMode) (s : Shutdown) :
    Schedules b.schedule (s.step b mode).2.schedule none false false false := by
  cases s with
  | starting => exact .closed mode rfl rfl rfl rfl
  | waiting | finished => exact .rested rfl rfl rfl rfl

theorem Task.step_schedules (b : Backend) (goOn : Bool) (t : Task) :
    Schedules b.schedule (t.step b goOn).2.1.schedule t.asks? (t.step b goOn).2.2 t.isRunning
      (t.step b goOn).1.isRunning := by
  cases t with
  | mark event address recheckAfter answer => cases answer <;> exact .rested rfl rfl rfl rfl
  | observe location answer => cases answer <;> exact .rested rfl rfl rfl rfl
  | sweep stage =>
    obtain ⟨events, queue, h⟩ := stage.step_footprint b
    exact .rested (by simp only [Task.step, h]) rfl rfl rfl
  | reading event stage =>
    obtain ⟨events, queue, h⟩ := stage.step_footprint b event
    exact .rested (by simp only [Task.step, h]) rfl rfl rfl
  | pass stage =>
    obtain ⟨events, geocoders, queue, log, h⟩ := stage.step_footprint b
    exact .rested (by simp only [Task.step, h]) rfl rfl rfl
  | lookup address caller stage => exact .rested rfl rfl rfl rfl
  | subscription wish lag stage =>
    obtain ⟨events, log, h⟩ := stage.step_footprint b wish lag
    exact .rested (by simp only [Task.step, h]) rfl rfl rfl
  | query payment answer =>
    cases answer with
    | none => exact .queried payment rfl rfl rfl rfl
    | some answer => exact .rested rfl rfl rfl rfl
  | status payment stage => exact stage.step_schedules b payment
  | settlement payment stage => exact stage.step_schedules b payment goOn
  | worker w =>
    obtain ⟨events, geocoders, queue, log, h⟩ := w.step_footprint b goOn
    exact .rested (by simp only [Task.step, h]) rfl rfl rfl
  | shutdown mode stage => exact stage.step_schedules b mode
  | closing crew mode stage => exact .rested rfl rfl rfl rfl

/-- Who asks the schedule about a payment does not settle one. -/
theorem Task.ne_settlement_of_asks? {t : Task} {payment : PaymentId} (h : t.asks? = some payment) :
    ∀ {other : PaymentId} {stage : Settlement}, t ≠ .settlement other stage := by
  rintro other stage rfl
  cases h

/-- Who asks the schedule about a payment is a question about this payment. -/
theorem Task.asked?_of_asks? {t : Task} {payment : PaymentId} (h : t.asks? = some payment) :
    t.asked? = some payment := by
  unfold asks? at h
  split at h
  · exact h
  · exact h
  · cases h

end Matchday

import Matchday.Proofs.Settlement.Schedule

/-!
One step of a question and of a settlement. A call is told that a settlement begins by the step in which
its question is accepted. A settlement waits for the delay, or for thirty years if the delay is longer,
and writes the status in the step behind its wait (`Settlement.Timely.step`); no other task writes one
(`Task.step_payments`).
-/

namespace Matchday
set_option autoImplicit false

namespace Task

/-- The payment whose settlement a call was told to have begun. -/
def accepted? : Task → Option PaymentId
  | query payment (some true) | status payment (.finished _ true) => some payment
  | _ => none

/-- Whether a task is a settlement that has ended. -/
def isSettled : Task → Bool
  | settlement _ stage => stage.result?.isSome
  | _ => false

@[simp] theorem accepted?_cancel (t : Task) : t.cancel.accepted? = t.accepted? := by
  cases t <;> rfl

theorem accepted?_task (c : Call) (now : Nat) : (c.task now).accepted? = none := by
  cases c <;> rfl

@[simp] theorem isRunning_cancel (t : Task) : t.cancel.isRunning = t.isRunning := by
  cases t <;> rfl

theorem isRunning_task (c : Call) (now : Nat) : (c.task now).isRunning = false := by
  cases c <;> rfl

/-- A call is told that a settlement begins by the step in which it asks. -/
theorem accepted?_step (b : Backend) (goOn : Bool) {t : Task} (h : t.isFinished = false) :
    t.accepted? = none ∧
      (t.step b goOn).1.accepted? = if (t.step b goOn).2.2 then t.asks? else none := by
  cases t with
  | query payment answer =>
    cases answer with
    | none =>
      refine ⟨rfl, ?_⟩
      show (query payment (some (b.query payment).1)).accepted? =
        if (b.query payment).1 then some payment else none
      cases (b.query payment).1 <;> rfl
    | some answer => exact absurd h (by simp [isFinished])
  | status payment stage =>
    cases stage with
    | starting =>
      refine ⟨rfl, ?_⟩
      rfl
    | asking answer =>
      refine ⟨rfl, ?_⟩
      show (status payment (.finished answer (b.querySeen payment answer).1)).accepted? =
        if (b.querySeen payment answer).1 then _ else none
      rcases answer with e | _ | status
      · rfl
      · rfl
      · cases status with
        | pending => cases (b.querySeen payment (.ok (some .pending))).1 <;> rfl
        | paid | cancelled => rfl
    | finished answer scheduled => exact absurd h (by simp [isFinished, StatusQuery.result?])
  | mark event address recheckAfter answer => cases answer <;> exact ⟨rfl, rfl⟩
  | observe location answer => cases answer <;> exact ⟨rfl, rfl⟩
  | _ => exact ⟨rfl, rfl⟩

/-- A question holds the status that it has loaded in its first step. -/
theorem eq_starting_of_step {b : Backend} {goOn : Bool} {t : Task} {payment : PaymentId}
    {answer : StatusAnswer} (h : (t.step b goOn).1 = status payment (.asking answer)) :
    t = status payment .starting ∧ (b.loadStatus payment).1 = answer := by
  cases t with
  | status other stage =>
    injection h with hpayment hstage
    cases stage with
    | starting =>
      injection hstage with hstage
      rw [hpayment] at hstage ⊢
      exact ⟨rfl, hstage⟩
    | asking answer => cases hstage
    | finished answer scheduled => cases hstage
  | mark event address recheckAfter answer => cases answer <;> cases h
  | observe location answer => cases answer <;> cases h
  | query payment answer => cases answer <;> cases h
  | _ => cases h

/-- Who has asked the schedule about a payment is done. -/
theorem step_of_asks? (b : Backend) (goOn : Bool) {t : Task} {payment : PaymentId}
    (h : t.asks? = some payment) :
    (∃ answer, (t.step b goOn).1 = query payment (some answer)) ∨
      t = status payment (.asking (.ok (some .pending))) ∧
        ∃ scheduled, (t.step b goOn).1 =
          status payment (.finished (.ok (some .pending)) scheduled) := by
  unfold asks? at h
  split at h
  · injection h with h
    rw [h]
    exact .inl ⟨_, rfl⟩
  · injection h with h
    rw [h]
    exact .inr ⟨rfl, _, rfl⟩
  · cases h

end Task

/-- What is loaded is what is stored. -/
theorem Backend.status?_of_loadStatus {b : Backend} {payment : PaymentId} {status : PaymentStatus}
    (h : (b.loadStatus payment).1 = .ok (some status)) :
    b.payments.status? payment = some status := by
  unfold Backend.loadStatus PaymentStore.find PaymentStore.call at h
  split at h
  · rename_i p payments hfind
    split at hfind
    · cases hfind
    · split at hfind
      · cases hfind
      · injection hfind with hfind _
        injection hfind with hfind
        injection h with h
        rw [PaymentStore.status?, hfind]
        exact h
  · cases h

/-! ## Who writes a status -/

theorem PaymentStore.payments_find (s : PaymentStore) (payment : PaymentId) :
    (s.find payment).2.payments = s.payments := by
  unfold find call
  split
  · rfl
  · split <;> rfl

theorem Backend.payments_loadStatus (b : Backend) (payment : PaymentId) :
    (b.loadStatus payment).2.payments = (b.payments.find payment).2 := by
  unfold loadStatus
  split
  all_goals
    rename_i hfind
    rw [hfind]

theorem Settlement.payments_mark (b : Backend) (payment : PaymentId) :
    (Settlement.mark b payment).2.payments = (b.payments.updateStatus payment .paid).2 := by
  unfold Settlement.mark
  split
  all_goals
    rename_i hwrite
    simp only [hwrite, Settlement.finish, Backend.record]

theorem Settlement.payments_reload (b : Backend) (payment : PaymentId) :
    (Settlement.reload b payment).2.payments = (b.payments.find payment).2 := by
  unfold Settlement.reload
  split
  all_goals
    rename_i hfind
    simp only [hfind, Settlement.finish, Backend.record]

/-- Every step but that of a settlement that writes the status makes at most one call of the store of
payments, which reads it. -/
theorem Task.step_finds (b : Backend) (goOn : Bool) {t : Task}
    (h : ∀ payment, t ≠ .settlement payment .marking) :
    (t.step b goOn).2.1.payments = b.payments ∨
      ∃ payment, (t.step b goOn).2.1.payments = (b.payments.find payment).2 := by
  cases t with
  | mark event address recheckAfter answer => cases answer <;> exact .inl rfl
  | observe location answer => cases answer <;> exact .inl rfl
  | sweep stage =>
    obtain ⟨events, queue, h⟩ := stage.step_footprint b
    exact .inl (by simp only [Task.step, h])
  | reading event stage =>
    obtain ⟨events, queue, h⟩ := stage.step_footprint b event
    exact .inl (by simp only [Task.step, h])
  | pass stage =>
    obtain ⟨events, geocoders, queue, log, h⟩ := stage.step_footprint b
    exact .inl (by simp only [Task.step, h])
  | lookup address caller stage =>
    obtain ⟨geocoders, log, h⟩ := b.stepLookup_footprint address caller stage
    exact .inl (by simp only [Task.step, h])
  | subscription wish lag stage =>
    obtain ⟨events, log, h⟩ := stage.step_footprint b wish lag
    exact .inl (by simp only [Task.step, h])
  | query payment answer => cases answer <;> exact .inl rfl
  | status payment stage =>
    cases stage with
    | starting => exact .inr ⟨payment, b.payments_loadStatus payment⟩
    | asking answer =>
      rcases answer with e | _ | status
      · exact .inl rfl
      · exact .inl rfl
      · cases status <;> exact .inl rfl
    | finished answer scheduled => exact .inl rfl
  | settlement payment stage =>
    cases stage with
    | starting | finished outcome => exact .inl rfl
    | waiting timer =>
      simp only [Task.step, Settlement.step]
      split <;> exact .inl rfl
    | marking => exact absurd rfl (h payment)
    | reloading => exact .inr ⟨payment, Settlement.payments_reload b payment⟩
    | recording p =>
      simp only [Task.step, Settlement.step, Settlement.recordPaid]
      split <;> exact .inl rfl
  | worker w =>
    obtain ⟨events, geocoders, queue, log, h⟩ := w.step_footprint b goOn
    exact .inl (by simp only [Task.step, h])
  | shutdown mode stage => cases stage <;> exact .inl rfl
  | closing crew mode stage => exact .inl rfl

/-- Only a settlement that writes the status changes what is kept of payments. -/
theorem Task.step_payments (b : Backend) (goOn : Bool) {t : Task}
    (h : ∀ payment, t ≠ .settlement payment .marking) :
    (t.step b goOn).2.1.payments.payments = b.payments.payments := by
  obtain hsame | ⟨payment, hfind⟩ := t.step_finds b goOn h
  · rw [hsame]
  · rw [hfind, PaymentStore.payments_find]

/-! ## In time -/

/-- What is known of a settlement at some time that is due at another, if it has written the status at
the listed times. -/
def Settlement.Timely (due now : Nat) (times : List Nat) : Settlement → Prop
  | starting => times = []
  | waiting timer => times = [] ∧ due ≤ timer.due
  | marking => times = [] ∧ due ≤ now
  | reloading | recording _ | finished _ => times.length ≤ 1 ∧ ∀ time ∈ times, due ≤ time

namespace Settlement

variable {due now : Nat} {times : List Nat}

theorem Timely.later {s : Settlement} (h : s.Timely due now times) {now' : Nat} (le : now ≤ now') :
    s.Timely due now' times := by
  cases s with
  | marking => exact ⟨h.1, Nat.le_trans h.2 le⟩
  | _ => exact h

theorem Timely.marks {s : Settlement} (h : s.Timely due now times) :
    times.length ≤ 1 ∧ ∀ time ∈ times, due ≤ time := by
  have empty : times = [] → times.length ≤ 1 ∧ ∀ time ∈ times, due ≤ time := by
    rintro rfl
    exact ⟨Nat.zero_le _, fun _ h => absurd h List.not_mem_nil⟩
  cases s with
  | starting => exact empty h
  | waiting timer => exact empty h.1
  | marking => exact empty h.1
  | reloading | recording p | finished outcome => exact h

/-- The times at which the next step of a settlement writes the status, if it does. -/
def marksNext (now : Nat) : Settlement → List Nat
  | marking => [now]
  | _ => []

/-- A ready settlement that was accepted in time goes on in time. -/
theorem Timely.step {b : Backend} {payment : PaymentId} {s : Settlement} {accepted delay : Nat}
    (h : s.Timely (accepted + min delay Timer.longest) b.now times)
    (past : accepted ≤ b.now) (hdelay : b.schedule.delay = delay) {goOn : Bool}
    (ready : (Task.settlement payment s).isReady b = true) :
    (s.step b payment goOn).1.Timely (accepted + min delay Timer.longest) b.now
      (times ++ s.marksNext b.now) := by
  cases s with
  | starting =>
    have htimes : times = [] := h
    refine ⟨by rw [htimes]; rfl, ?_⟩
    show accepted + min delay Timer.longest ≤ b.now + min b.schedule.delay Timer.longest
    rw [hdelay]
    omega
  | waiting timer =>
    obtain ⟨htimes, hdue⟩ := h
    simp only [Settlement.step]
    split
    · rw [htimes]
      exact ⟨Nat.zero_le _, fun _ h => absurd h List.not_mem_nil⟩
    · rename_i hgo
      refine ⟨by rw [htimes]; rfl, Nat.le_trans hdue ?_⟩
      -- it goes on because its time has come: it is ready, or it was told to go on in time
      have hisDue : timer.isDue b.now = true := by
        cases habandoned : b.schedule.isAbandoned with
        | true =>
          simp only [habandoned, Bool.true_and, Bool.not_eq_true', Bool.not_eq_false,
            Bool.and_eq_true] at hgo
          exact hgo.2
        | false =>
          simpa [Task.isReady, Task.isFinished, Settlement.result?, Task.isInterrupted, habandoned,
            Task.timer?, Settlement.timer?, Task.awaitsSettlements] using ready
      exact of_decide_eq_true hisDue
  | marking =>
    obtain ⟨htimes, hdue⟩ := h
    have hnext : (times ++ Settlement.marking.marksNext b.now).length ≤ 1 ∧
        ∀ time ∈ times ++ Settlement.marking.marksNext b.now,
          accepted + min delay Timer.longest ≤ time := by
      rw [htimes]
      refine ⟨Nat.le_refl _, fun time htime => ?_⟩
      rw [List.mem_singleton.1 htime]
      exact hdue
    simp only [Settlement.step, Settlement.mark]
    split <;> exact hnext
  | reloading =>
    rw [show times ++ Settlement.reloading.marksNext b.now = times from List.append_nil _]
    simp only [Settlement.step, Settlement.reload]
    split <;> exact h
  | recording p =>
    rw [show times ++ (Settlement.recording p).marksNext b.now = times from List.append_nil _]
    simp only [Settlement.step, Settlement.recordPaid]
    split <;> exact h
  | finished outcome =>
    rw [show times ++ (Settlement.finished outcome).marksNext b.now = times from List.append_nil _]
    exact h

end Settlement

end Matchday

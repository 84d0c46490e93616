import Matchday.Proofs.Concurrent.Lives
import Matchday.Proofs.Settlement.Stages

/-!
The schedule once it is closed. It stays closed, no question is accepted any more, and no settlement is
added to those under way, while questions are still recorded. A task that ends the settling, by itself or
as the last part of closing the application, goes through the stages of `Shutdown`: when it waits the
schedule is closed, and when it is done no settlement is under way (`Machine.orderly_run`).
-/

namespace Matchday
set_option autoImplicit false

/-! ## Closed schedules -/

namespace Schedules
variable {s s' : Schedule} {asks : Option PaymentId} {begins runs runs' : Bool}

theorem isClosed_mono (h : Schedules s s' asks begins runs runs') (closed : s.isClosed = true) :
    s'.isClosed = true := by
  cases h with
  | rested same => rwa [same]
  | queried payment _ move =>
    rw [move, Schedule.queried]
    split <;> exact closed
  | settled move => rwa [move]
  | closed mode move => rw [move]; rfl

theorem isAbandoned_mono (h : Schedules s s' asks begins runs runs')
    (abandoned : s.isAbandoned = true) : s'.isAbandoned = true := by
  cases h with
  | rested same => rwa [same]
  | queried payment _ move =>
    rw [move, Schedule.queried]
    split <;> exact abandoned
  | settled move => rwa [move]
  | closed mode move =>
    rw [move, Schedule.close, abandoned]
    rfl

theorem decision_ne_accepted (closed : s.isClosed = true) (payment : PaymentId) :
    s.decision payment ≠ .accepted := by
  rw [Schedule.decision, closed]
  split
  · exact Decision.noConfusion
  · exact Decision.noConfusion

theorem inFlight_le (h : Schedules s s' asks begins runs runs') (closed : s.isClosed = true) :
    s'.inFlight ≤ s.inFlight := by
  cases h with
  | rested same => rw [same]
  | queried payment _ move =>
    rw [move, Schedule.inFlight_queried, decide_eq_false (decision_ne_accepted closed payment)]
    rfl
  | settled move =>
    rw [move]
    exact Nat.sub_le _ _
  | closed mode move => rw [move]; rfl

end Schedules

namespace Machine

variable {m : Machine} {payment : PaymentId}

section Act
variable {a : Action}

theorem isClosed_act (named : m.Named) (closed : m.backend.schedule.isClosed = true) :
    (m.act a).backend.schedule.isClosed = true := by
  obtain ⟨id, goOn, t, rfl, -, -, heq⟩ | calm := act_cases named a
  · rw [heq, carried_backend]
    exact (t.step_schedules m.backend goOn).isClosed_mono closed
  · obtain hs | ⟨way, hs⟩ := calm.schedule
    · rwa [hs]
    · rw [hs]
      rfl

theorem isAbandoned_act (named : m.Named) (abandoned : m.backend.schedule.isAbandoned = true) :
    (m.act a).backend.schedule.isAbandoned = true := by
  obtain ⟨id, goOn, t, rfl, -, -, heq⟩ | calm := act_cases named a
  · rw [heq, carried_backend]
    exact (t.step_schedules m.backend goOn).isAbandoned_mono abandoned
  · obtain hs | ⟨way, hs⟩ := calm.schedule
    · rwa [hs]
    · rw [hs, Schedule.close, abandoned]
      rfl

theorem inFlight_act_le (named : m.Named) (closed : m.backend.schedule.isClosed = true) :
    (m.act a).backend.schedule.inFlight ≤ m.backend.schedule.inFlight := by
  obtain ⟨id, goOn, t, rfl, -, -, heq⟩ | calm := act_cases named a
  · rw [heq, carried_backend]
    exact (t.step_schedules m.backend goOn).inFlight_le closed
  · exact Nat.le_of_eq calm.inFlight_eq

end Act

/-! ## Tasks that end the settling -/

end Machine

/-- How far a task has come with ending the settling, if it does: a task that ends nothing else, or one that
closes the application and has joined the workers. -/
def Task.shutdown? : Task → Option Shutdown
  | shutdown _ stage | closing _ (some _) (.settling stage) => some stage
  | closing _ (some _) .finished => some .finished
  | _ => none

/-- Whether a task waits for the end of the settling, or has seen it and not returned. -/
def Task.isShuttingDown : Task → Bool
  | shutdown _ .waiting | closing _ (some _) (.settling .waiting)
  | closing _ (some _) (.settling .finished) => true
  | _ => false

theorem Task.shutdown?_cancel (t : Task) : t.cancel.shutdown? = t.shutdown? := by
  cases t <;> rfl

/-- The step of a task that does not close the application, as far as it ends the settling. -/
theorem Task.shutdown?_step {b : Backend} {goOn : Bool} {t : Task} {stage : Shutdown}
    (h : (t.step b goOn).1.shutdown? = some stage) (ready : t.isReady b = true)
    (plain : t.isClosing = false) :
    (stage = .waiting ∧ (t.step b goOn).2.1.schedule.isClosed = true) ∨
      stage = .finished ∧ b.schedule.inFlight = 0 ∧ t.shutdown? = some .waiting := by
  cases t with
  | shutdown mode before =>
    injection h with h
    subst h
    cases before with
    | starting => exact .inl ⟨rfl, rfl⟩
    | waiting =>
      refine .inr ⟨rfl, ?_, rfl⟩
      simpa [isReady, isFinished, isInterrupted, timer?, awaitsSettlements] using ready
    | finished => cases ready
  | closing crew mode before => cases plain
  | mark event address recheckAfter answer => cases answer <;> cases h
  | observe location answer => cases answer <;> cases h
  | query payment answer => cases answer <;> cases h
  | _ => cases h

namespace Machine

variable {m : Machine}

/-- A task comes to wait for the end of the settling by closing the schedule, and to see it when no
settlement is under way. -/
theorem shutdown?_act {a : Action} {e : TaskId × Task} (h : e ∈ (m.act a).tasks) {stage : Shutdown}
    (hstage : e.2.shutdown? = some stage) :
    (∃ d ∈ m.tasks, d.2.shutdown? = some stage) ∨ stage = .starting ∨
    (stage = .waiting ∧ (m.act a).backend.schedule.isClosed = true) ∨
    (stage = .finished ∧ m.backend.schedule.inFlight = 0 ∧
      ∃ d ∈ m.tasks, d.2.shutdown? = some .waiting) := by
  obtain ⟨d, hd, -, htask⟩ | ⟨c, -, htask⟩ | ⟨payment, -, htask⟩ |
    ⟨goOn, t, -, hready, hopen, hact, htask⟩ | ⟨crew, mode, before, next, hready, hgoes, htask⟩ :=
    mem_act a h
  · refine .inl ⟨d, hd, ?_⟩
    obtain htask | htask := htask
    · rwa [← htask]
    · rwa [← Task.shutdown?_cancel, ← htask]
  · rw [htask] at hstage
    cases c with
    | shutdown mode =>
      injection hstage with hstage
      exact .inr (.inl hstage.symm)
    | close crew mode => cases mode <;> cases hstage
    | _ => cases hstage
  · rw [htask] at hstage
    cases hstage
  · rw [htask] at hstage
    refine .inr (.inr ?_)
    obtain ⟨rfl, hclosed⟩ | ⟨rfl, hrests, hbefore⟩ :=
      Task.shutdown?_step hstage (isReady_of_ready? hready) hopen
    · rw [hact, carried_backend]
      exact .inl ⟨rfl, hclosed⟩
    · exact .inr ⟨rfl, hrests, _, mem_of_ready? hready, hbefore⟩
  · rw [htask] at hstage
    have hmem := mem_of_ready? hready
    generalize (m.act a).backend.schedule = schedule at hgoes ⊢
    cases hgoes with
    | begun => cases mode <;> cases hstage
    | joined way settles =>
      rw [settles] at hstage
      injection hstage with hstage
      exact .inr (.inl hstage.symm)
    | left plain | skipped _ plain =>
      rw [plain] at hstage
      cases hstage
    | closed way settles =>
      rw [settles] at hstage
      injection hstage with hstage
      exact .inr (.inr (.inl ⟨hstage.symm, rfl⟩))
    | drained way settles rests =>
      rw [settles] at hstage hmem
      injection hstage with hstage
      exact .inr (.inr (.inr ⟨hstage.symm, rests, _, hmem, rfl⟩))
    | returned =>
      refine .inl ⟨_, hmem, ?_⟩
      cases mode with
      | none => cases hstage
      | some way => exact hstage

/-- While a task waits for the end of the settling the schedule is closed, and when it has seen it no
settlement is under way; settlements are dropped only if the schedule was abandoned. -/
structure Orderly (m : Machine) : Prop where
  closed : ∀ e ∈ m.tasks, ∀ stage, e.2.shutdown? = some stage → stage ≠ .starting →
    m.backend.schedule.isClosed = true
  ended : ∀ e ∈ m.tasks, e.2.shutdown? = some .finished → m.backend.schedule.inFlight = 0
  dropped : ∀ id payment, (id, .settlement payment (.finished .abandoned)) ∈ m.tasks →
    m.backend.schedule.isAbandoned = true

theorem Orderly.act (h : m.Orderly) (named : m.Named) (a : Action) : (m.act a).Orderly where
  closed := by
    intro e he stage hstage hne
    obtain ⟨d, hd, hbefore⟩ | rfl | ⟨-, hclosed⟩ | ⟨rfl, -, d, hd, hbefore⟩ :=
      shutdown?_act he hstage
    · exact isClosed_act named (h.closed d hd stage hbefore hne)
    · exact absurd rfl hne
    · exact hclosed
    · exact isClosed_act named (h.closed d hd .waiting hbefore Shutdown.noConfusion)
  ended := by
    intro e he hstage
    have hrests : m.backend.schedule.isClosed = true ∧ m.backend.schedule.inFlight = 0 := by
      obtain ⟨d, hd, hbefore⟩ | hno | ⟨hno, -⟩ | ⟨-, hrests, d, hd, hbefore⟩ :=
        shutdown?_act he hstage
      · exact ⟨h.closed d hd .finished hbefore Shutdown.noConfusion, h.ended d hd hbefore⟩
      · cases hno
      · cases hno
      · exact ⟨h.closed d hd .waiting hbefore Shutdown.noConfusion, hrests⟩
    have hle := inFlight_act_le (a := a) named hrests.1
    rw [hrests.2] at hle
    exact Nat.le_zero.1 hle
  dropped := by
    intro id payment hmem
    obtain ⟨other, goOn, t, rfl, hready, -, heq⟩ | calm := act_cases named a
    · rw [heq] at hmem ⊢
      rw [carried_backend]
      refine (t.step_schedules m.backend goOn).isAbandoned_mono ?_
      obtain ⟨before, rfl, -, hgoes⟩ | ⟨hold, -⟩ | ⟨hno, -⟩ := settlement_carried named hready hmem
      · generalize (m.carried other goOn (.settlement payment before)).backend = after at hgoes
        cases hgoes with
        | dropped timer abandoned => exact abandoned
        | stayed => cases isFinished_of_ready? hready
      · exact h.dropped id payment hold
      · cases hno
    · exact isAbandoned_act named (h.dropped id payment (calm.settlement_iff.1 hmem))

/-- What holds of every machine that was created and run, as far as settlements are concerned. -/
structure Sound (m : Machine) : Prop where
  named : m.Named
  counted : m.Counted
  orderly : m.Orderly

theorem Sound.act (h : m.Sound) (a : Action) : (m.act a).Sound :=
  ⟨h.named.act a, h.counted.act h.named a, h.orderly.act h.named a⟩

theorem Sound.run (h : m.Sound) (actions : List Action) : (m.run actions).Sound :=
  run_invariant (fun _ a hm => hm.act a) h actions

/-- If some settlement is under way, there is one that has not ended. -/
theorem Sound.exists_running (h : m.Sound) (busy : m.backend.schedule.inFlight ≠ 0) :
    ∃ id payment stage, (id, .settlement payment stage) ∈ m.tasks ∧ stage.result? = none := by
  rw [h.counted.running] at busy
  obtain ⟨⟨id, t⟩, hmem, hpos⟩ := exists_of_tally_pos (Nat.pos_of_ne_zero busy)
  cases t with
  | settlement payment stage =>
    cases stage with
    | finished outcome => cases hpos
    | _ => exact ⟨id, payment, _, hmem, rfl⟩
  | _ => cases hpos

end Machine

end Matchday

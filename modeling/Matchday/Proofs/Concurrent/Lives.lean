import Matchday.Proofs.Concurrent.History

/-!
What becomes of a task by an action, and where one comes from that is there after it. A task is there under
its name from the call, or the question, with which it begins; it changes only by its own steps, but that a
worker may be told to stop.

Main statements: `Machine.exists_mem_act` follows a task forward, `Machine.mem_act` backward.
-/

namespace Matchday
set_option autoImplicit false

/-- What the next step of a task that closes the application may make of it and of the schedule. -/
inductive Closing.Goes (m : Machine) (crew : Crew) (mode : Option ShutdownMode) :
    Closing → Closing → Schedule → Prop where
  | begun : Goes m crew mode .starting .joining m.backend.schedule
  | joined (way : ShutdownMode) (settles : mode = some way) (ended : m.allEnded crew = true) :
      Goes m crew mode .joining (.settling .starting) m.backend.schedule
  | left (plain : mode = none) (ended : m.allEnded crew = true) :
      Goes m crew mode .joining .finished m.backend.schedule
  | closed (way : ShutdownMode) (settles : mode = some way) :
      Goes m crew mode (.settling .starting) (.settling .waiting) (m.backend.schedule.close way)
  | drained (way : ShutdownMode) (settles : mode = some way)
      (rests : m.backend.schedule.inFlight = 0) :
      Goes m crew mode (.settling .waiting) (.settling .finished) m.backend.schedule
  | returned : Goes m crew mode (.settling .finished) .finished m.backend.schedule
  | skipped (stage : Shutdown) (plain : mode = none) :
      Goes m crew mode (.settling stage) .finished m.backend.schedule

namespace Machine

variable {m : Machine}

/-- The step of a task that closes the application. -/
theorem act_closing {id : TaskId} {crew : Crew} {mode : Option ShutdownMode} {stage : Closing}
    (ready : m.ready? id = some (.closing crew mode stage)) (goOn : Bool) :
    ∃ next schedule log told, stage.Goes m crew mode next schedule ∧
      m.act (.step id goOn) = m.closed id (.closing crew mode next) schedule log told := by
  have hact : m.act (.step id goOn) = m.stepClosing id crew mode stage := by
    show m.step id goOn = _
    rw [step, task?_of_ready? ready]
    exact if_pos (canStep_of_ready? ready)
  have hcan := canStep_of_ready? ready
  have hwaits := isReady_of_ready? ready
  rw [canStep, Bool.and_eq_true] at hcan
  rw [hact]
  cases stage with
  | starting => exact ⟨_, _, _, crew, .begun, rfl⟩
  | joining =>
    cases mode with
    | none => exact ⟨_, _, _, [], .left rfl hcan.2, by rw [closed, cancel_nil]; rfl⟩
    | some way => exact ⟨_, _, _, [], .joined way rfl hcan.2, by rw [closed, cancel_nil]; rfl⟩
  | finished => exact absurd (isFinished_of_ready? ready) (by simp [Task.isFinished])
  | settling stage =>
    cases stage with
    | finished => exact ⟨_, _, _, [], .returned, by rw [closed, cancel_nil]; rfl⟩
    | starting =>
      cases mode with
      | none => exact ⟨_, _, _, [], .skipped _ rfl, by rw [closed, cancel_nil]; rfl⟩
      | some way => exact ⟨_, _, _, [], .closed way rfl, by rw [closed, cancel_nil]; rfl⟩
    | waiting =>
      cases mode with
      | none => exact ⟨_, _, _, [], .skipped _ rfl, by rw [closed, cancel_nil]; rfl⟩
      | some way =>
        refine ⟨_, _, _, [], .drained way rfl ?_, by rw [closed, cancel_nil]; rfl⟩
        simpa [Task.isReady, Task.isFinished, Task.isInterrupted, Task.timer?,
          Task.awaitsSettlements] using hwaits

/-- What a step of the machine is: none, if the task is not ready, that of a task that does not close, or
that of one that closes. -/
theorem act_step (m : Machine) (id : TaskId) (goOn : Bool) :
    (m.ready? id = none ∧ m.act (.step id goOn) = m) ∨
    (∃ t, m.ready? id = some t ∧ t.isClosing = false ∧ m.act (.step id goOn) = m.carried id goOn t) ∨
    ∃ crew mode stage, m.ready? id = some (.closing crew mode stage) := by
  have becomes := act_becomes m (.step id goOn)
  generalize m.act (.step id goOn) = m' at becomes ⊢
  cases becomes with
  | idle hready => exact .inl ⟨hready, rfl⟩
  | carried hready hopen => exact .inr (.inl ⟨_, hready, hopen, rfl⟩)
  | closed hready => exact .inr (.inr ⟨_, _, _, hready⟩)

/-- The step of a task that is ready and does not close the application. -/
theorem act_of_ready? {id : TaskId} {t : Task} (ready : m.ready? id = some t)
    (open_ : t.isClosing = false) (goOn : Bool) : m.act (.step id goOn) = m.carried id goOn t := by
  obtain ⟨hno, -⟩ | ⟨t', hready, -, heq⟩ | ⟨crew, mode, stage, hready⟩ := act_step m id goOn
  · rw [ready] at hno
    cases hno
  · rw [ready] at hready
    injection hready with htask
    rw [heq, htask]
  · rw [ready] at hready
    injection hready with htask
    rw [htask] at open_
    cases open_

theorem now_act {a : Action} (timeless : ∀ milliseconds, a ≠ .wait milliseconds) :
    (m.act a).now = m.now := by
  cases a with
  | change c => cases c <;> rfl
  | call c => rfl
  | cancel crew => rfl
  | wait milliseconds => exact absurd rfl (timeless milliseconds)
  | step id goOn =>
    obtain ⟨-, heq⟩ | ⟨t, hready, -, heq⟩ | ⟨crew, mode, stage, hready⟩ := act_step m id goOn
    · rw [heq]
    · rw [heq, now_carried]
    · obtain ⟨next, schedule, log, told, -, heq⟩ := act_closing hready goOn
      rw [heq]
      rfl

/-- Where a task comes from that is there after an action: it was there before, or began by the action, or
is what the step of the task makes of it. -/
theorem mem_act (a : Action) {e : TaskId × Task} (h : e ∈ (m.act a).tasks) :
    (∃ d ∈ m.tasks, e.1 = d.1 ∧ (e.2 = d.2 ∨ e.2 = d.2.cancel)) ∨
    (∃ c, a = .call c ∧ e.2 = c.task m.now) ∨
    (∃ payment, m.backend.schedule.decision payment = .accepted ∧
      e.2 = .settlement payment .starting) ∨
    (∃ goOn t, a = .step e.1 goOn ∧ m.ready? e.1 = some t ∧ t.isClosing = false ∧
      m.act a = m.carried e.1 goOn t ∧ e.2 = (t.step m.backend goOn).1) ∨
    ∃ crew mode stage next, m.ready? e.1 = some (.closing crew mode stage) ∧
      stage.Goes m crew mode next (m.act a).backend.schedule ∧ e.2 = .closing crew mode next := by
  cases a with
  | change c | wait milliseconds => exact .inl ⟨e, h, rfl, .inl rfl⟩
  | call c =>
    obtain h | rfl := mem_spawn.1 h
    · exact .inl ⟨e, h, rfl, .inl rfl⟩
    · exact .inr (.inl ⟨c, rfl, rfl⟩)
  | cancel crew => exact .inl (mem_cancel h)
  | step id goOn =>
    obtain ⟨-, heq⟩ | ⟨t, hready, hopen, heq⟩ | ⟨crew, mode, stage, hready⟩ := act_step m id goOn
    · rw [heq] at h
      exact .inl ⟨e, h, rfl, .inl rfl⟩
    · rw [heq] at h
      obtain rfl | ⟨hold, -⟩ | ⟨payment, -, haccepted, rfl⟩ := mem_carried h
      · exact .inr (.inr (.inr (.inl ⟨goOn, t, rfl, hready, hopen, heq, rfl⟩)))
      · exact .inl ⟨e, hold, rfl, .inl rfl⟩
      · exact .inr (.inr (.inl ⟨payment, haccepted, rfl⟩))
    · obtain ⟨next, schedule, log, told, hgoes, heq⟩ := act_closing hready goOn
      rw [heq] at h
      obtain rfl | ⟨d, hd, -, hname, htask⟩ := mem_closed h
      · refine .inr (.inr (.inr (.inr ⟨crew, mode, stage, next, hready, ?_, rfl⟩)))
        rw [heq]
        exact hgoes
      · exact .inl ⟨d, hd, hname, htask⟩

theorem mem_cancel_or (crew : Crew) {id : TaskId} {t : Task} (h : (id, t) ∈ m.tasks) :
    (id, t) ∈ (m.cancel crew).tasks ∨ (id, t.cancel) ∈ (m.cancel crew).tasks := by
  have hmem := List.mem_map_of_mem (f := fun e : TaskId × Task =>
    if crew.any fun n => e.1 = .call n then (e.1, e.2.cancel) else e) h
  dsimp only at hmem
  split at hmem
  · exact .inr hmem
  · exact .inl hmem

/-- What becomes of a task by an action: it stays, but for being told to stop, or takes its step. -/
theorem exists_mem_act (named : m.Named) (a : Action) {id : TaskId} {t : Task}
    (h : (id, t) ∈ m.tasks) : ∃ t', (id, t') ∈ (m.act a).tasks ∧
      ((t' = t ∨ t' = t.cancel) ∨
      (∃ goOn, a = .step id goOn ∧ m.ready? id = some t ∧ t.isClosing = false ∧
        t' = (t.step m.backend goOn).1) ∨
      ∃ crew mode stage next, t = .closing crew mode stage ∧ m.ready? id = some t ∧
        stage.Goes m crew mode next (m.act a).backend.schedule ∧ t' = .closing crew mode next) := by
  have hsame : ∀ {other : TaskId} {s : Task}, m.ready? other = some s → other = id → s = t := by
    rintro other s hready rfl
    exact named.eq_of_mem (mem_of_ready? hready) h
  cases a with
  | change c | wait milliseconds => exact ⟨t, h, .inl (.inl rfl)⟩
  | call c => exact ⟨t, mem_spawn.2 (.inl h), .inl (.inl rfl)⟩
  | cancel crew =>
    obtain hmem | hmem := mem_cancel_or crew h
    · exact ⟨t, hmem, .inl (.inl rfl)⟩
    · exact ⟨t.cancel, hmem, .inl (.inr rfl)⟩
  | step other goOn =>
    obtain ⟨-, heq⟩ | ⟨s, hready, hopen, heq⟩ | ⟨crew, mode, stage, hready⟩ := act_step m other goOn
    · rw [heq]
      exact ⟨t, h, .inl (.inl rfl)⟩
    · rw [heq]
      by_cases hid : other = id
      · obtain rfl := hsame hready hid
        rw [hid] at hready ⊢
        exact ⟨_, mem_carried_self goOn hready, .inr (.inl ⟨goOn, rfl, hready, hopen, rfl⟩)⟩
      · exact ⟨t, mem_carried_of_ne h (Ne.symm hid), .inl (.inl rfl)⟩
    · obtain ⟨next, schedule, log, told, hgoes, heq⟩ := act_closing hready goOn
      rw [heq]
      by_cases hid : other = id
      · obtain rfl := hsame hready hid
        rw [hid] at hready ⊢
        refine ⟨.closing crew mode next, mem_put_self ?_, .inr (.inr ?_)⟩
        · rw [names_cancel]
          exact List.mem_map_of_mem (f := Prod.fst) h
        · exact ⟨crew, mode, stage, next, rfl, hready, hgoes, rfl⟩
      · obtain hmem | hmem := mem_cancel_or (m := { m with backend := { m.backend with schedule, log } })
          told h
        · exact ⟨t, mem_put_of_ne hmem (Ne.symm hid), .inl (.inl rfl)⟩
        · exact ⟨t.cancel, mem_put_of_ne hmem (Ne.symm hid), .inl (.inr rfl)⟩

end Machine

end Matchday

import Matchday.Proofs.Concurrent.Names
import Matchday.Proofs.Settlement.Schedule

/-!
What a turn does to a machine. An action that carries on a task exchanges this task, changes the
shared state as the task's step says, and may let a settlement begin; a task that closes only tells
workers to stop, closes the schedule and writes to the log.

Main statement: `Machine.act_becomes`, the complete list of what one action may make of a machine.
Everything that is proved of runs is proved by cases on it.
-/

namespace Matchday
set_option autoImplicit false

namespace Task

/-- Whether a task is that of a call that closes. -/
def isClosing : Task → Bool
  | closing _ _ _ => true
  | _ => false

/-- The payment that a task settles. -/
def settled? : Task → Option PaymentId
  | settlement payment _ => some payment
  | _ => none

variable (b : Backend) (goOn : Bool) (t : Task)

@[simp] theorem settled?_cancel : t.cancel.settled? = t.settled? := by
  cases t <;> rfl

@[simp] theorem settled?_step : (t.step b goOn).1.settled? = t.settled? := by
  cases t with
  | mark event address recheckAfter answer => cases answer <;> rfl
  | observe location answer => cases answer <;> rfl
  | query payment answer => cases answer <;> rfl
  | _ => rfl

@[simp] theorem asked?_step : (t.step b goOn).1.asked? = t.asked? := by
  cases t with
  | mark event address recheckAfter answer => cases answer <;> rfl
  | observe location answer => cases answer <;> rfl
  | query payment answer => cases answer <;> rfl
  | _ => rfl

theorem settled?_task (c : Call) (now : Nat) : (c.task now).settled? = none := by
  cases c <;> rfl

end Task

/-! ## What an action makes of a machine -/

namespace Machine

variable (m : Machine) (id : TaskId) (goOn : Bool) (t : Task)

/-- The task with a name, if it can take its next step. -/
def ready? : Option Task := (m.task? id).filter m.canStep

/-- The machine with a task a step further, and the shared state as this step leaves it. -/
def exchanged : Machine :=
  { m with backend := (t.step m.backend goOn).2.1 }.put id (t.step m.backend goOn).1

/-- The machine after a step of a task that does not close. -/
def carried : Machine :=
  if (t.step m.backend goOn).2.2 then (m.exchanged id goOn t).settle (t.step m.backend goOn).1
  else m.exchanged id goOn t

/-- The machine after a step of a task that closes: its workers told to stop or not, the schedule
moved and the log written. -/
def closed (schedule : Schedule) (log : List LogEntry) (crew : Crew) : Machine :=
  ({ m with backend := { m.backend with schedule, log } }.cancel crew).put id t

/-- What one action may make of a machine. -/
inductive Becomes : Action → Machine → Prop where
  | changed (c : Change) : Becomes (.change c) (m.modify (·.change c))
  | called (c : Call) : Becomes (.call c) (m.call c)
  | cancelled (crew : Crew) : Becomes (.cancel crew) (m.cancel crew)
  | waited (milliseconds : Nat) : Becomes (.wait milliseconds) (m.setTime (m.now + milliseconds))
  | idle {id : TaskId} {goOn : Bool} (h : m.ready? id = none) : Becomes (.step id goOn) m
  | carried {id : TaskId} {goOn : Bool} {t : Task} (h : m.ready? id = some t)
      (open_ : t.isClosing = false) : Becomes (.step id goOn) (m.carried id goOn t)
  | closed {id : TaskId} {goOn : Bool} {crew : Crew} {mode : Option ShutdownMode}
      {stage next : Closing} {schedule : Schedule} {log : List LogEntry} {told : Crew}
      (h : m.ready? id = some (.closing crew mode stage))
      (closes : schedule = m.backend.schedule ∨
        ∃ way, schedule = m.backend.schedule.close way) :
      Becomes (.step id goOn) (m.closed id (.closing crew mode next) schedule log told)

variable {m id goOn t}

theorem task?_of_ready? (h : m.ready? id = some t) : m.task? id = some t :=
  (Option.filter_eq_some_iff.1 h).1

theorem canStep_of_ready? (h : m.ready? id = some t) : m.canStep t = true :=
  (Option.filter_eq_some_iff.1 h).2

theorem mem_of_ready? (h : m.ready? id = some t) : (id, t) ∈ m.tasks :=
  mem_of_task? (task?_of_ready? h)

theorem isReady_of_ready? (h : m.ready? id = some t) : t.isReady m.backend = true := by
  have hstep := canStep_of_ready? h
  simp only [canStep, Bool.and_eq_true] at hstep
  exact hstep.1

theorem isFinished_of_ready? (h : m.ready? id = some t) : t.isFinished = false := by
  have hready := isReady_of_ready? h
  simp only [Task.isReady, Bool.and_eq_true, Bool.not_eq_true'] at hready
  exact hready.1

@[simp] theorem cancel_nil : m.cancel [] = m := by
  simp [cancel]

theorem stepTask_eq_carried (open_ : t.isClosing = false) :
    m.stepTask id goOn t = m.carried id goOn t := by
  cases t with
  | closing crew mode stage => exact absurd open_ (by simp [Task.isClosing])
  | _ => rfl

theorem stepClosing_eq_closed (m : Machine) (id : TaskId) (crew : Crew)
    (mode : Option ShutdownMode) {stage : Closing} (h : stage ≠ .finished) :
    ∃ schedule log told next,
      (schedule = m.backend.schedule ∨ ∃ way, schedule = m.backend.schedule.close way) ∧
      m.stepClosing id crew mode stage =
        m.closed id (.closing crew mode next) schedule log told := by
  cases stage with
  | starting => exact ⟨_, _, crew, .joining, .inl rfl, rfl⟩
  | joining => exact ⟨_, _, [], _, .inl rfl, by rw [closed, cancel_nil]; rfl⟩
  | finished => exact absurd rfl h
  | settling stage =>
    cases stage with
    | finished => exact ⟨_, _, [], .finished, .inl rfl, by rw [closed, cancel_nil]; rfl⟩
    | starting =>
      cases mode with
      | none => exact ⟨_, _, [], .finished, .inl rfl, by rw [closed, cancel_nil]; rfl⟩
      | some way =>
        exact ⟨_, _, [], .settling .waiting, .inr ⟨way, rfl⟩, by rw [closed, cancel_nil]; rfl⟩
    | waiting =>
      cases mode with
      | none => exact ⟨_, _, [], .finished, .inl rfl, by rw [closed, cancel_nil]; rfl⟩
      | some way =>
        exact ⟨_, _, [], .settling .finished, .inl rfl, by rw [closed, cancel_nil]; rfl⟩

theorem act_becomes (m : Machine) (a : Action) : m.Becomes a (m.act a) := by
  cases a with
  | change c => exact .changed c
  | call c => exact .called c
  | cancel crew => exact .cancelled crew
  | wait milliseconds => exact .waited milliseconds
  | step id goOn =>
    have hact : m.act (.step id goOn) = (m.ready? id).elim m (m.stepTask id goOn) := by
      simp only [act, step, ready?]
      cases m.task? id with
      | none => rfl
      | some t => by_cases hc : m.canStep t = true <;> simp [Option.filter, hc]
    rw [hact]
    cases h : m.ready? id with
    | none => exact .idle h
    | some t =>
      by_cases hc : t.isClosing = true
      · cases t with
        | closing crew mode stage =>
          have hne : stage ≠ .finished := by
            intro heq
            have hfin := isFinished_of_ready? h
            rw [heq] at hfin
            exact absurd hfin (by simp [Task.isFinished])
          obtain ⟨schedule, log, told, next, closes, heq⟩ :=
            stepClosing_eq_closed m id crew mode hne
          show m.Becomes _ (m.stepClosing id crew mode stage)
          rw [heq]
          exact .closed h closes
        | _ => exact absurd hc (by simp [Task.isClosing])
      · rw [Bool.not_eq_true] at hc
        show m.Becomes _ (m.stepTask id goOn t)
        rw [stepTask_eq_carried hc]
        exact .carried h hc

/-! ## Carrying on -/

@[simp] theorem names_exchanged : (m.exchanged id goOn t).names = m.names :=
  names_put _

/-- A step exchanges the task, or exchanges it and lets a settlement begin that was asked for. -/
theorem carried_cases (m : Machine) (id : TaskId) (goOn : Bool) (t : Task) :
    ((t.step m.backend goOn).2.2 = false ∧ m.carried id goOn t = m.exchanged id goOn t) ∨
    ∃ payment, (t.step m.backend goOn).2.2 = true ∧ t.asks? = some payment ∧
      m.backend.schedule.decision payment = .accepted ∧
      (t.step m.backend goOn).2.1.schedule = m.backend.schedule.queried payment ∧
      m.carried id goOn t = (m.exchanged id goOn t).spawn (.settlement payment)
        (.settlement payment .starting) := by
  by_cases h : (t.step m.backend goOn).2.2 = true
  · obtain ⟨payment, hasks, haccepted, hqueried⟩ := (t.step_schedules m.backend goOn).of_begins h
    refine .inr ⟨payment, h, hasks, haccepted, hqueried, ?_⟩
    simp only [carried, h, if_true, settle, Task.asked?_step, Task.asked?_of_asks? hasks]
  · rw [Bool.not_eq_true] at h
    refine .inl ⟨h, ?_⟩
    simp only [carried, h, Bool.false_eq_true, if_false]

@[simp] theorem carried_backend :
    (m.carried id goOn t).backend = (t.step m.backend goOn).2.1 := by
  obtain ⟨-, h⟩ | ⟨payment, -, -, -, -, h⟩ := carried_cases m id goOn t <;> rw [h] <;> rfl

theorem now_carried : (m.carried id goOn t).now = m.now := by
  obtain ⟨events, payments, geocoders, queue, schedule, log, hfoot⟩ :=
    t.step_footprint m.backend goOn
  show (m.carried id goOn t).backend.now = m.backend.now
  rw [carried_backend, hfoot]

theorem mem_carried {e : TaskId × Task} (h : e ∈ (m.carried id goOn t).tasks) :
    e = (id, (t.step m.backend goOn).1) ∨ (e ∈ m.tasks ∧ e.1 ≠ id) ∨
      ∃ payment, t.asks? = some payment ∧ m.backend.schedule.decision payment = .accepted ∧
        e = (.settlement payment, .settlement payment .starting) := by
  obtain ⟨-, heq⟩ | ⟨payment, -, hasks, haccepted, -, heq⟩ := carried_cases m id goOn t
  · rw [heq] at h
    exact (mem_put h).imp_right .inl
  · rw [heq, mem_spawn] at h
    obtain h | h := h
    · exact (mem_put h).imp_right .inl
    · exact .inr (.inr ⟨payment, hasks, haccepted, h⟩)

theorem mem_carried_self (goOn : Bool) (h : m.ready? id = some t) :
    (id, (t.step m.backend goOn).1) ∈ (m.carried id goOn t).tasks := by
  have hname : id ∈ m.names := List.mem_map_of_mem (mem_of_ready? h)
  obtain ⟨-, heq⟩ | ⟨payment, -, -, -, -, heq⟩ := carried_cases m id goOn t
  · rw [heq]
    exact mem_put_self hname
  · rw [heq]
    exact mem_spawn.2 (.inl (mem_put_self hname))

theorem mem_carried_of_ne {e : TaskId × Task} (h : e ∈ m.tasks) (hne : e.1 ≠ id) :
    e ∈ (m.carried id goOn t).tasks := by
  obtain ⟨-, heq⟩ | ⟨payment, -, -, -, -, heq⟩ := carried_cases m id goOn t
  · rw [heq]
    exact mem_put_of_ne h hne
  · rw [heq]
    exact mem_spawn.2 (.inl (mem_put_of_ne h hne))

/-- A tally changes by the share of the task that was carried on. -/
theorem tally_exchanged {f : Task → Nat} (goOn : Bool) (hn : m.names.Nodup)
    (h : m.task? id = some t) :
    (m.exchanged id goOn t).tally f + f t = m.tally f + f (t.step m.backend goOn).1 :=
  tally_put hn h _

/-- So does one in which a settlement that begins counts nothing. -/
theorem tally_carried {f : Task → Nat} (goOn : Bool) (hn : m.names.Nodup)
    (h : m.task? id = some t) (hf : ∀ payment, f (.settlement payment .starting) = 0) :
    (m.carried id goOn t).tally f + f t = m.tally f + f (t.step m.backend goOn).1 := by
  have hexchanged := tally_exchanged (f := f) goOn hn h
  obtain ⟨-, heq⟩ | ⟨payment, -, -, -, -, heq⟩ := carried_cases m id goOn t
  · rw [heq]
    exact hexchanged
  · rw [heq, tally_spawn, hf payment]
    exact hexchanged

/-! ## Closing -/

theorem mem_closed {schedule : Schedule} {log : List LogEntry} {told : Crew} {e : TaskId × Task}
    (h : e ∈ (m.closed id t schedule log told).tasks) :
    e = (id, t) ∨ ∃ d ∈ m.tasks, e.1 ≠ id ∧ e.1 = d.1 ∧ (e.2 = d.2 ∨ e.2 = d.2.cancel) := by
  obtain h | ⟨h, hne⟩ := mem_put h
  · exact .inl h
  · obtain ⟨d, hd, hname, htask⟩ := mem_cancel h
    exact .inr ⟨d, hd, hne, hname, htask⟩

theorem mem_closed_of_ne {other : TaskId} {task : Task} (h : (other, task) ∈ m.tasks)
    (hne : other ≠ id) (same : task.cancel = task) {schedule : Schedule} {log : List LogEntry}
    {told : Crew} : (other, task) ∈ (m.closed id t schedule log told).tasks :=
  mem_put_of_ne (mem_cancel_of_eq h same told) hne

@[simp] theorem names_closed {schedule : Schedule} {log : List LogEntry} {told : Crew} :
    (m.closed id t schedule log told).names = m.names := by
  rw [closed, names_put, names_cancel]
  rfl

/-- A tally in which closing counts nothing, nor being told to stop, is left alone by it. -/
theorem tally_closed {f : Task → Nat} {crew : Crew} {mode : Option ShutdownMode}
    {stage next : Closing} {schedule : Schedule} {log : List LogEntry} {told : Crew}
    (hn : m.names.Nodup) (h : m.task? id = some (.closing crew mode stage))
    (hcancel : ∀ t : Task, f t.cancel = f t)
    (hclosing : ∀ crew mode stage, f (.closing crew mode stage) = 0) :
    (m.closed id (.closing crew mode next) schedule log told).tally f = m.tally f := by
  have hn' : (m.cancel told).names.Nodup := by rwa [names_cancel]
  have htask : (m.cancel told).task? id = some (.closing crew mode stage) := by
    refine task?_of_mem hn' (List.mem_map.2 ⟨_, mem_of_task? h, ?_⟩)
    split <;> rfl
  have hput := tally_put (f := f) hn' htask (.closing crew mode next)
  rw [hclosing, hclosing, tally_cancel hcancel] at hput
  exact hput

end Machine

end Matchday

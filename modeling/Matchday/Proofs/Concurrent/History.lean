import Matchday.Proofs.Concurrent.Turn
import Matchday.Proofs.Wire.Identifiers
import Mathlib.Data.List.Induction
import Mathlib.Data.List.Nodup

/-!
Runs and what they leave behind. A history notes something at each action, by the machine that the
action finds; it grows at its end while the run does.

Main statement: on every machine that was created and run, each task has a name of its own, and a
settlement is named for a payment that was asked about (`Machine.named_run`).
-/

namespace Matchday.Machine
set_option autoImplicit false

variable {m : Machine} {actions : List Action}

/-- What is noted along a run, if each action notes something. -/
def trace {α : Type} (note : Machine → Action → List α) (m : Machine) : List Action → List α
  | [] => []
  | a :: rest => note m a ++ trace note (m.act a) rest

/-- Whether each action of a run is as wanted, by the machine that it finds. -/
def always (wanted : Machine → Action → Bool) (m : Machine) : List Action → Bool
  | [] => true
  | a :: rest => wanted m a && (m.act a).always wanted rest

theorem run_append (m : Machine) (earlier later : List Action) :
    m.run (earlier ++ later) = (m.run earlier).run later :=
  List.foldl_append

theorem run_concat (m : Machine) (actions : List Action) (a : Action) :
    m.run (actions ++ [a]) = (m.run actions).act a :=
  m.run_append actions [a]

theorem trace_append {α : Type} (note : Machine → Action → List α) (m : Machine)
    (earlier later : List Action) :
    m.trace note (earlier ++ later) = m.trace note earlier ++ (m.run earlier).trace note later := by
  induction earlier generalizing m with
  | nil => rfl
  | cons first rest ih =>
    rw [List.cons_append, trace, trace, ih, List.append_assoc]
    rfl

theorem trace_concat {α : Type} (note : Machine → Action → List α) (m : Machine)
    (actions : List Action) (a : Action) :
    m.trace note (actions ++ [a]) = m.trace note actions ++ note (m.run actions) a := by
  rw [trace_append, trace, trace, List.append_nil]

theorem forall_mem_trace {α : Type} {note : Machine → Action → List α} {P : α → Prop}
    (h : ∀ m a, ∀ x ∈ note m a, P x) (m : Machine) (actions : List Action) :
    ∀ x ∈ m.trace note actions, P x := by
  induction actions generalizing m with
  | nil => exact fun x hx => absurd hx List.not_mem_nil
  | cons a rest ih =>
    intro x hx
    obtain hx | hx := List.mem_append.1 hx
    · exact h m a x hx
    · exact ih (m.act a) x hx

theorem always_append (wanted : Machine → Action → Bool) (m : Machine) (earlier later : List Action) :
    m.always wanted (earlier ++ later) =
      (m.always wanted earlier && (m.run earlier).always wanted later) := by
  induction earlier generalizing m with
  | nil => rfl
  | cons a rest ih =>
    rw [List.cons_append, always, always, ih, Bool.and_assoc]
    rfl

theorem always_concat (wanted : Machine → Action → Bool) (m : Machine) (actions : List Action)
    (a : Action) : m.always wanted (actions ++ [a]) =
      (m.always wanted actions && wanted (m.run actions) a) := by
  rw [always_append]
  exact congrArg _ (Bool.and_true _)

/-- What every action preserves, every run does. -/
theorem run_invariant {I : Machine → Prop} (step : ∀ m a, I m → I (m.act a)) (h : I m)
    (actions : List Action) : I (m.run actions) := by
  induction actions using List.reverseRecOn with
  | nil => exact h
  | append_singleton actions a ih =>
    rw [run_concat]
    exact step _ _ ih

/-! ## Names -/

/-- Each task has a name of its own: a call's is the number of a call that was made, a settlement's
is a payment that was asked about. -/
structure Named (m : Machine) : Prop where
  nodup : m.names.Nodup
  call_lt : ∀ n, .call n ∈ m.names → n < m.calls
  asked : ∀ payment, .settlement payment ∈ m.names → payment ∈ m.backend.schedule.scheduled
  call_kind : ∀ n t, (.call n, t) ∈ m.tasks → t.settled? = none
  settlement_kind : ∀ payment t, (.settlement payment, t) ∈ m.tasks → t.settled? = some payment

/-- A settlement has the name of its payment. -/
theorem Named.eq_settlement (h : m.Named) {id : TaskId} {t : Task} {payment : PaymentId}
    (mem : (id, t) ∈ m.tasks) (settles : t.settled? = some payment) : id = .settlement payment := by
  cases id with
  | call n =>
    rw [h.call_kind n t mem] at settles
    cases settles
  | settlement other =>
    rw [h.settlement_kind other t mem] at settles
    injection settles with settles
    rw [settles]

/-- Two tasks of one name are one. -/
theorem Named.eq_of_mem (h : m.Named) {id : TaskId} {t t' : Task} (mem : (id, t) ∈ m.tasks)
    (mem' : (id, t') ∈ m.tasks) : t = t' := by
  have heq := (task?_of_mem h.nodup mem).symm.trans (task?_of_mem h.nodup mem')
  injection heq

theorem Named.ready?_of_canStep (h : m.Named) {id : TaskId} {t : Task} (mem : (id, t) ∈ m.tasks)
    (can : m.canStep t = true) : m.ready? id = some t := by
  rw [ready?, task?_of_mem h.nodup mem]
  exact if_pos can

theorem named_create (b : Backend) : (create b).Named where
  nodup := List.nodup_nil
  call_lt := fun _ h => absurd h List.not_mem_nil
  asked := fun _ h => absurd h List.not_mem_nil
  call_kind := fun _ _ h => absurd h List.not_mem_nil
  settlement_kind := fun _ _ h => absurd h List.not_mem_nil

/-- Exchanging tasks for others of the same kind, under their names, keeps names in order, whatever
becomes of the shared state, if no question is forgotten. -/
theorem Named.exchange {m' : Machine} (h : m.Named) (names : m'.names = m.names)
    (calls : m'.calls = m.calls)
    (asked : m.backend.schedule.scheduled <+: m'.backend.schedule.scheduled)
    (tasks : ∀ e ∈ m'.tasks, ∃ d ∈ m.tasks, e.1 = d.1 ∧ e.2.settled? = d.2.settled?) :
    m'.Named where
  nodup := by rw [names]; exact h.nodup
  call_lt := by rw [names, calls]; exact h.call_lt
  asked := by
    rw [names]
    exact fun payment hp => asked.subset (h.asked payment hp)
  call_kind := by
    intro n t ht
    obtain ⟨⟨_, s⟩, hs, rfl, hkind⟩ := tasks _ ht
    exact hkind.trans (h.call_kind n s hs)
  settlement_kind := by
    intro payment t ht
    obtain ⟨⟨_, s⟩, hs, rfl, hkind⟩ := tasks _ ht
    exact hkind.trans (h.settlement_kind payment s hs)

theorem Named.call (h : m.Named) (c : Call) : (m.call c).Named where
  nodup := by
    rw [names_call, List.nodup_append]
    refine ⟨h.nodup, List.nodup_singleton _, ?_⟩
    intro id hid other hother heq
    rw [List.mem_singleton.1 hother] at heq
    rw [heq] at hid
    exact absurd (h.call_lt _ hid) (Nat.lt_irrefl _)
  call_lt := by
    intro n hn
    rw [names_call, List.mem_append] at hn
    obtain hn | hn := hn
    · exact Nat.lt_succ_of_lt (h.call_lt n hn)
    · rw [List.mem_singleton] at hn
      injection hn with hn
      rw [hn]
      exact Nat.lt_succ_self _
  asked := by
    intro payment hp
    rw [names_call, List.mem_append] at hp
    obtain hp | hp := hp
    · exact h.asked payment hp
    · exact absurd (List.mem_singleton.1 hp) (by simp)
  call_kind := by
    intro n t ht
    obtain ht | ht := mem_spawn.1 ht
    · exact h.call_kind n t ht
    · injection ht with _ ht
      rw [ht, Task.settled?_task]
  settlement_kind := by
    intro payment t ht
    obtain ht | ht := mem_spawn.1 ht
    · exact h.settlement_kind payment t ht
    · exact absurd (congrArg Prod.fst ht) (by simp)

theorem Named.spawn (h : m.Named) {payment : PaymentId}
    (fresh : .settlement payment ∉ m.names)
    (asked : payment ∈ m.backend.schedule.scheduled) :
    (m.spawn (.settlement payment) (.settlement payment .starting)).Named where
  nodup := by
    rw [names_spawn, List.nodup_append]
    refine ⟨h.nodup, List.nodup_singleton _, ?_⟩
    intro id hid other hother heq
    rw [List.mem_singleton.1 hother] at heq
    exact fresh (heq ▸ hid)
  call_lt := by
    intro n hn
    rw [names_spawn, List.mem_append] at hn
    obtain hn | hn := hn
    · exact h.call_lt n hn
    · exact absurd (List.mem_singleton.1 hn) (by simp)
  asked := by
    intro other hp
    rw [names_spawn, List.mem_append] at hp
    obtain hp | hp := hp
    · exact h.asked other hp
    · injection List.mem_singleton.1 hp with hp
      rw [hp]
      exact asked
  call_kind := by
    intro n t ht
    obtain ht | ht := mem_spawn.1 ht
    · exact h.call_kind n t ht
    · exact absurd (congrArg Prod.fst ht) (by simp)
  settlement_kind := by
    intro other t ht
    obtain ht | ht := mem_spawn.1 ht
    · exact h.settlement_kind other t ht
    · injection ht with hid ht
      injection hid with hid
      rw [ht, hid]
      rfl

theorem Named.act (h : m.Named) (a : Action) : (m.act a).Named := by
  have becomes := act_becomes m a
  generalize m.act a = m' at becomes ⊢
  cases becomes with
  | changed c =>
    have hschedule : (m.backend.change c).schedule = m.backend.schedule := by
      cases c <;> rfl
    refine h.exchange rfl rfl ⟨[], ?_⟩ fun e he => ⟨e, he, rfl, rfl⟩
    show _ = (m.backend.change c).schedule.scheduled
    rw [hschedule, List.append_nil]
  | called c => exact h.call c
  | waited milliseconds => exact h.exchange rfl rfl List.prefix_rfl fun e he => ⟨e, he, rfl, rfl⟩
  | idle _ => exact h
  | cancelled crew =>
    refine h.exchange (names_cancel crew) rfl List.prefix_rfl fun e he => ?_
    obtain ⟨d, hd, hname, htask⟩ := mem_cancel he
    refine ⟨d, hd, hname, ?_⟩
    obtain htask | htask := htask <;> simp [htask]
  | @carried id goOn t hready _ =>
    have hmem := mem_of_ready? hready
    have hmoves := t.step_schedules m.backend goOn
    have hexchanged : (m.exchanged id goOn t).Named := by
      refine h.exchange names_exchanged rfl hmoves.scheduled_prefix fun e he => ?_
      obtain rfl | ⟨he, -⟩ := mem_put he
      · exact ⟨(id, t), hmem, rfl, Task.settled?_step m.backend goOn t⟩
      · exact ⟨e, he, rfl, rfl⟩
    obtain ⟨-, heq⟩ | ⟨payment, -, -, haccepted, hqueried, heq⟩ := carried_cases m id goOn t
    · rw [heq]
      exact hexchanged
    · rw [heq]
      have hnew : payment ∉ m.backend.schedule.scheduled := Schedule.not_mem_of_accepted haccepted
      refine hexchanged.spawn ?_ ?_
      · rw [names_exchanged]
        exact fun hname => hnew (h.asked payment hname)
      · show payment ∈ (t.step m.backend goOn).2.1.schedule.scheduled
        rw [hqueried]
        exact Schedule.mem_scheduled_queried _ _
  | @closed id goOn crew mode stage next schedule log told hready closes =>
    have hscheduled : schedule.scheduled = m.backend.schedule.scheduled := by
      obtain rfl | ⟨way, rfl⟩ := closes <;> rfl
    refine h.exchange names_closed rfl ⟨[], by rw [List.append_nil, ← hscheduled]; rfl⟩ fun e he => ?_
    obtain rfl | ⟨d, hd, -, hname, htask⟩ := mem_closed he
    · exact ⟨_, mem_of_ready? hready, rfl, rfl⟩
    · refine ⟨d, hd, hname, ?_⟩
      obtain htask | htask := htask <;> simp [htask]

/-- On every machine that was created and run, each task has a name of its own. -/
theorem named_run (b : Backend) (actions : List Action) : ((create b).run actions).Named :=
  run_invariant (I := Named) (fun _ a h => h.act a) (named_create b) actions

/-- A task that is done stays as it is while others go on. -/
theorem Named.mem_carried_of_isFinished (named : m.Named) {id : TaskId} {goOn : Bool} {t : Task}
    (ready : m.ready? id = some t) {e : TaskId × Task} (mem : e ∈ m.tasks)
    (finished : e.2.isFinished = true) : e ∈ (m.carried id goOn t).tasks := by
  refine mem_carried_of_ne mem fun hid => ?_
  have hsame := task?_of_mem named.nodup mem
  rw [hid, task?_of_ready? ready] at hsame
  injection hsame with htask
  rw [← htask, isFinished_of_ready? ready] at finished
  cases finished

/-! ## Actions that carry on no task -/

/-- Whether a task stays as it is while no step carries it on: workers may be told to stop, and tasks
that close have steps of their own. -/
def isSteady : Task → Bool
  | .worker _ | .closing _ _ _ => false
  | _ => true

/-- What every action does that carries on no task, or one that closes: time may pass, a call may be
made and the schedule be closed; steady tasks stay. -/
structure Calm (m m' : Machine) (a : Action) : Prop where
  unready : ∀ id goOn, a = .step id goOn → ∀ t, m.ready? id = some t → t.isClosing = true
  now_le : m.now ≤ m'.now
  events : m'.backend.events = m.backend.events ∨
    ∃ c, a = .change c ∧ m'.backend.events = (m.backend.change c).events
  payments : m'.backend.payments = m.backend.payments ∨
    ∃ c, a = .change c ∧ m'.backend.payments = (m.backend.change c).payments
  queue : m'.backend.queue = m.backend.queue
  schedule : m'.backend.schedule = m.backend.schedule ∨
    ∃ way, m'.backend.schedule = m.backend.schedule.close way
  tally : ∀ f : Task → Nat, (∀ t : Task, f t.cancel = f t) →
    (∀ crew mode stage, f (.closing crew mode stage) = 0) → (∀ (c : Call) now, f (c.task now) = 0) →
      m'.tally f = m.tally f
  old : ∀ e ∈ m'.tasks, isSteady e.2 = true → e ∈ m.tasks ∨
    ∃ c, a = .call c ∧ e.2 = c.task m.now
  stays : ∀ e ∈ m.tasks, isSteady e.2 = true → e ∈ m'.tasks

section Calm
variable {m' : Machine} {a : Action}

theorem Calm.ready?_cases {id : TaskId} {goOn : Bool} (h : m.Calm m' (.step id goOn)) :
    m.ready? id = none ∨ ∃ crew mode stage, m.ready? id = some (.closing crew mode stage) := by
  cases hready : m.ready? id with
  | none => exact .inl rfl
  | some t =>
    have hclosing := h.unready id goOn rfl t hready
    cases t with
    | closing crew mode stage => exact .inr ⟨crew, mode, stage, rfl⟩
    | _ => exact absurd hclosing (by simp [Task.isClosing])

theorem Calm.scheduled_eq (h : m.Calm m' a) :
    m'.backend.schedule.scheduled = m.backend.schedule.scheduled := by
  obtain hs | ⟨way, hs⟩ := h.schedule
  · rw [hs]
  · rw [hs]
    rfl

theorem Calm.delay_eq (h : m.Calm m' a) : m'.backend.schedule.delay = m.backend.schedule.delay := by
  obtain hs | ⟨way, hs⟩ := h.schedule
  · rw [hs]
  · rw [hs]
    rfl

theorem Calm.inFlight_eq (h : m.Calm m' a) :
    m'.backend.schedule.inFlight = m.backend.schedule.inFlight := by
  obtain hs | ⟨way, hs⟩ := h.schedule
  · rw [hs]
  · rw [hs]
    rfl

end Calm

theorem cancel_eq_of_isSteady {t : Task} (h : isSteady t = true) : t.cancel = t := by
  cases t with
  | worker w => exact absurd h (by simp [isSteady])
  | _ => rfl

theorem eq_of_cancel {t d : Task} (h : t = d ∨ t = d.cancel) (steady : isSteady t = true) :
    t = d := by
  obtain h | h := h
  · exact h
  · cases d with
    | worker w =>
      rw [h] at steady
      exact absurd steady (by simp [isSteady, Task.cancel])
    | _ => exact h

/-- Every action carries on a task that does not close, or is calm. -/
theorem act_cases (named : m.Named) (a : Action) :
    (∃ id goOn t, a = .step id goOn ∧ m.ready? id = some t ∧ t.isClosing = false ∧
      m.act a = m.carried id goOn t) ∨ m.Calm (m.act a) a := by
  have becomes := act_becomes m a
  generalize m.act a = m' at becomes ⊢
  cases becomes with
  | @carried id goOn t hready hopen => exact .inl ⟨id, goOn, t, rfl, hready, hopen, rfl⟩
  | changed c =>
    have hschedule : (m.backend.change c).schedule = m.backend.schedule := by cases c <;> rfl
    have hnow : (m.backend.change c).now = m.backend.now := by cases c <;> rfl
    exact .inr {
      unready := fun _ _ h => by cases h
      now_le := Nat.le_of_eq hnow.symm
      events := .inr ⟨c, rfl, rfl⟩
      payments := .inr ⟨c, rfl, rfl⟩
      queue := by cases c <;> rfl
      schedule := .inl hschedule
      tally := fun _ _ _ _ => rfl
      old := fun _ he _ => .inl he
      stays := fun _ he _ => he }
  | called c =>
    exact .inr {
      unready := fun _ _ h => by cases h
      now_le := Nat.le_refl _
      events := .inl rfl
      payments := .inl rfl
      queue := rfl
      schedule := .inl rfl
      tally := fun f _ _ hf => by rw [tally_call, hf, Nat.add_zero]
      old := fun e he _ => (mem_spawn.1 he).imp_right fun heq => ⟨c, rfl, by rw [heq]⟩
      stays := fun e he _ => mem_spawn.2 (.inl he) }
  | waited milliseconds =>
    exact .inr {
      unready := fun _ _ h => by cases h
      now_le := Nat.le_add_right _ _
      events := .inl rfl
      payments := .inl rfl
      queue := rfl
      schedule := .inl rfl
      tally := fun _ _ _ _ => rfl
      old := fun _ he _ => .inl he
      stays := fun _ he _ => he }
  | @idle id goOn hready =>
    exact .inr {
      unready := by
        intro other _ heq t ht
        injection heq with hid
        rw [← hid, hready] at ht
        cases ht
      now_le := Nat.le_refl _
      events := .inl rfl
      payments := .inl rfl
      queue := rfl
      schedule := .inl rfl
      tally := fun _ _ _ _ => rfl
      old := fun _ he _ => .inl he
      stays := fun _ he _ => he }
  | cancelled crew =>
    exact .inr {
      unready := fun _ _ h => by cases h
      now_le := Nat.le_refl _
      events := .inl rfl
      payments := .inl rfl
      queue := rfl
      schedule := .inl rfl
      tally := fun f hf _ _ => tally_cancel hf crew
      old := by
        intro e he hsteady
        obtain ⟨d, hd, hname, htask⟩ := mem_cancel he
        have heq : e = d := Prod.ext hname (eq_of_cancel htask hsteady)
        exact .inl (heq ▸ hd)
      stays := fun e he hsteady => mem_cancel_of_eq he (cancel_eq_of_isSteady hsteady) crew }
  | @closed id goOn crew mode stage next schedule log told hready hcloses =>
    exact .inr {
      unready := by
        intro other _ heq t ht
        injection heq with hid
        rw [← hid, hready] at ht
        injection ht with ht
        rw [← ht]
        rfl
      now_le := Nat.le_refl _
      events := .inl rfl
      payments := .inl rfl
      queue := rfl
      schedule := hcloses
      tally := fun f hcancel hclosing _ =>
        tally_closed named.nodup (task?_of_ready? hready) hcancel hclosing
      old := by
        intro e he hsteady
        obtain heq | ⟨d, hd, -, hname, htask⟩ := mem_closed he
        · rw [heq] at hsteady
          exact absurd hsteady (by simp [isSteady])
        · have heq : e = d := Prod.ext hname (eq_of_cancel htask hsteady)
          exact .inl (heq ▸ hd)
      stays := by
        intro e he hsteady
        refine mem_closed_of_ne he (fun hid => ?_) (cancel_eq_of_isSteady hsteady)
        have hsame := task?_of_mem named.nodup he
        rw [hid, task?_of_ready? hready] at hsame
        injection hsame with htask
        rw [← htask] at hsteady
        exact absurd hsteady (by simp [isSteady]) }

end Matchday.Machine

/-! ## Small states -/

namespace Matchday

/-- The beginning of a calendar. -/
def Instant.newYear : Instant := .midnight ⟨2024, 1, 1, by decide⟩

/-- An event without its point on the map, in which nobody takes part. -/
def StoredEvent.small : StoredEvent := .create ⟨.repeated 1, "Stadium", none, none, .newYear⟩

/-- A state with some events and no payments, in which the first geocoder has some answers. -/
def Backend.small (events : EventStore) (answers : List Answer) (delay : Nat) : Backend :=
  .create .newYear events .empty ⟨.scripted "primary" answers, .scripted "secondary" []⟩ delay

end Matchday

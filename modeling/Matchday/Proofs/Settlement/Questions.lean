import Matchday.Proofs.Concurrent.History
import Matchday.Proofs.Settlement.Timely

/-!
Which payments are recorded, and by whom. The schedule holds the payments that it was ever asked about,
each once, in the order of the first questions (`Machine.scheduled_run`). It was asked about a payment
by a call that asks without looking, or by one that loaded the status of this payment while it was
pending (`Machine.sourced_run`).
-/

namespace Matchday.Machine
set_option autoImplicit false

variable {m : Machine} {payment : PaymentId}

/-- The payment that the schedule is asked about. -/
def asked (m : Machine) : Action → List PaymentId
  | .step id _ => ((m.ready? id).bind Task.asks?).toList
  | _ => []

/-- The call that loads the status of a payment while it is pending. -/
def pendingLoads (payment : PaymentId) (m : Machine) : Action → List TaskId
  | .step id _ =>
    match m.ready? id with
    | some (.status other .starting) =>
      if other = payment ∧ m.backend.payments.status? payment = some .pending then [id] else []
    | _ => []
  | _ => []

section Calm
variable {m' : Machine} {a : Action}

theorem asked_of_calm (h : m.Calm m' a) : m.asked a = [] := by
  cases a with
  | step id goOn =>
    obtain hready | ⟨crew, mode, stage, hready⟩ := h.ready?_cases <;> rw [asked, hready] <;> rfl
  | _ => rfl

theorem pendingLoads_of_calm (h : m.Calm m' a) : m.pendingLoads payment a = [] := by
  cases a with
  | step id goOn =>
    obtain hready | ⟨crew, mode, stage, hready⟩ := h.ready?_cases <;> rw [pendingLoads, hready]
  | _ => rfl

end Calm

/-! ## Recorded payments -/

theorem eraseDups_concat (payments : List PaymentId) (payment : PaymentId) :
    (payments ++ [payment]).eraseDups =
      if payment ∈ payments.eraseDups then payments.eraseDups
      else payments.eraseDups ++ [payment] := by
  rw [List.eraseDups_append, List.cons_removeAll]
  by_cases h : payment ∈ payments
  · have hmem : payment ∈ payments.eraseDups := List.mem_eraseDups.2 h
    simp [h, hmem]
  · have hmem : payment ∉ payments.eraseDups := fun hno => h (List.mem_eraseDups.1 hno)
    simp [h, hmem, List.eraseDups_cons]

/-- A question is recorded if it is the first about its payment. -/
theorem scheduled_act (named : m.Named) (a : Action) {questions : List PaymentId}
    (h : m.backend.schedule.scheduled = questions.eraseDups) :
    (m.act a).backend.schedule.scheduled = (questions ++ m.asked a).eraseDups := by
  obtain ⟨id, goOn, t, rfl, hready, -, heq⟩ | calm := act_cases named a
  · have hmoves := t.step_schedules m.backend goOn
    have hasked : m.asked (.step id goOn) = t.asks?.toList := by
      rw [asked, hready]
      rfl
    rw [heq, carried_backend, hasked]
    cases hasks : t.asks? with
    | none =>
      rw [hasks] at hmoves
      rw [hmoves.scheduled_of_silent, h, Option.toList, List.append_nil]
    | some payment =>
      rw [hasks] at hmoves
      rw [hmoves.scheduled_of_asks, h, Option.toList, eraseDups_concat]
  · rw [calm.scheduled_eq, asked_of_calm calm, List.append_nil, h]

/-- The recorded payments are those that were asked about. -/
theorem scheduled_run (b : Backend) (h : b.schedule.scheduled = []) (actions : List Action) :
    ((create b).run actions).backend.schedule.scheduled =
      ((create b).trace asked actions).eraseDups := by
  induction actions using List.reverseRecOn with
  | nil => exact h
  | append_singleton actions a ih =>
    rw [run_concat, trace_concat]
    exact scheduled_act (named_run b actions) a ih

/-- No recorded payment is forgotten, whatever happens later. -/
theorem scheduled_prefix_run (b : Backend) (h : b.schedule.scheduled = [])
    {earlier actions : List Action} (le : earlier <+: actions) :
    ((create b).run earlier).backend.schedule.scheduled <+:
      ((create b).run actions).backend.schedule.scheduled := by
  obtain ⟨later, rfl⟩ := le
  rw [scheduled_run b h, scheduled_run b h, trace_append, List.eraseDups_append]
  exact List.prefix_append _ _

/-! ## Who asked -/

/-- A recorded payment was asked about by a call that is done and either did not look at its status or
loaded it as pending, when it was. -/
structure Sourced (payment : PaymentId) (m : Machine) (loads : List TaskId) : Prop where
  loaded : ∀ id, (id, .status payment (.asking (.ok (some .pending)))) ∈ m.tasks → id ∈ loads
  source : payment ∈ m.backend.schedule.scheduled →
    (∃ id answer, (id, .query payment (some answer)) ∈ m.tasks) ∨
      ∃ id scheduled,
        (id, .status payment (.finished (.ok (some .pending)) scheduled)) ∈ m.tasks ∧ id ∈ loads

variable {loads : List TaskId}

theorem Sourced.calm (h : m.Sourced payment loads) {m' : Machine} {a : Action}
    (calm : m.Calm m' a) : m'.Sourced payment loads where
  loaded := by
    intro id hid
    obtain hold | ⟨c, -, hc⟩ := calm.old _ hid rfl
    · exact h.loaded id hold
    · cases c <;> cases hc
  source := by
    rw [calm.scheduled_eq]
    intro hmem
    obtain ⟨id, answer, hid⟩ | ⟨id, scheduled, hid, hload⟩ := h.source hmem
    · exact .inl ⟨id, answer, calm.stays _ hid rfl⟩
    · exact .inr ⟨id, scheduled, calm.stays _ hid rfl, hload⟩

/-- A call that holds a pending status has loaded it in its step before. -/
theorem mem_pendingLoads {id : TaskId} {goOn : Bool} {t : Task} (ready : m.ready? id = some t)
    (h : (t.step m.backend goOn).1 = .status payment (.asking (.ok (some .pending)))) :
    id ∈ m.pendingLoads payment (.step id goOn) := by
  obtain ⟨rfl, hload⟩ := Task.eq_starting_of_step h
  have hpending := Backend.status?_of_loadStatus hload
  rw [pendingLoads, ready]
  show id ∈ if payment = payment ∧ m.backend.payments.status? payment = some .pending
    then [id] else []
  rw [if_pos ⟨rfl, hpending⟩]
  exact List.mem_singleton_self id

theorem Sourced.carried (h : m.Sourced payment loads) (named : m.Named) {id : TaskId}
    {goOn : Bool} {t : Task} (ready : m.ready? id = some t) :
    (m.carried id goOn t).Sourced payment (loads ++ m.pendingLoads payment (.step id goOn)) where
  loaded := by
    intro other hother
    obtain heq | ⟨hold, -⟩ | ⟨_, -, -, heq⟩ := mem_carried hother
    · injection heq with hid htask
      rw [hid]
      exact List.mem_append_right _ (mem_pendingLoads ready htask.symm)
    · exact List.mem_append_left _ (h.loaded other hold)
    · cases heq
  source := by
    intro hmem
    have hmoves := t.step_schedules m.backend goOn
    rw [carried_backend] at hmem
    by_cases hknown : payment ∈ m.backend.schedule.scheduled
    · obtain ⟨other, answer, hother⟩ | ⟨other, scheduled, hother, hload⟩ := h.source hknown
      · exact .inl ⟨other, answer, named.mem_carried_of_isFinished ready hother rfl⟩
      · exact .inr ⟨other, scheduled, named.mem_carried_of_isFinished ready hother rfl,
          List.mem_append_left _ hload⟩
    · have hasks : t.asks? = some payment := by
        cases hasks : t.asks? with
        | none =>
          rw [hasks] at hmoves
          rw [hmoves.scheduled_of_silent] at hmem
          exact absurd hmem hknown
        | some other =>
          rw [hasks] at hmoves
          rw [hmoves.scheduled_of_asks] at hmem
          split at hmem
          · exact absurd hmem hknown
          · obtain hmem | hmem := List.mem_append.1 hmem
            · exact absurd hmem hknown
            · rw [List.mem_singleton.1 hmem]
      have hself := mem_carried_self goOn ready
      obtain ⟨answer, hstep⟩ | ⟨ht, scheduled, hstep⟩ := Task.step_of_asks? m.backend goOn hasks
      · rw [hstep] at hself
        exact .inl ⟨id, answer, hself⟩
      · rw [hstep] at hself
        have hbefore := mem_of_ready? ready
        rw [ht] at hbefore
        exact .inr ⟨id, scheduled, hself, List.mem_append_left _ (h.loaded id hbefore)⟩

theorem Sourced.act (h : m.Sourced payment loads) (named : m.Named) (a : Action) :
    (m.act a).Sourced payment (loads ++ m.pendingLoads payment a) := by
  obtain ⟨id, goOn, t, rfl, hready, -, heq⟩ | calm := act_cases named a
  · rw [heq]
    exact h.carried named hready
  · rw [pendingLoads_of_calm calm, List.append_nil]
    exact h.calm calm

theorem sourced_run (b : Backend) (h : b.schedule.scheduled = []) (actions : List Action) :
    ((create b).run actions).Sourced payment ((create b).trace (pendingLoads payment) actions) := by
  induction actions using List.reverseRecOn with
  | nil =>
    refine ⟨fun _ hid => absurd hid List.not_mem_nil, fun hmem => ?_⟩
    rw [run, List.foldl_nil, create, h] at hmem
    exact absurd hmem List.not_mem_nil
  | append_singleton actions a ih =>
    rw [run_concat, trace_concat]
    exact ih.act (named_run b actions) a

end Matchday.Machine

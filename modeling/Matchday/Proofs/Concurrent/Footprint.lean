import Matchday.Concurrent.Run

/-!
What the steps of each kind of task touch: the shared state after a step is the one before it with
other values in the parts that are named, and in no other part. No step moves a clock.
-/

namespace Matchday
set_option autoImplicit false

variable (b : Backend)

/-! ## Locating -/

theorem Sweep.step_footprint (s : Sweep) :
    ∃ events queue, (s.step b).2 = { b with events, queue } := by
  cases s with
  | starting =>
    refine ⟨(b.events.findMissing b.calendar).2, b.queue, ?_⟩
    rw [Sweep.step]
    split
    all_goals
      rename_i h
      exact (congrArg Prod.snd h).symm
  | observing missing queued =>
    cases missing with
    | nil => exact ⟨b.events, b.queue, rfl⟩
    | cons l ls => exact ⟨b.events, _, rfl⟩
  | finished result => exact ⟨b.events, b.queue, rfl⟩

theorem Reading.step_footprint (event : EventId) (s : Reading) :
    ∃ events queue, (s.step b event).2 = { b with events, queue } := by
  cases s with
  | starting => exact ⟨_, b.queue, rfl⟩
  | observing answer =>
    rcases answer with e | l
    · exact ⟨b.events, b.queue, rfl⟩
    · cases l with
      | none => exact ⟨b.events, b.queue, rfl⟩
      | some l => exact ⟨b.events, _, rfl⟩
  | finished answer => exact ⟨b.events, b.queue, rfl⟩

theorem Backend.stepLookup_footprint (address : String) (caller : Caller) (l : Lookup) :
    ∃ geocoders log, (b.stepLookup address caller l).2 = { b with geocoders, log } :=
  ⟨_, _, rfl⟩

theorem Backend.writePoint_footprint (task : LookupTask) (c : Coordinates) :
    ∃ log, (b.writePoint task c).2 =
      { b with events := (b.events.setCoordinates task.event c).2, log } := by
  unfold Backend.writePoint
  split
  · rename_i events h
    exact ⟨b.log, by rw [h]⟩
  · rename_i e events h
    exact ⟨_, by rw [h]; rfl⟩

theorem Pass.step_footprint (p : Pass) :
    ∃ events geocoders queue log, (p.step b).2 = { b with events, geocoders, queue, log } := by
  cases p with
  | starting =>
    rw [Pass.step, Backend.takeTask?]
    cases b.queue.pop? with
    | none => exact ⟨b.events, b.geocoders, b.queue, b.log, rfl⟩
    | some r => exact ⟨b.events, b.geocoders, r.2, b.log, rfl⟩
  | resolving task lookup =>
    cases lookup with
    | finished result =>
      cases result with
      | ok c => exact ⟨b.events, b.geocoders, b.queue, b.log, rfl⟩
      | error e => exact ⟨b.events, b.geocoders, b.queue, _, rfl⟩
    | starting | primaryAsked answer timer | secondaryAsked e answer timer =>
      exact ⟨b.events, _, b.queue, _, rfl⟩
  | writing task c =>
    obtain ⟨log, h⟩ := b.writePoint_footprint task c
    refine ⟨(b.events.setCoordinates task.event c).2, b.geocoders, b.queue, log, ?_⟩
    rw [Pass.step]
    split
    all_goals
      rename_i heq
      rw [heq] at h
      exact h
  | untracking task c => exact ⟨b.events, b.geocoders, _, b.log, rfl⟩
  | requeueing task => exact ⟨b.events, b.geocoders, _, b.log, rfl⟩
  | finished outcome => exact ⟨b.events, b.geocoders, b.queue, b.log, rfl⟩

theorem Worker.step_footprint (w : Worker) (goOn : Bool) :
    ∃ events geocoders queue log,
      (w.step b goOn).2 = { b with events, geocoders, queue, log } := by
  obtain ⟨kind, period, isCancelled, stage, task⟩ := w
  cases stage with
  | starting => exact ⟨b.events, b.geocoders, b.queue, _, rfl⟩
  | waiting timer =>
    simp only [Worker.step]
    split
    · exact ⟨b.events, b.geocoders, b.queue, _, rfl⟩
    · exact ⟨b.events, b.geocoders, b.queue, b.log, rfl⟩
  | busy next round =>
    simp only [Worker.step]
    split
    · exact ⟨b.events, b.geocoders, b.queue, _, rfl⟩
    · cases round with
      | sweep s =>
        obtain ⟨events, queue, h⟩ := s.step_footprint b
        exact ⟨events, b.geocoders, queue, b.log, h⟩
      | pass p => exact p.step_footprint b
  | ended ending => exact ⟨b.events, b.geocoders, b.queue, b.log, rfl⟩

/-! ## Members -/

theorem Backend.writeBack_footprint (w : Wish) (attempt : Nat) (loaded : LoadedMembership) :
    ∃ events log, (b.writeBack w attempt loaded).2 = { b with events, log } := by
  unfold Backend.writeBack
  split
  · exact ⟨b.events, b.log, rfl⟩
  · split
    · exact ⟨_, b.log, rfl⟩
    · exact ⟨_, b.log, rfl⟩
    · exact ⟨_, _, rfl⟩

theorem Subscription.step_footprint (w : Wish) (lag : Nat) (s : Subscription) :
    ∃ events log, (s.step b w lag).2 = { b with events, log } := by
  cases s with
  | waiting timer => exact ⟨b.events, b.log, rfl⟩
  | loading attempt => exact ⟨_, b.log, rfl⟩
  | loaded attempt answer timer =>
    obtain ⟨events, log, h⟩ := b.writeBack_footprint w attempt answer
    refine ⟨events, log, ?_⟩
    rw [Subscription.step]
    split
    · rename_i heq
      rw [heq] at h
      exact h
    · rename_i heq
      rw [heq] at h
      split <;> exact h
  | finished result => exact ⟨b.events, b.log, rfl⟩

/-! ## Payments -/

theorem StatusQuery.step_footprint (payment : PaymentId) (s : StatusQuery) :
    ∃ payments schedule log, (s.step b payment).2.2 = { b with payments, schedule, log } := by
  cases s with
  | starting =>
    refine ⟨(b.payments.find payment).2, b.schedule, b.log, ?_⟩
    simp only [StatusQuery.step, Backend.loadStatus]
    split
    all_goals
      rename_i h
      rw [h]
  | asking answer =>
    refine ⟨b.payments, ?_⟩
    simp only [StatusQuery.step]
    unfold Backend.querySeen
    split
    · exact ⟨_, _, rfl⟩
    · exact ⟨b.schedule, b.log, rfl⟩
    · exact ⟨b.schedule, b.log, rfl⟩
  | finished answer scheduled => exact ⟨b.payments, b.schedule, b.log, rfl⟩

theorem Settlement.step_footprint (payment : PaymentId) (goOn : Bool) (s : Settlement) :
    ∃ events payments schedule log,
      (s.step b payment goOn).2 = { b with events, payments, schedule, log } := by
  cases s with
  | starting => exact ⟨b.events, b.payments, b.schedule, b.log, rfl⟩
  | waiting timer =>
    simp only [Settlement.step]
    split
    · exact ⟨b.events, b.payments, _, _, rfl⟩
    · exact ⟨b.events, b.payments, b.schedule, b.log, rfl⟩
  | marking =>
    simp only [Settlement.step, Settlement.mark]
    split
    · exact ⟨b.events, _, b.schedule, b.log, rfl⟩
    · exact ⟨b.events, _, _, _, rfl⟩
  | reloading =>
    simp only [Settlement.step, Settlement.reload]
    split
    · exact ⟨b.events, _, b.schedule, b.log, rfl⟩
    · exact ⟨b.events, _, _, _, rfl⟩
    · exact ⟨b.events, _, _, _, rfl⟩
  | recording p =>
    simp only [Settlement.step, Settlement.recordPaid]
    split
    · exact ⟨_, b.payments, _, _, rfl⟩
    · exact ⟨_, b.payments, _, _, rfl⟩
  | finished outcome => exact ⟨b.events, b.payments, b.schedule, b.log, rfl⟩

theorem Shutdown.step_footprint (mode : ShutdownMode) (s : Shutdown) :
    ∃ schedule log, (s.step b mode).2 = { b with schedule, log } := by
  cases s with
  | starting => exact ⟨_, _, rfl⟩
  | waiting | finished => exact ⟨b.schedule, b.log, rfl⟩

/-! ## Any task -/

theorem Task.step_footprint (goOn : Bool) (t : Task) :
    ∃ events payments geocoders queue schedule log, (t.step b goOn).2.1 =
      { b with events, payments, geocoders, queue, schedule, log } := by
  cases t with
  | mark event address recheckAfter answer =>
    cases answer <;> exact ⟨_, _, _, _, _, _, rfl⟩
  | observe location answer => cases answer <;> exact ⟨_, _, _, _, _, _, rfl⟩
  | sweep stage =>
    obtain ⟨events, queue, h⟩ := stage.step_footprint b
    exact ⟨_, _, _, _, _, _, h⟩
  | reading event stage =>
    obtain ⟨events, queue, h⟩ := stage.step_footprint b event
    exact ⟨_, _, _, _, _, _, h⟩
  | pass stage =>
    obtain ⟨events, geocoders, queue, log, h⟩ := stage.step_footprint b
    exact ⟨_, _, _, _, _, _, h⟩
  | lookup address caller stage => exact ⟨_, _, _, _, _, _, rfl⟩
  | subscription wish lag stage =>
    obtain ⟨events, log, h⟩ := stage.step_footprint b wish lag
    exact ⟨_, _, _, _, _, _, h⟩
  | query payment answer => cases answer <;> exact ⟨_, _, _, _, _, _, rfl⟩
  | status payment stage =>
    obtain ⟨payments, schedule, log, h⟩ := stage.step_footprint b payment
    exact ⟨_, _, _, _, _, _, h⟩
  | settlement payment stage =>
    obtain ⟨events, payments, schedule, log, h⟩ := stage.step_footprint b payment goOn
    exact ⟨_, _, _, _, _, _, h⟩
  | worker w =>
    obtain ⟨events, geocoders, queue, log, h⟩ := w.step_footprint b goOn
    exact ⟨_, _, _, _, _, _, h⟩
  | shutdown mode stage =>
    obtain ⟨schedule, log, h⟩ := stage.step_footprint b mode
    exact ⟨_, _, _, _, _, _, h⟩
  | closing crew mode stage => exact ⟨_, _, _, _, _, _, rfl⟩

end Matchday

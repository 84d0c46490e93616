import Matchday.Proofs.Concurrent.Footprint

/-!
Which call a step makes of the store of events: at most one, and each subsystem makes its own calls. What a
reading of the store owes to no call but one is so proved call by call (`Task.step_calls`).
-/

namespace Matchday
set_option autoImplicit false

/-- What the application does: it keeps the members of events, finds events on the map and settles payments. -/
inductive Subsystem where
  | members
  | locating
  | payments
deriving DecidableEq

/-- The store after at most one call of a subsystem, which is none that records a member as paid. -/
inductive EventStore.Calls (s : EventStore) : Subsystem → EventStore → Prop where
  | rested (k : Subsystem) : Calls s k s
  | findMissing (now : Instant) : Calls s .locating (s.findMissing now).2
  | findLocation (id : EventId) : Calls s .locating (s.findLocation id).2
  | setCoordinates (id : EventId) (c : Coordinates) : Calls s .locating (s.setCoordinates id c).2
  | loadMembership (id : EventId) : Calls s .members (s.loadMembership id).2
  | persistMembership (m : Membership) : Calls s .members (s.persistMembership m).2

variable (b : Backend)

theorem Sweep.step_calls (s : Sweep) : b.events.Calls .locating (s.step b).2.events := by
  cases s with
  | starting =>
    have hload : b.events.Calls .locating b.loadMissing.2.events := .findMissing b.calendar
    rw [Sweep.step]
    split
    all_goals
      rename_i h
      rw [h] at hload
      exact hload
  | observing missing queued =>
    cases missing with
    | nil => exact .rested _
    | cons l rest => exact .rested _
  | finished result => exact .rested _

theorem Reading.step_calls (event : EventId) (s : Reading) :
    b.events.Calls .locating (s.step b event).2.events := by
  cases s with
  | starting => exact .findLocation event
  | observing answer =>
    rcases answer with e | l
    · exact .rested _
    · cases l <;> exact .rested _
  | finished answer => exact .rested _

theorem Pass.step_calls (p : Pass) : b.events.Calls .locating (p.step b).2.events := by
  cases p with
  | starting =>
    rw [Pass.step, Backend.takeTask?]
    cases b.queue.pop? <;> exact .rested _
  | resolving task lookup =>
    cases lookup with
    | finished result => cases result <;> exact .rested _
    | starting | primaryAsked answer timer | secondaryAsked e answer timer => exact .rested _
  | writing task c =>
    obtain ⟨log, h⟩ := b.writePoint_footprint task c
    have hcalls : b.events.Calls .locating (b.writePoint task c).2.events := by
      rw [h]
      exact .setCoordinates task.event c
    rw [Pass.step]
    split
    all_goals
      rename_i heq
      rw [heq] at hcalls
      exact hcalls
  | untracking task c => exact .rested _
  | requeueing task => exact .rested _
  | finished outcome => exact .rested _

theorem Worker.step_calls (w : Worker) (goOn : Bool) : b.events.Calls .locating (w.step b goOn).2.events := by
  obtain ⟨kind, period, isCancelled, stage, task⟩ := w
  cases stage with
  | starting => exact .rested _
  | waiting timer =>
    simp only [Worker.step]
    split <;> exact .rested _
  | busy next round =>
    simp only [Worker.step]
    split
    · exact .rested _
    · cases round with
      | sweep s => exact s.step_calls b
      | pass p => exact p.step_calls b
  | ended ending => exact .rested _

theorem Backend.writeBack_calls (w : Wish) (attempt : Nat) (loaded : LoadedMembership) :
    b.events.Calls .members (b.writeBack w attempt loaded).2.events := by
  unfold Backend.writeBack
  split
  · exact .rested _
  · rename_i m _
    have hcalls := EventStore.Calls.persistMembership (s := b.events) m
    split
    all_goals
      rename_i h
      rw [h] at hcalls
      exact hcalls

theorem Subscription.step_calls (w : Wish) (lag : Nat) (s : Subscription) :
    b.events.Calls .members (s.step b w lag).2.events := by
  cases s with
  | waiting timer => exact .rested _
  | loading attempt => exact .loadMembership w.event
  | loaded attempt answer timer =>
    have hcalls := b.writeBack_calls w attempt answer
    rw [Subscription.step]
    split
    · rename_i heq
      rw [heq] at hcalls
      exact hcalls
    · rename_i heq
      rw [heq] at hcalls
      split <;> exact hcalls
  | finished result => exact .rested _

theorem Settlement.events_recordPaid (payment : PaymentId) (p : Payment) :
    (Settlement.recordPaid b payment p).2.events = (b.events.addPaid p.event p.member).2 := by
  unfold Settlement.recordPaid
  split
  all_goals
    rename_i h
    rw [h]
    rfl

theorem Settlement.step_calls (payment : PaymentId) (goOn : Bool) (s : Settlement) :
    (s.step b payment goOn).2.events = b.events ∨ ∃ p, s = .recording p ∧
      (s.step b payment goOn).2.events = (b.events.addPaid p.event p.member).2 := by
  cases s with
  | starting => exact .inl rfl
  | waiting timer =>
    refine .inl ?_
    simp only [Settlement.step]
    split <;> rfl
  | marking =>
    refine .inl ?_
    simp only [Settlement.step, Settlement.mark]
    split <;> rfl
  | reloading =>
    refine .inl ?_
    simp only [Settlement.step, Settlement.reload]
    split <;> rfl
  | recording p => exact .inr ⟨p, rfl, Settlement.events_recordPaid b payment p⟩
  | finished outcome => exact .inl rfl

/-- A step makes at most one call of the store of events, and only a settlement records a member. -/
theorem Task.step_calls (goOn : Bool) (t : Task) :
    (∃ k, b.events.Calls k (t.step b goOn).2.1.events) ∨
      ∃ payment p, t = .settlement payment (.recording p) ∧
        (t.step b goOn).2.1.events = (b.events.addPaid p.event p.member).2 := by
  have rested : ∀ {events : EventStore}, events = b.events → ∃ k, b.events.Calls k events := by
    rintro _ rfl
    exact ⟨.payments, .rested _⟩
  cases t with
  | mark event address recheckAfter answer => cases answer <;> exact .inl (rested rfl)
  | observe location answer => cases answer <;> exact .inl (rested rfl)
  | sweep stage => exact .inl ⟨_, stage.step_calls b⟩
  | reading event stage => exact .inl ⟨_, stage.step_calls b event⟩
  | pass stage => exact .inl ⟨_, stage.step_calls b⟩
  | lookup address caller stage => exact .inl (rested rfl)
  | subscription wish lag stage => exact .inl ⟨_, stage.step_calls b wish lag⟩
  | query payment answer => cases answer <;> exact .inl (rested rfl)
  | status payment stage =>
    obtain ⟨payments, schedule, log, h⟩ := stage.step_footprint b payment
    refine .inl (rested ?_)
    simp only [Task.step, h]
  | settlement payment stage =>
    obtain h | ⟨p, rfl, h⟩ := stage.step_calls b payment goOn
    · exact .inl (rested h)
    · exact .inr ⟨payment, p, rfl, h⟩
  | worker w => exact .inl ⟨_, w.step_calls b goOn⟩
  | shutdown mode stage => cases stage <;> exact .inl (rested rfl)
  | closing crew mode stage => exact .inl (rested rfl)

end Matchday

import Matchday.Proofs.Concurrent.History
import Matchday.Proofs.Locating.Completion
import Matchday.Proofs.Store.Events

/-!
How long it takes until the queue is empty. A pass puts its task back if the lookup or the write fails, so the
queue does not get shorter with each pass. But each pass uses up one resolution of the scripts, and each
resolution that succeeds uses up a write that fails or takes a task away for good. Before the queue is
empty there are so many passes as it takes to the success whose number is that of the tasks and the
failing writes together.

The invariant is a queue that drains (`Backend.Drains`), which each pass keeps with the resolutions that are
left.

Main statement: `Backend.queue_drains`.
-/

namespace Matchday
set_option autoImplicit false

/-! ## Resolutions -/

/-- Which lookups succeed, in their order, if the two geocoders answer from scripts; those behind the scripts
fail. -/
def cascade : List Answer → List Answer → List Bool
  | [], ss => ss.map (·.isOk)
  | .ok _ :: ps, ss => true :: cascade ps ss
  | .error _ :: ps, ss => ss.head?.any (·.isOk) :: cascade ps ss.tail

/-- Two geocoders that answer from scripts, by which lookups of theirs succeed. -/
def Geocoders.Follow (g : Geocoders) (successes : List Bool) : Prop :=
  ∃ ps ss, g.primary.source = .script ps ∧ g.secondary.source = .script ss ∧ cascade ps ss = successes

theorem Geocoders.isOk_conclude (g : Geocoders) (e : GeocodeError) (a : Answer) :
    (g.conclude e a).isOk = a.isOk := by
  cases a <;> rfl

/-- A lookup uses up one of the resolutions. -/
theorem Geocoders.Follow.resolve {g : Geocoders} {success : Bool} {rest : List Bool}
    (h : g.Follow (success :: rest)) (address : String) (caller : Caller) :
    (g.resolve address caller).1.isOk = success ∧ (g.resolve address caller).2.1.Follow rest := by
  obtain ⟨ps, ss, hprimary, hsecondary, hcascade⟩ := h
  have hnext : (g.callPrimary address caller).primary.source = .script ps.tail := by
    show g.primary.source.next = _
    rw [hprimary]
    rfl
  have hnext' : ((g.callPrimary address caller).callSecondary address caller).secondary.source =
      .script ss.tail := by
    show g.secondary.source.next = _
    rw [hsecondary]
    rfl
  have hanswer : g.secondary.answer.isOk = ss.head?.any (·.isOk) := by
    rw [Geocoder.answer, hsecondary]
    cases ss <;> rfl
  have hfirst : g.primary.answer = (Source.script ps).answer := by rw [Geocoder.answer, hprimary]
  cases ps with
  | nil =>
    cases ss with
    | nil => cases hcascade
    | cons s ss =>
      injection hcascade with hsuccess hrest
      simp only [Geocoders.resolve, hfirst, Source.answer]
      refine ⟨?_, [], ss, hnext, hnext', hrest⟩
      rw [isOk_conclude, hanswer, ← hsuccess]
      rfl
  | cons p ps =>
    cases p with
    | ok c =>
      injection hcascade with hsuccess hrest
      simp only [Geocoders.resolve, hfirst, Source.answer]
      exact ⟨hsuccess, ps, ss, hnext, hsecondary, hrest⟩
    | error e =>
      injection hcascade with hsuccess hrest
      simp only [Geocoders.resolve, hfirst, Source.answer]
      refine ⟨?_, ps, ss.tail, hnext, hnext', hrest⟩
      rw [isOk_conclude, hanswer, hsuccess]

/-! ## Passes -/

/-- In an open store a write of a known event's point fails as often as it was set up to, and then succeeds. -/
theorem EventStore.setCoordinates_eq {s : EventStore} {id : EventId} (isOpen : s.isClosed = false)
    (known : (s.get? id).isSome = true) (c : Coordinates) : s.setCoordinates id c =
      if s.faults.left .setCoordinates = 0 then
        (.ok (), { s.modify id fun e => { e with location := e.location.place c } with
          writes := s.writes ++ [(id, c)] })
      else (.error (.simulated .setCoordinates),
        { s with faults := s.faults.spend .setCoordinates }) := by
  rw [setCoordinates]
  split
  · rename_i hzero
    rw [call_of_left_zero isOpen hzero, if_pos known]
  · rename_i hpos
    rw [call_of_left_pos isOpen (Nat.pos_of_ne_zero hpos)]

theorem EventStore.isSome_get?_modify {s : EventStore} {id : EventId} {f : StoredEvent → StoredEvent}
    (hf : ∀ e, (f e).id = e.id) (other : EventId) :
    ((s.modify id f).get? other).isSome = (s.get? other).isSome := by
  rw [get?_modify id hf, Option.isSome_map]

namespace Backend

variable {b : Backend} {task : LookupTask} {others : List LookupTask}

/-- A queue of distinct events that the store knows, in front of the lookups that succeed and so many writes that
fail; none of these is left over for an empty queue. -/
structure Drains (b : Backend) (successes : List Bool) (failures : Nat) : Prop where
  follows : b.geocoders.Follow successes
  isOpen : b.events.isClosed = false
  failing : b.events.faults.left .setCoordinates = failures
  distinct : (b.queue.pending.map (·.event)).Nodup
  tracked : b.queue.tracked.Perm (b.queue.pending.map (·.event))
  known : ∀ task ∈ b.queue.pending, (b.events.get? task.event).isSome = true
  emptied : b.queue.pending = [] → failures = 0

variable {success : Bool} {rest : List Bool} {failures : Nat}

/-- Putting the first task at the end leaves the queue as good as it was. -/
theorem Drains.requeued (h : b.Drains (success :: rest) failures)
    (pending : b.queue.pending = task :: others) {b' : Backend} {left : Nat}
    (follows : b'.geocoders.Follow rest)
    (queue : b'.queue = { b.queue with pending := others ++ [task.failed] })
    (kept : b'.events.events = b.events.events) (isOpen : b'.events.isClosed = b.events.isClosed)
    (failing : b'.events.faults.left .setCoordinates = left) :
    b'.Drains rest left ∧ (b'.queue.pending.map (·.event)).Perm (b.queue.pending.map (·.event)) := by
  have hevents : (b'.queue.pending.map (·.event)).Perm (b.queue.pending.map (·.event)) := by
    rw [queue, pending, List.map_append]
    exact List.perm_append_singleton _ _
  have hmore : b'.queue.pending ≠ [] := by
    rw [queue]
    exact List.append_ne_nil_of_right_ne_nil _ (List.cons_ne_nil _ _)
  refine ⟨⟨follows, isOpen.trans h.isOpen, failing, hevents.nodup_iff.2 h.distinct, ?_, fun other hother => ?_,
    fun hnil => absurd hnil hmore⟩, hevents⟩
  · rw [queue] at hevents ⊢
    exact h.tracked.trans hevents.symm
  · have hsame : b'.events.get? other.event = b.events.get? other.event := by
      rw [EventStore.get?, kept]
      rfl
    rw [hsame]
    obtain ⟨old, hold, heq⟩ := List.mem_map.1 (hevents.mem_iff.1 (List.mem_map_of_mem (f := (·.event)) hother))
    rw [← heq]
    exact h.known old hold

/-- Taking the first task away once the point of its event is written leaves a shorter queue as good. -/
theorem Drains.placed (h : b.Drains (success :: rest) 0) (pending : b.queue.pending = task :: others)
    {b' : Backend} {c : Coordinates} (follows : b'.geocoders.Follow rest)
    (queue : b'.queue = { b.queue with pending := others, tracked := b.queue.tracked.erase task.event })
    (events : b'.events = { b.events.modify task.event fun e => { e with location := e.location.place c } with
      writes := b.events.writes ++ [(task.event, c)] }) : b'.Drains rest 0 := by
  have hdistinct := h.distinct
  have htracked := h.tracked
  rw [pending, List.map_cons] at hdistinct htracked
  refine ⟨follows, by rw [events]; exact h.isOpen, by rw [events]; exact h.failing, ?_, ?_, ?_, fun _ => rfl⟩
  · rw [queue]
    exact (List.nodup_cons.1 hdistinct).2
  · have herased := htracked.erase task.event
    rw [List.erase_cons_head] at herased
    rw [queue]
    exact herased
  · intro other hother
    rw [queue] at hother
    have hsame : (b'.events.get? other.event).isSome = (b.events.get? other.event).isSome := by
      rw [events]
      show ((b.events.modify task.event _).get? other.event).isSome = _
      exact EventStore.isSome_get?_modify (by intro e; rfl) other.event
    rw [hsame]
    apply h.known other
    rw [pending]
    exact List.mem_cons_of_mem _ hother

/-- A pass uses up one resolution; if that succeeds, also a write that fails, or the first task, whose event is the
only one whose point is written. -/
theorem Drains.next (h : b.Drains (success :: rest) failures) (pending : b.queue.pending = task :: others) :
    b.processNext.1.isSome = true ∧ ∃ left written, b.processNext.2.Drains rest left ∧
      b.processNext.2.queue.pending.length + left + success.toNat = b.queue.pending.length + failures ∧
      b.processNext.2.events.writes = b.events.writes ++ written ∧
      (written.map (·.1) ++ b.processNext.2.queue.pending.map (·.event)).Perm
        (b.queue.pending.map (·.event)) := by
  obtain ⟨hsuccess, hfollows⟩ := h.follows.resolve task.address .refresh
  have hknown := h.known task (by rw [pending]; exact List.mem_cons_self)
  obtain ⟨-, hgeocoders, hcases⟩ := processNext_cases pending
  generalize b.processNext.1 = outcome, b.processNext.2 = b' at hgeocoders hcases
  rw [← hgeocoders] at hfollows
  -- the lookup fails, the write fails, or the point is written
  obtain ⟨rfl, hqueue, ⟨herror, hevents⟩ | ⟨c, e, hok, hwrite⟩⟩ | ⟨c, rfl, hqueue, hok, hwrite⟩ := hcases
  · have hkept : b'.events.faults.left .setCoordinates = failures := by rw [hevents, h.failing]
    obtain ⟨hdrains, hperm⟩ := h.requeued pending hfollows hqueue (by rw [hevents]) (by rw [hevents]) hkept
    have hlength := hperm.length_eq
    rw [List.length_map, List.length_map] at hlength
    refine ⟨rfl, failures, [], hdrains, ?_, by rw [hevents, List.append_nil], hperm⟩
    rw [← hsuccess, herror, hlength]
    rfl
  · rw [EventStore.setCoordinates_eq h.isOpen hknown, h.failing] at hwrite
    split at hwrite
    · injection hwrite with hno
      cases hno
    · rename_i hpositive
      injection hwrite with _ hevents
      have hspent : b'.events.faults.left .setCoordinates = failures - 1 := by
        rw [← hevents, ← h.failing]
        simp [Faults.spend, Faults.set]
      obtain ⟨hdrains, hperm⟩ := h.requeued pending hfollows hqueue (by rw [← hevents]) (by rw [← hevents])
        hspent
      have hlength := hperm.length_eq
      rw [List.length_map, List.length_map] at hlength
      refine ⟨rfl, failures - 1, [], hdrains, ?_, by rw [← hevents, List.append_nil], hperm⟩
      rw [← hsuccess, hok, hlength]
      show _ + 1 = _
      omega
  · rw [EventStore.setCoordinates_eq h.isOpen hknown, h.failing] at hwrite
    split at hwrite
    · rename_i hzero
      subst hzero
      injection hwrite with _ hevents
      have hdrains := h.placed pending hfollows hqueue hevents.symm
      refine ⟨rfl, 0, [(task.event, c)], hdrains, ?_, by rw [← hevents], ?_⟩
      · rw [hqueue, pending, ← hsuccess, hok]
        rfl
      · rw [hqueue, pending]
        exact List.Perm.refl _
    · injection hwrite with hno
      cases hno

theorem Drains.ends {successes : List Bool} (h : b.Drains successes failures) (pending : b.queue.pending = []) :
    b.queue = .empty ∧ b.events.faults.left .setCoordinates = 0 ∧
      ∃ written, b.events.writes = b.events.writes ++ written ∧
        (written.map (·.1)).Perm (b.queue.pending.map (·.event)) := by
  have htracked := h.tracked
  rw [pending] at htracked ⊢
  refine ⟨?_, h.failing.trans (h.emptied pending), [], (List.append_nil _).symm, List.Perm.refl _⟩
  show (⟨b.queue.pending, b.queue.tracked⟩ : LookupQueue) = ⟨[], []⟩
  rw [pending, List.perm_nil.1 htracked]

/-- There are so many passes until the queue is empty as it takes to the success whose number is that of the tasks
and the failing writes together. -/
theorem Drains.drains {successes : List Bool} (h : b.Drains successes failures)
    (enough : b.queue.pending.length + failures ≤ successes.count true) :
    ∃ k ≤ successes.length,
      (successes.take k).count true = b.queue.pending.length + failures ∧
      (∀ j < k, (successes.take j).count true < b.queue.pending.length + failures) ∧
      (∀ j < k, (b.passes j).processNext.1.isSome = true) ∧
      (b.passes k).queue = .empty ∧ (b.passes k).events.faults.left .setCoordinates = 0 ∧
      ∃ written, (b.passes k).events.writes = b.events.writes ++ written ∧
        (written.map (·.1)).Perm (b.queue.pending.map (·.event)) := by
  induction successes generalizing b failures with
  | nil =>
    have hzero : b.queue.pending.length + failures = 0 := Nat.le_zero.1 enough
    have hpending : b.queue.pending = [] := List.length_eq_zero_iff.1 (by omega)
    exact ⟨0, Nat.le_refl 0, hzero.symm, fun j hj => absurd hj (Nat.not_lt_zero j),
      fun j hj => absurd hj (Nat.not_lt_zero j), h.ends hpending⟩
  | cons success rest ih =>
    cases hpending : b.queue.pending with
    | nil =>
      have hzero := h.emptied hpending
      have hends := h.ends hpending
      rw [hpending] at hends
      exact ⟨0, Nat.zero_le _, by rw [hzero]; rfl, fun j hj => absurd hj (Nat.not_lt_zero j),
        fun j hj => absurd hj (Nat.not_lt_zero j), hends⟩
    | cons task others =>
      obtain ⟨hsome, left, first, hdrains, hlength, hwrites, hperm⟩ := h.next hpending
      rw [List.count_cons] at enough
      have hcount : (if success == true then 1 else 0) = success.toNat := by cases success <;> rfl
      rw [hcount] at enough
      obtain ⟨k, hk, htake, hearly, hmore, hqueue, hfaults, written, hwritten, hevents⟩ :=
        ih hdrains (by omega)
      rw [← hpending]
      have hneed : 0 < b.queue.pending.length + failures := by
        rw [hpending, List.length_cons]
        omega
      refine ⟨k + 1, Nat.succ_le_succ hk, ?_, ?_, ?_, ?_, ?_, first ++ written, ?_, ?_⟩
      · rw [List.take_succ_cons, List.count_cons, hcount, htake, ← hlength]
      · intro j hj
        cases j with
        | zero => exact hneed
        | succ j =>
          rw [List.take_succ_cons, List.count_cons, hcount, ← hlength]
          exact Nat.add_lt_add_right (hearly j (Nat.lt_of_succ_lt_succ hj)) _
      · intro j hj
        cases j with
        | zero => exact hsome
        | succ j =>
          rw [passes_succ]
          exact hmore j (Nat.lt_of_succ_lt_succ hj)
      · rw [passes_succ]
        exact hqueue
      · rw [passes_succ]
        exact hfaults
      · rw [passes_succ, hwritten, hwrites, List.append_assoc]
      · rw [List.map_append]
        exact (hevents.append_left _).trans hperm

/-- A queue of at least one task, for distinct events that an open store knows and that are all that is tracked, if two
geocoders answer from scripts and some coming writes fail. If there are as many successes among the resolutions as
tasks and failing writes together, then the pass behind that success is the first that finds no task. By then
nothing is tracked, no write is left to fail, and the points that were written are one for each event. -/
theorem queue_drains (b : Backend) (ps ss : List Answer)
    (primary : b.geocoders.primary.source = .script ps)
    (secondary : b.geocoders.secondary.source = .script ss)
    (isOpen : b.events.isClosed = false) (nonempty : b.queue.pending ≠ [])
    (distinct : (b.queue.pending.map (·.event)).Nodup)
    (tracked : b.queue.tracked.Perm (b.queue.pending.map (·.event)))
    (known : ∀ task ∈ b.queue.pending, (b.events.get? task.event).isSome = true)
    (enough : b.queue.pending.length + b.events.faults.left .setCoordinates ≤ (cascade ps ss).count true) :
    let need := b.queue.pending.length + b.events.faults.left .setCoordinates
    ∃ k ≤ (cascade ps ss).length,
      ((cascade ps ss).take k).count true = need ∧ (∀ j < k, ((cascade ps ss).take j).count true < need) ∧
      (∀ j < k, (b.passes j).processNext.1.isSome = true) ∧ (b.passes k).processNext.1 = none ∧
      (b.passes k).queue = .empty ∧ (b.passes k).events.faults.left .setCoordinates = 0 ∧
      ∃ written, (b.passes k).events.writes = b.events.writes ++ written ∧
        (written.map (·.1)).Perm (b.queue.pending.map (·.event)) := by
  intro need
  have hdrains : b.Drains (cascade ps ss) (b.events.faults.left .setCoordinates) :=
    ⟨⟨ps, ss, primary, secondary, rfl⟩, isOpen, rfl, distinct, tracked, known, fun hnil => absurd hnil nonempty⟩
  obtain ⟨k, hk, htake, hearly, hmore, hqueue, hrest⟩ := hdrains.drains enough
  have hnone : (b.passes k).processNext = (none, b.passes k) := processNext_of_nil (by rw [hqueue]; rfl)
  exact ⟨k, hk, htake, hearly, hmore, by rw [hnone], hqueue, hrest⟩

/-! ## Two events -/

/-- The first geocoder fails, succeeds, fails and succeeds. -/
def unsteady : List Answer := [.error .scriptEnded, .ok ⟨.zero false, .zero false⟩, .error .scriptEnded,
  .ok ⟨.zero false, .zero false⟩]

/-- The second fails and succeeds. -/
def helpful : List Answer := [.error .scriptEnded, .ok ⟨.zero false, .zero false⟩]

/-- Two events are queued, and the first write will fail. -/
def twoQueued : Backend :=
  let second : StoredEvent := .create ⟨.repeated 2, "Park", none, none, .newYear⟩
  let events := ((EventStore.empty.insert .small).insert second).fail .setCoordinates 1
  (create .newYear events .empty ⟨.scripted "primary" unsteady, .scripted "secondary" helpful⟩ 0).sweep.2

theorem queue_drains_two :
    twoQueued.queue.pending ≠ [] ∧ (twoQueued.queue.pending.map (·.event)).Nodup ∧
      twoQueued.queue.tracked.Perm (twoQueued.queue.pending.map (·.event)) ∧
      (∀ task ∈ twoQueued.queue.pending, (twoQueued.events.get? task.event).isSome = true) ∧
      2 + 1 ≤ (cascade unsteady helpful).count true ∧
      ∃ k ≤ 4, (cascade unsteady helpful).take k = [false, true, true, true] ∧
        (∀ j < k, (twoQueued.passes j).processNext.1.isSome = true) ∧
        (twoQueued.passes k).processNext.1 = none ∧ (twoQueued.passes k).queue = .empty := by
  obtain ⟨k, hk, htake, -, hmore, hnone, hqueue, -⟩ := queue_drains twoQueued unsteady helpful rfl rfl rfl
    (by decide) (by decide) (by decide) (by decide) (by decide)
  refine ⟨by decide, by decide, by decide, by decide, by decide, k, hk, ?_, hmore, hnone, hqueue⟩
  have hlast : k = 4 := by
    by_contra hne
    have hfew : k = 0 ∨ k = 1 ∨ k = 2 ∨ k = 3 := by
      change k ≤ 4 at hk
      omega
    obtain rfl | rfl | rfl | rfl := hfew <;> exact absurd htake (by decide)
  rw [hlast]
  rfl

end Backend

end Matchday

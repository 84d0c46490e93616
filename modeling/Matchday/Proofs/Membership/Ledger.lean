import Matchday.Proofs.Membership.Validity
import Matchday.Proofs.Store.Events

/-!
What steps do to memberships. Only a call by which a member joins or leaves touches one, when it writes
back what it has loaded: the write succeeds and the call returns what was stored, or the call tries
again or fails (`Subscription.step_loaded`).
-/

namespace Matchday
set_option autoImplicit false

/-- The membership that a call has returned. -/
def Subscription.stored? : Subscription → Option Membership
  | finished (.ok m) => some m
  | finished (.error _) | waiting _ | loading _ | loaded _ _ _ => none

theorem Subscription.stored?_eq_some {s : Subscription} {m : Membership} :
    s.stored? = some m ↔ s = finished (.ok m) := by
  constructor
  · intro h
    cases s with
    | finished result =>
      cases result with
      | ok m' =>
        injection h with h
        rw [h]
      | error e => cases h
    | waiting timer | loading attempt | loaded attempt answer timer => cases h
  · rintro rfl
    rfl

/-- The membership that a call has loaded and not yet written back. -/
def Subscription.snapshot? : Subscription → Option Membership
  | loaded _ (.ok (some m)) _ => some m
  | loaded _ (.ok none) _ | loaded _ (.error _) _ | waiting _ | loading _ | finished _ => none

/-- Whether a task is a call by which a member joins or leaves. -/
def Task.isSubscription : Task → Bool
  | subscription _ _ _ => true
  | _ => false

/-- What is stored by the next write of a call that has loaded a membership, if the write succeeds. -/
def Backend.persisted? (b : Backend) (w : Wish) (loaded : LoadedMembership) : Option Membership :=
  match w.updated loaded with
  | .error _ => none
  | .ok m =>
    match b.events.persistMembership m with
    | (.ok true, events) => events.membership? m.event
    | (.ok false, _) | (.error _, _) => none

/-- A call that begins has loaded nothing. -/
theorem Subscription.waiting_of_task {c : Call} {now lag : Nat} {w : Wish} {s : Subscription}
    (h : Task.subscription w lag s = c.task now) : ∃ timer, s = .waiting timer := by
  cases c with
  | subscribe wish lag start =>
    injection h with _ _ h
    exact ⟨_, h⟩
  | _ => cases h

@[simp] theorem Task.isSubscription_step (b : Backend) (goOn : Bool) (t : Task) :
    (t.step b goOn).1.isSubscription = t.isSubscription := by
  cases t with
  | mark event address recheckAfter answer => cases answer <;> rfl
  | observe location answer => cases answer <;> rfl
  | query payment answer => cases answer <;> rfl
  | _ => rfl

theorem EventStore.ledger_setCoordinates (s : EventStore) (id : EventId) (c : Coordinates) :
    (s.setCoordinates id c).2.ledger = s.ledger := by
  obtain ⟨e, faults, h⟩ | ⟨-, h⟩ := s.setCoordinates_cases id c
  · rw [h]
    rfl
  · rw [h]
    exact s.modify_map id fun _ => rfl

theorem EventStore.ledger_addPaid (s : EventStore) (id : EventId) (who : MemberId) :
    (s.addPaid id who).2.ledger = s.ledger := by
  obtain ⟨events, faults, h, hmap⟩ := s.addPaid_footprint id who
  rw [h]
  refine hmap _ fun e => ?_
  unfold StoredEvent.addPaid
  split <;> rfl

theorem Sweep.step_ledger (b : Backend) (s : Sweep) :
    (s.step b).2.events.ledger = b.events.ledger := by
  cases s with
  | starting =>
    obtain ⟨faults, hfaults⟩ := b.events.findMissing_footprint b.calendar
    have hload : b.loadMissing.2.events.ledger = b.events.ledger := by
      show (b.events.findMissing b.calendar).2.ledger = _
      rw [hfaults]
      rfl
    rw [Sweep.step]
    split
    all_goals
      rename_i h
      rw [h] at hload
      exact hload
  | observing missing queued => cases missing <;> rfl
  | finished result => rfl

theorem Reading.step_ledger (b : Backend) (event : EventId) (s : Reading) :
    (s.step b event).2.events.ledger = b.events.ledger := by
  cases s with
  | starting =>
    obtain ⟨faults, hfaults⟩ := b.events.findLocation_footprint event
    show (b.events.findLocation event).2.ledger = _
    rw [hfaults]
    rfl
  | observing answer =>
    rcases answer with e | l
    · rfl
    · cases l <;> rfl
  | finished answer => rfl

theorem Pass.step_ledger (b : Backend) (p : Pass) :
    (p.step b).2.events.ledger = b.events.ledger := by
  cases p with
  | starting =>
    rw [Pass.step, Backend.takeTask?]
    cases b.queue.pop? <;> rfl
  | resolving task lookup =>
    cases lookup with
    | finished result => cases result <;> rfl
    | starting | primaryAsked answer timer | secondaryAsked e answer timer => rfl
  | writing task c =>
    obtain ⟨log, h⟩ := b.writePoint_footprint task c
    have hledger := b.events.ledger_setCoordinates task.event c
    rw [Pass.step]
    split
    all_goals
      rename_i heq
      rw [heq] at h
      rw [h]
      exact hledger
  | untracking task c => rfl
  | requeueing task => rfl
  | finished outcome => rfl

theorem Worker.step_ledger (b : Backend) (goOn : Bool) (w : Worker) :
    (w.step b goOn).2.events.ledger = b.events.ledger := by
  obtain ⟨kind, period, isCancelled, stage, task⟩ := w
  cases stage with
  | starting | ended ending => rfl
  | waiting timer =>
    simp only [Worker.step]
    split <;> rfl
  | busy next round =>
    simp only [Worker.step]
    split
    · rfl
    · cases round with
      | sweep s => exact s.step_ledger b
      | pass p => exact p.step_ledger b

theorem Settlement.step_ledger (b : Backend) (payment : PaymentId) (goOn : Bool)
    (s : Settlement) : (s.step b payment goOn).2.events.ledger = b.events.ledger := by
  cases s with
  | starting | finished outcome => rfl
  | waiting timer =>
    simp only [Settlement.step]
    split <;> rfl
  | marking =>
    simp only [Settlement.step, Settlement.mark]
    split <;> rfl
  | reloading =>
    simp only [Settlement.step, Settlement.reload]
    split <;> rfl
  | recording p =>
    have hledger := b.events.ledger_addPaid p.event p.member
    simp only [Settlement.step, Settlement.recordPaid]
    split
    all_goals
      rename_i h
      rw [h] at hledger
      exact hledger

/-- Only calls by which members join or leave touch memberships. -/
theorem Task.step_ledger (b : Backend) (goOn : Bool) {t : Task} (h : t.isSubscription = false) :
    (t.step b goOn).2.1.events.ledger = b.events.ledger := by
  cases t with
  | mark event address recheckAfter answer => cases answer <;> rfl
  | observe location answer => cases answer <;> rfl
  | sweep stage => exact stage.step_ledger b
  | reading event stage => exact stage.step_ledger b event
  | pass stage => exact stage.step_ledger b
  | lookup address caller stage => rfl
  | subscription wish lag stage => exact absurd h (by simp [isSubscription])
  | query payment answer => cases answer <;> rfl
  | status payment stage =>
    obtain ⟨payments, schedule, log, h⟩ := stage.step_footprint b payment
    simp only [Task.step, h]
  | settlement payment stage => exact stage.step_ledger b payment goOn
  | worker w => exact w.step_ledger b goOn
  | shutdown mode stage =>
    obtain ⟨schedule, log, h⟩ := stage.step_footprint b mode
    simp only [Task.step, h]
  | closing crew mode stage => rfl

/-! ## Writing back -/

/-- What comes of a membership that was loaded for a wish: it is not written, and at most a rival is;
or it is changed, written in the version that it was loaded at, and returned. -/
inductive WritesBack (b b' : Backend) (w : Wish) (loaded : LoadedMembership)
    (next : Subscription) : Prop where
  | kept (persisted : b.persisted? w loaded = none) (open_ : next.stored? = none)
      (ledger : b'.events.ledger = b.events.ledger)
  | rivalled {stored : Membership} (persisted : b.persisted? w loaded = none)
      (open_ : next.stored? = none) (found : b.events.membership? w.event = some stored)
      (ledger : b'.events.ledger = (b.events.remember w.event fun m => m.written).ledger)
  | written {snapshot changed stored : Membership} (was : loaded = .ok (some snapshot))
      (change : snapshot.change w.member w.joins = .ok changed)
      (found : b.events.membership? w.event = some stored)
      (version : snapshot.version = stored.version ∨ snapshot.version = stored.version + 1)
      (persisted : b.persisted? w loaded = some changed.written)
      (returned : next.stored? = some changed.written)
      (ledger : b'.events.ledger = (b.events.remember w.event fun _ => changed.written).ledger)

/-- A wish changes a membership only as one that was loaded. -/
theorem Wish.updated_eq_ok {w : Wish} {loaded : LoadedMembership} {m : Membership}
    (h : w.updated loaded = .ok m) :
    ∃ snapshot, loaded = .ok (some snapshot) ∧ snapshot.change w.member w.joins = .ok m := by
  unfold Wish.updated at h
  split at h
  · cases h
  · cases h
  · rename_i snapshot
    refine ⟨snapshot, rfl, ?_⟩
    cases hc : snapshot.change w.member w.joins with
    | error e =>
      rw [hc] at h
      cases h
    | ok changed =>
      rw [hc] at h
      cases h
      rfl

/-- What has just been loaded is what is stored. -/
theorem Subscription.snapshot?_step_loading {b : Backend} {w : Wish} {lag attempt : Nat} {s : Membership}
    (h : ((Subscription.loading attempt).step b w lag).1.snapshot? = some s) :
    b.events.membership? w.event = some s := by
  refine EventStore.membership?_of_load w.event ?_
  have hloaded : ((Subscription.loading attempt).step b w lag).1 =
      .loaded attempt (b.events.loadMembership w.event).1
        (.after b.now (loadTime lag (b.events.loadMembership w.event).1)) := rfl
  rw [hloaded] at h
  generalize b.events.loadMembership w.event = loaded at h ⊢
  obtain ⟨answer, events⟩ := loaded
  match answer with
  | .ok (some m) => exact congrArg (fun s => Except.ok (some s)) (Option.some.inj h)
  | .ok none | .error e => cases h

/-- A call that has written back, or failed to, holds what it loaded no longer. -/
theorem Subscription.snapshot?_step_loaded (b : Backend) (w : Wish) (lag attempt : Nat)
    (loaded : LoadedMembership) (timer : Timer) :
    ((Subscription.loaded attempt loaded timer).step b w lag).1.snapshot? = none := by
  rw [Subscription.step]
  split
  · rfl
  · split <;> rfl

theorem Subscription.step_loaded (b : Backend) (w : Wish) (lag attempt : Nat)
    (loaded : LoadedMembership) (timer : Timer)
    (keyed : ∀ snapshot, loaded = .ok (some snapshot) → snapshot.event = w.event) :
    WritesBack b ((Subscription.loaded attempt loaded timer).step b w lag).2 w loaded
      ((Subscription.loaded attempt loaded timer).step b w lag).1 := by
  rw [Subscription.step, Backend.writeBack]
  cases hupdated : w.updated loaded with
  | error e => exact .kept (by rw [Backend.persisted?, hupdated]) rfl rfl
  | ok changed =>
    obtain ⟨snapshot, hloaded, hchange⟩ := Wish.updated_eq_ok hupdated
    obtain ⟨hevent, -, hversion⟩ := Membership.change_keeps hchange
    have hkey : changed.event = w.event := hevent.trans (keyed snapshot hloaded)
    have hpersists := b.events.persistMembership_persists changed
    have hpersisted : b.persisted? w loaded =
        if (b.events.persistMembership changed).1 = .ok true then
          (b.events.persistMembership changed).2.membership? changed.event else none := by
      rw [Backend.persisted?, hupdated]
      show (match b.events.persistMembership changed with
        | (.ok true, events) => events.membership? changed.event
        | (.ok false, _) | (.error _, _) => none) = _
      split
      all_goals
        rename_i h
        simp [h]
    dsimp only
    generalize b.events.persistMembership changed = result at hpersists hpersisted ⊢
    obtain ⟨answer, events⟩ := result
    -- a refused write says nothing about why: a fault, another version, or a rival who got in first
    have refused : answer ≠ .ok true → ∀ {b' : Backend} {next : Subscription},
        b'.events = events → next.stored? = none → WritesBack b b' w loaded next := by
      intro hne b' next hb' hopen
      rw [if_neg hne] at hpersisted
      cases hpersists with
      | refused _ ledger => exact .kept hpersisted hopen (by rw [hb']; exact ledger)
      | rivalled _ found ledger =>
        rw [hkey] at found ledger
        exact .rivalled hpersisted hopen found (by rw [hb']; exact ledger)
      | written found version ledger => exact absurd rfl hne
    rcases answer with e | _ | _
    · exact refused (by simp) rfl rfl
    · dsimp only
      split
      · exact refused (by simp) rfl rfl
      · exact refused (by simp) rfl rfl
    · cases hpersists with
      | refused hne => exact absurd rfl hne
      | rivalled hne => exact absurd rfl hne
      | written found version ledger =>
        rw [hversion] at version
        have hafter : events.membership? changed.event = some changed.written := by
          rw [EventStore.membership?_congr ledger, EventStore.membership?_remember, found]
          rfl
        rw [if_pos rfl, hafter] at hpersisted
        rw [hkey] at found ledger
        exact .written hloaded hchange found version hpersisted rfl ledger

/-- Stored memberships go on naming their events. -/
theorem WritesBack.keyed {b b' : Backend} {w : Wish} {loaded : LoadedMembership} {next : Subscription}
    (h : WritesBack b b' w loaded next) (keyed : b.events.Keyed)
    (named : ∀ snapshot, loaded = .ok (some snapshot) → snapshot.event = w.event) : b'.events.Keyed := by
  cases h with
  | kept persisted open_ ledger => exact keyed.congr ledger
  | rivalled persisted open_ found ledger =>
    have hremembered : (b.events.remember w.event fun m => m.written).Keyed :=
      keyed.remember w.event fun m hm => hm
    exact hremembered.congr ledger
  | @written _ changed _ was change found version persisted returned ledger =>
    have hevent : changed.written.event = w.event := (Membership.change_keeps change).1.trans (named _ was)
    have hremembered : (b.events.remember w.event fun _ => changed.written).Keyed :=
      keyed.remember w.event fun _ _ => hevent
    exact hremembered.congr ledger

/-- Changes from outside that keep the events' memberships, apart from the limits of other events. -/
theorem Backend.change_membership (b : Backend) {c : Change} {event : EventId}
    {stored : Membership} (keyed : b.events.Keyed)
    (found : b.events.membership? event = some stored)
    (added : ∀ e, c = .addEvent e → e.membership.event = e.id)
    (fixed : ∀ capacity, c ≠ .setCapacity event capacity) :
    (b.change c).events.Keyed ∧ (b.change c).events.membership? event = some stored := by
  have unchanged : ∀ {id : EventId} {f : StoredEvent → StoredEvent},
      (∀ e, ((f e).id, (f e).membership) = (e.id, e.membership)) →
        (b.events.modify id f).Keyed ∧ (b.events.modify id f).membership? event = some stored := by
    intro id f hf
    have hledger : (b.events.modify id f).ledger = b.events.ledger :=
      EventStore.modify_map _ _ hf
    exact ⟨keyed.congr hledger, (EventStore.membership?_congr hledger event).trans found⟩
  cases c with
  | addEvent e =>
    constructor
    · intro d hd
      obtain hd | hd := List.mem_append.1 hd
      · exact keyed d hd
      · rw [List.mem_singleton.1 hd]
        exact added e rfl
    · obtain ⟨d, hd, rfl⟩ := Option.map_eq_some_iff.1 found
      show ((b.events.events ++ [e]).find? _).map _ = _
      rw [List.find?_append, show b.events.events.find? _ = some d from hd]
      rfl
  | setCapacity id capacity =>
    have hne : event ≠ id := fun heq => fixed capacity (heq ▸ rfl)
    constructor
    · show (b.events.remember id fun m => { m with capacity }).Keyed
      exact keyed.remember id fun m hm => hm
    · exact (EventStore.membership?_remember_other id hne fun m => { m with capacity }).trans found
  | endEvent id time => exact unchanged fun _ => rfl
  | deleteEvent id => exact unchanged fun _ => rfl
  | delayRecheck id time => exact unchanged fun _ => rfl
  | _ => exact ⟨keyed, found⟩

end Matchday

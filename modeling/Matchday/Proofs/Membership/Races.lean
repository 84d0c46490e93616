import Matchday.Proofs.Concurrent.History
import Matchday.Proofs.Membership.Ledger

/-!
Members who join and leave an event at the same time. Each call loads the membership, changes what it
loaded and writes it back; the write succeeds only in the version that was loaded. So the successful
writes are the changes of one membership, one after the other.

The invariant (`Machine.Serial`) says that a loaded membership is never newer than the stored one,
and is the stored one if it has the same version; that the stored one comes from the first one by the
changes that were written, in their order; and that each call has written what it returns, or nothing.

Main statement: `Machine.subscribe_linearizable`.
-/

namespace Matchday
set_option autoImplicit false

/-- A membership that was stored for a wish by a call. -/
structure Persist where
  call : TaskId
  wish : Wish
  stored : Membership

/-- The changes of a row of wishes, one after the other; the first that fails ends it. -/
def Membership.replay (m : Membership) (wishes : List Wish) : Except MembershipError Membership :=
  wishes.foldlM (fun m w => m.change w.member w.joins) m

namespace Machine

variable {m : Machine}

/-- The membership of an event that an action stores. -/
def persists (event : EventId) (m : Machine) : Action → List Persist
  | .step id _ =>
    match m.ready? id with
    | some (.subscription w _ (.loaded _ loaded _)) =>
      if w.event = event then
        ((m.backend.persisted? w loaded).map fun stored => ⟨id, w, stored⟩).toList
      else []
    | _ => []
  | _ => []

/-- What the calls that have returned a membership have stored, if each has stored what it returns. -/
def returned (id : TaskId) (w : Wish) (stage : Subscription) : List Persist :=
  (stage.stored?.map fun stored => ⟨id, w, stored⟩).toList

/-- The memberships of an event are stored one after the other. -/
structure Serial (event : EventId) (first stored : Membership) (history : List Persist) (length : Nat)
    (m : Machine) : Prop where
  keyed : m.backend.events.Keyed
  found : m.backend.events.membership? event = some stored
  valid : stored.Valid
  replay : first.replay (history.map (·.wish)) = .ok (stored.atVersion first.version)
  version : stored.version.toInt ≤ first.version.toInt + length
  loaded : ∀ id w lag stage, (id, .subscription w lag stage) ∈ m.tasks →
    ∀ snapshot, stage.snapshot? = some snapshot → snapshot.event = w.event ∧
      (w.event = event → snapshot.version.toInt ≤ stored.version.toInt ∧
        (snapshot.version = stored.version → snapshot = stored))
  calls : ∀ id w lag stage, (id, .subscription w lag stage) ∈ m.tasks → w.event = event →
    history.filter (·.call = id) = returned id w stage
  origin : ∀ p ∈ history, p.wish.event = event ∧ ∃ lag,
    (p.call, .subscription p.wish lag (.finished (.ok p.stored))) ∈ m.tasks

variable {event : EventId} {first stored : Membership} {history : List Persist} {length : Nat}

section Advance
variable {id : TaskId} {goOn : Bool} {w : Wish} {lag : Nat} {stage : Subscription}

/-- A call goes on by one step: it stores nothing, or what it returns, and the stored membership only
becomes newer. -/
theorem Serial.advance (h : m.Serial event first stored history length) (named : m.Named)
    (ready : m.ready? id = some (.subscription w lag stage)) {next : Subscription} {b : Backend}
    (step : stage.step m.backend w lag = (next, b)) {stored' : Membership} {added : List Persist}
    (keyed : b.events.Keyed) (found : b.events.membership? event = some stored')
    (valid : stored'.Valid)
    (replay : first.replay ((history ++ added).map (·.wish)) =
      .ok (stored'.atVersion first.version))
    (version : stored'.version.toInt ≤ first.version.toInt + (length + 1 : Nat))
    (newer : stored' = stored ∨ stored.version.toInt < stored'.version.toInt)
    (loaded : ∀ snapshot, next.snapshot? = some snapshot →
      snapshot.event = w.event ∧ (w.event = event → snapshot = stored'))
    (wrote : added = if w.event = event then returned id w next else []) :
    (m.carried id goOn (.subscription w lag stage)).Serial event first stored' (history ++ added)
      (length + 1) := by
  have hstep : (Task.subscription w lag stage).step m.backend goOn =
      (.subscription w lag next, b, false) := by
    rw [Task.step, step]
  have mem := mem_of_ready? ready
  have open_ : stage.result? = none := by
    have hfin : stage.result?.isSome = false := isFinished_of_ready? ready
    simpa using hfin
  have self := mem_carried_self goOn ready
  rw [hstep] at self
  have tasks : ∀ e ∈ (m.carried id goOn (.subscription w lag stage)).tasks,
      e = (id, .subscription w lag next) ∨ e ∈ m.tasks ∧ e.1 ≠ id := by
    intro e he
    obtain heq | hold | ⟨payment, hasked, -⟩ := mem_carried he
    · rw [hstep] at heq
      exact .inl heq
    · exact .inr hold
    · exact absurd hasked (by simp [Task.asks?])
  have hstored : stage.stored? = none := by
    cases stage with
    | finished result => exact absurd open_ (by simp [Subscription.result?])
    | _ => rfl
  have hcall : ∀ p ∈ added, p.call = id := by
    intro p hp
    rw [wrote] at hp
    split at hp
    · obtain ⟨stored, -, rfl⟩ := Option.map_eq_some_iff.1 (Option.mem_toList.1 hp)
      rfl
    · exact absurd hp List.not_mem_nil
  have hother : ∀ other : TaskId, other ≠ id → added.filter (·.call = other) = [] := by
    intro other hne
    refine List.filter_eq_nil_iff.2 fun p hp => ?_
    rw [hcall p hp]
    simpa using hne.symm
  refine ⟨by rw [carried_backend, hstep]; exact keyed, by rw [carried_backend, hstep]; exact found,
    valid, replay, version, ?_, ?_, ?_⟩
  · intro other w' lag' stage' hmem snapshot hsnapshot
    obtain heq | ⟨hmem, -⟩ := tasks _ hmem
    · injection heq with _ htask
      injection htask with hw _ hstage
      rw [hstage] at hsnapshot
      obtain ⟨hkey, hfresh⟩ := loaded snapshot hsnapshot
      rw [hw]
      refine ⟨hkey, fun hevent => ?_⟩
      rw [hfresh hevent]
      exact ⟨Int.le_refl _, fun _ => rfl⟩
    · obtain ⟨hkey, hold⟩ := h.loaded other w' lag' stage' hmem snapshot hsnapshot
      refine ⟨hkey, fun hevent => ?_⟩
      obtain ⟨hle, heq⟩ := hold hevent
      obtain rfl | hlt := newer
      · exact ⟨hle, heq⟩
      · refine ⟨by omega, fun hsame => ?_⟩
        rw [hsame] at hle
        omega
  · intro other w' lag' stage' hmem hevent
    rw [List.filter_append]
    obtain heq | ⟨hmem, hne⟩ := tasks _ hmem
    · injection heq with hid htask
      injection htask with hw _ hstage
      rw [hid, hw, hstage]
      rw [hw] at hevent
      have hnone : history.filter (·.call = id) = [] := by
        rw [h.calls id w lag stage mem hevent, returned, hstored]
        rfl
      have hall : added.filter (·.call = id) = added :=
        List.filter_eq_self.2 fun p hp => by simp [hcall p hp]
      rw [hnone, hall, wrote, if_pos hevent, List.nil_append]
    · rw [hother other hne, List.append_nil]
      exact h.calls other w' lag' stage' hmem hevent
  · intro p hp
    obtain hp | hp := List.mem_append.1 hp
    · obtain ⟨hevent, lag', hmem⟩ := h.origin p hp
      exact ⟨hevent, lag', named.mem_carried_of_isFinished ready hmem rfl⟩
    · rw [wrote] at hp
      split at hp
      · rename_i hevent
        obtain ⟨stored, hret, rfl⟩ := Option.map_eq_some_iff.1 (Option.mem_toList.1 hp)
        rw [Subscription.stored?_eq_some.1 hret] at self
        exact ⟨hevent, lag, self⟩
      · exact absurd hp List.not_mem_nil

/-- A call goes on that stores nothing, while the membership stays or a rival raises its version. -/
theorem Serial.unwritten (h : m.Serial event first stored history length) (named : m.Named)
    (ready : m.ready? id = some (.subscription w lag stage)) {next : Subscription} {b : Backend}
    (step : stage.step m.backend w lag = (next, b)) {stored' : Membership}
    (stays : stored' = stored ∨
      stored' = stored.written ∧ first.version.toInt + (length + 1 : Nat) < 2 ^ 63)
    (keyed : b.events.Keyed) (found : b.events.membership? event = some stored')
    (open_ : next.stored? = none)
    (loaded : ∀ snapshot, next.snapshot? = some snapshot →
      snapshot.event = w.event ∧ (w.event = event → snapshot = stored')) :
    (m.carried id goOn (.subscription w lag stage)).Serial event first stored' history
      (length + 1) := by
  have hversion := h.version
  have hnone : ([] : List Persist) = if w.event = event then returned id w next else [] := by
    rw [returned, open_]
    split <;> rfl
  rw [← List.append_nil history]
  obtain rfl | ⟨rfl, hfar⟩ := stays
  · refine h.advance named ready step keyed found h.valid ?_ (by omega) (.inl rfl) loaded hnone
    rw [List.append_nil]
    exact h.replay
  · have hnext := Membership.toInt_written (m := stored) (by omega)
    refine h.advance named ready step keyed found h.valid.written ?_ (by omega)
      (.inr (by omega)) loaded hnone
    rw [List.append_nil]
    exact h.replay

/-- The changes of a row of wishes and of one more. -/
theorem replay_concat {wishes : List Wish} {m changed : Membership} {version : Int64}
    (h : first.replay wishes = .ok (m.atVersion version))
    (change : m.change w.member w.joins = .ok changed) :
    first.replay (wishes ++ [w]) = .ok (changed.atVersion version) := by
  rw [Membership.replay] at h ⊢
  rw [List.foldlM_append, h]
  show List.foldlM (fun m w => Membership.change m w.member w.joins) (m.atVersion version) [w] = _
  rw [List.foldlM_cons, Membership.change_atVersion, change]
  rfl

/-- A call that has loaded a membership goes on. -/
theorem Serial.writesBack (h : m.Serial event first stored history length) (named : m.Named)
    {attempt : Nat} {loaded : LoadedMembership} {timer : Timer}
    (ready : m.ready? id = some (.subscription w lag (.loaded attempt loaded timer)))
    (far : first.version.toInt + (length + 1 : Nat) < 2 ^ 63) :
    ∃ stored', (m.carried id goOn (.subscription w lag (.loaded attempt loaded timer))).Serial event
      first stored' (history ++ m.persists event (.step id goOn)) (length + 1) := by
  have hversion := h.version
  have hloaded : ∀ snapshot, loaded = .ok (some snapshot) → snapshot.event = w.event ∧
      (w.event = event → snapshot.version.toInt ≤ stored.version.toInt ∧
        (snapshot.version = stored.version → snapshot = stored)) := by
    rintro snapshot rfl
    exact h.loaded id w lag _ (mem_of_ready? ready) snapshot rfl
  have hpersists : m.persists event (.step id goOn) = if w.event = event then
      ((m.backend.persisted? w loaded).map fun stored => (⟨id, w, stored⟩ : Persist)).toList
        else [] := by
    rw [persists, ready]
  have hwrites := Subscription.step_loaded m.backend w lag attempt loaded timer
    fun snapshot hs => (hloaded snapshot hs).1
  have hkeyed := hwrites.keyed h.keyed fun snapshot hs => (hloaded snapshot hs).1
  have hsnapshot := Subscription.snapshot?_step_loaded m.backend w lag attempt loaded timer
  generalize hstep : (Subscription.loaded attempt loaded timer).step m.backend w lag = after
    at hwrites hkeyed hsnapshot
  obtain ⟨next, b⟩ := after
  have hnone : ∀ {stored' : Membership}, ∀ snapshot, next.snapshot? = some snapshot →
      snapshot.event = w.event ∧ (w.event = event → snapshot = stored') := by
    intro stored' snapshot hs
    rw [show next.snapshot? = none from hsnapshot] at hs
    cases hs
  cases hwrites with
  | kept persisted open_ ledger =>
    have hempty : m.persists event (.step id goOn) = [] := by
      rw [hpersists, persisted]
      split <;> rfl
    rw [hempty, List.append_nil]
    refine ⟨stored, h.unwritten named ready hstep (.inl rfl) hkeyed ?_ open_ hnone⟩
    exact (EventStore.membership?_congr ledger event).trans h.found
  | rivalled persisted open_ found ledger =>
    have hempty : m.persists event (.step id goOn) = [] := by
      rw [hpersists, persisted]
      split <;> rfl
    rw [hempty, List.append_nil]
    have hfound := EventStore.membership?_congr ledger event
    by_cases hevent : w.event = event
    · refine ⟨stored.written, h.unwritten named ready hstep (.inr ⟨rfl, far⟩) hkeyed ?_ open_ hnone⟩
      rw [hfound, hevent, EventStore.membership?_remember, h.found]
      rfl
    · refine ⟨stored, h.unwritten named ready hstep (.inl rfl) hkeyed ?_ open_ hnone⟩
      rw [hfound, EventStore.membership?_remember_other w.event (Ne.symm hevent)]
      exact h.found
  | @written snapshot changed current was change found version persisted answered ledger =>
    obtain ⟨-, hold⟩ := hloaded snapshot was
    obtain ⟨-, -, hsame⟩ := Membership.change_keeps change
    have hfound := EventStore.membership?_congr ledger event
    by_cases hevent : w.event = event
    · rw [hevent, h.found] at found
      injection found with found
      rw [← found] at version
      obtain ⟨hle, hcurrent⟩ := hold hevent
      -- the version of a rival's write is newer than any that was loaded
      have hversions : snapshot.version = stored.version := by
        obtain hv | hv := version
        · exact hv
        · have hrival := Membership.toInt_written (m := stored) (by omega)
          rw [hv] at hle
          exact absurd (hrival.symm.trans_le hle) (by omega)
      have hsnapshot : snapshot = stored := hcurrent hversions
      rw [hsnapshot] at change hsame
      have hnext := Membership.toInt_written (m := changed) (by rw [hsame]; omega)
      rw [hsame] at hnext
      rw [hevent, EventStore.membership?_remember, h.found] at hfound
      have hwrote : m.persists event (.step id goOn) =
          if w.event = event then returned id w next else [] := by
        rw [hpersists, persisted, returned, show next.stored? = _ from answered]
      have hadded : m.persists event (.step id goOn) = [⟨id, w, changed.written⟩] := by
        rw [hpersists, persisted, if_pos hevent]
        rfl
      have hreplay : first.replay ((history ++ m.persists event (.step id goOn)).map Persist.wish) =
          .ok (changed.written.atVersion first.version) := by
        have hconcat := replay_concat h.replay change
        rw [hadded, List.map_append]
        exact hconcat
      exact ⟨changed.written, h.advance named ready hstep hkeyed hfound
        (h.valid.change change).written hreplay (by omega) (.inr (by omega)) hnone hwrote⟩
    · have hempty : m.persists event (.step id goOn) = [] := by rw [hpersists, if_neg hevent]
      rw [EventStore.membership?_remember_other w.event (Ne.symm hevent), h.found] at hfound
      have hreplay : first.replay ((history ++ []).map Persist.wish) =
          .ok (stored.atVersion first.version) := by
        rw [List.append_nil]
        exact h.replay
      rw [hempty]
      exact ⟨stored, h.advance named ready hstep hkeyed hfound h.valid hreplay (by omega) (.inl rfl)
        hnone (if_neg hevent).symm⟩

/-- A call goes on, whatever it is about to do. -/
theorem Serial.subscribed (h : m.Serial event first stored history length) (named : m.Named)
    (ready : m.ready? id = some (.subscription w lag stage))
    (far : first.version.toInt + (length + 1 : Nat) < 2 ^ 63) :
    ∃ stored', (m.carried id goOn (.subscription w lag stage)).Serial event first stored'
      (history ++ m.persists event (.step id goOn)) (length + 1) := by
  cases stage with
  | loaded attempt loaded timer => exact h.writesBack named ready far
  | finished result =>
    have hfin : (Task.subscription w lag (.finished result)).isFinished = false :=
      isFinished_of_ready? ready
    exact absurd hfin (by simp [Task.isFinished, Subscription.result?])
  | waiting timer =>
    have hempty : m.persists event (.step id goOn) = [] := by rw [persists, ready]
    rw [hempty, List.append_nil]
    exact ⟨stored, h.unwritten named ready rfl (.inl rfl) h.keyed h.found rfl
      fun snapshot hs => by cases hs⟩
  | loading attempt =>
    have hempty : m.persists event (.step id goOn) = [] := by rw [persists, ready]
    rw [hempty, List.append_nil]
    obtain ⟨faults, hload⟩ := m.backend.events.loadMembership_footprint w.event
    have hledger : (m.backend.events.loadMembership w.event).2.ledger =
        m.backend.events.ledger := by
      rw [hload]
      rfl
    refine ⟨stored, h.unwritten named ready rfl (.inl rfl) (h.keyed.congr hledger) ?_ rfl ?_⟩
    · exact (EventStore.membership?_congr hledger event).trans h.found
    · intro snapshot hs
      have hfound := Subscription.snapshot?_step_loading hs
      refine ⟨h.keyed.event_eq w.event hfound, fun hevent => ?_⟩
      rw [hevent, h.found] at hfound
      injection hfound with hfound
      exact hfound.symm

end Advance

/-! ## Runs -/

/-- A step of any other task leaves the membership and the calls that change it alone. -/
theorem Serial.passed (h : m.Serial event first stored history length) (named : m.Named)
    {id : TaskId} {goOn : Bool} {t : Task} (ready : m.ready? id = some t)
    (other : t.isSubscription = false) :
    (m.carried id goOn t).Serial event first stored history (length + 1) := by
  have hledger := t.step_ledger m.backend goOn other
  have old : ∀ {caller : TaskId} {w : Wish} {lag : Nat} {stage : Subscription},
      (caller, .subscription w lag stage) ∈ (m.carried id goOn t).tasks →
        (caller, .subscription w lag stage) ∈ m.tasks := by
    intro caller w lag stage hmem
    obtain heq | ⟨hmem, -⟩ | ⟨payment, -, -, heq⟩ := mem_carried hmem
    · injection heq with _ heq
      have hkind := t.isSubscription_step m.backend goOn
      rw [← heq, other] at hkind
      exact absurd hkind (by simp [Task.isSubscription])
    · exact hmem
    · injection heq with _ heq
      cases heq
  exact {
    keyed := by
      rw [carried_backend]
      exact h.keyed.congr hledger
    found := by
      rw [carried_backend]
      exact (EventStore.membership?_congr hledger event).trans h.found
    valid := h.valid
    replay := h.replay
    version := by
      have hversion := h.version
      omega
    loaded := fun id w lag stage hmem => h.loaded id w lag stage (old hmem)
    calls := fun id w lag stage hmem => h.calls id w lag stage (old hmem)
    origin := by
      intro p hp
      obtain ⟨hevent, lag, hmem⟩ := h.origin p hp
      exact ⟨hevent, lag, named.mem_carried_of_isFinished ready hmem rfl⟩ }

theorem Serial.calm (h : m.Serial event first stored history length) {m' : Machine} {a : Action}
    (calm : m.Calm m' a) (named' : m'.Named) (keyed : m'.backend.events.Keyed)
    (found : m'.backend.events.membership? event = some stored) :
    m'.Serial event first stored history (length + 1) where
  keyed := keyed
  found := found
  valid := h.valid
  replay := h.replay
  version := by
    have hversion := h.version
    omega
  loaded := by
    intro id w lag stage hmem snapshot hsnapshot
    obtain hold | ⟨c, -, hc⟩ := calm.old _ hmem rfl
    · exact h.loaded id w lag stage hold snapshot hsnapshot
    · obtain ⟨timer, rfl⟩ := Subscription.waiting_of_task hc
      cases hsnapshot
  calls := by
    intro id w lag stage hmem hevent
    obtain hold | ⟨c, -, hc⟩ := calm.old _ hmem rfl
    · exact h.calls id w lag stage hold hevent
    · obtain ⟨timer, rfl⟩ := Subscription.waiting_of_task hc
      refine List.filter_eq_nil_iff.2 fun p hp hcall => ?_
      -- a call that has stored something is done, and has one task only
      obtain ⟨-, lag', horigin⟩ := h.origin p hp
      have hstays := task?_of_mem named'.nodup (calm.stays _ horigin rfl)
      rw [of_decide_eq_true hcall, task?_of_mem named'.nodup hmem] at hstays
      injection hstays with htask
      injection htask with _ _ hstage
      cases hstage
  origin := by
    intro p hp
    obtain ⟨hevent, lag, hmem⟩ := h.origin p hp
    exact ⟨hevent, lag, calm.stays _ hmem rfl⟩

theorem persists_of_other {id : TaskId} {goOn : Bool} {t : Task} (ready : m.ready? id = some t)
    (other : t.isSubscription = false) : m.persists event (.step id goOn) = [] := by
  rw [persists, ready]
  cases t with
  | subscription w lag stage => exact absurd other (by simp [Task.isSubscription])
  | _ => rfl

theorem persists_of_calm {m' : Machine} {a : Action} (calm : m.Calm m' a) :
    m.persists event a = [] := by
  cases a with
  | step id goOn =>
    obtain hready | ⟨crew, mode, stage, hready⟩ := calm.ready?_cases
    · rw [persists, hready]
    · exact persists_of_other hready rfl
  | _ => rfl

theorem Serial.act (h : m.Serial event first stored history length) (named : m.Named) {a : Action}
    (added : ∀ e, a = .change (.addEvent e) → e.membership.event = e.id)
    (fixed : ∀ capacity, a ≠ .change (.setCapacity event capacity))
    (far : first.version.toInt + (length + 1 : Nat) < 2 ^ 63) :
    ∃ stored', (m.act a).Serial event first stored' (history ++ m.persists event a)
      (length + 1) := by
  obtain ⟨id, goOn, t, rfl, hready, -, heq⟩ | calm := act_cases named a
  · rw [heq]
    cases hsub : t.isSubscription with
    | true =>
      cases t with
      | subscription w lag stage => exact h.subscribed named hready far
      | _ => exact absurd hsub (by simp [Task.isSubscription])
    | false =>
      rw [persists_of_other hready hsub, List.append_nil]
      exact ⟨stored, h.passed named hready hsub⟩
  · rw [persists_of_calm calm, List.append_nil]
    obtain hevents | ⟨c, rfl, hevents⟩ := calm.events
    · refine ⟨stored, h.calm calm (named.act a) ?_ ?_⟩
      · rw [hevents]
        exact h.keyed
      · rw [hevents]
        exact h.found
    · obtain ⟨hkeyed, hfound⟩ := m.backend.change_membership h.keyed h.found
        (fun e hc => added e (congrArg Action.change hc))
        (fun capacity hc => fixed capacity (congrArg Action.change hc))
      refine ⟨stored, h.calm calm (named.act _) ?_ ?_⟩
      · rw [hevents]
        exact hkeyed
      · rw [hevents]
        exact hfound

theorem serial_run (b : Backend) (keyed : b.events.Keyed)
    (found : b.events.membership? event = some first) (valid : first.Valid)
    (actions : List Action)
    (added : ∀ e, .change (.addEvent e) ∈ actions → e.membership.event = e.id)
    (fixed : ∀ capacity, .change (.setCapacity event capacity) ∉ actions)
    (far : first.version.toInt + actions.length < 2 ^ 63) :
    ∃ stored, ((create b).run actions).Serial event first stored
      ((create b).trace (persists event) actions) actions.length := by
  induction actions using List.reverseRecOn with
  | nil =>
    refine ⟨first, keyed, found, valid, rfl, by simp, ?_, ?_, ?_⟩
    · exact fun _ _ _ _ hmem => absurd hmem List.not_mem_nil
    · exact fun _ _ _ _ hmem => absurd hmem List.not_mem_nil
    · exact fun _ hp => absurd hp List.not_mem_nil
  | append_singleton actions a ih =>
    rw [List.length_append, List.length_singleton] at far
    obtain ⟨stored, hserial⟩ := ih
      (fun e he => added e (List.mem_append_left _ he))
      (fun capacity hc => fixed capacity (List.mem_append_left _ hc)) (by omega)
    have hlast : a ∈ actions ++ [a] := List.mem_append_right _ (List.mem_singleton_self a)
    rw [run_concat, trace_concat, List.length_append, List.length_singleton]
    exact hserial.act (named_run b actions) (fun e he => added e (he ▸ hlast))
      (fun capacity hc => fixed capacity (hc ▸ hlast)) far

/-- Members may join and leave an event at the same time, in any order of the steps of their calls and
with any writers who raise the version in between, if nobody changes the event's limit and versions do
not run out. The stored membership is then valid at every moment. It comes from the first one by the
changes that were stored, one after the other in their order. A call that has returned a membership has
stored this membership and no other; one that has failed has stored nothing; and nothing was stored
but by a call that has returned. -/
theorem subscribe_linearizable (b : Backend) (event : EventId) (first : Membership)
    (keyed : b.events.Keyed) (found : b.events.membership? event = some first)
    (valid : first.Valid) (actions : List Action)
    (added : ∀ e, .change (.addEvent e) ∈ actions → e.membership.event = e.id)
    (fixed : ∀ capacity, .change (.setCapacity event capacity) ∉ actions)
    (far : first.version.toInt + actions.length < 2 ^ 63) :
    let m := (create b).run actions
    let history := (create b).trace (persists event) actions
    ∃ stored, m.backend.events.membership? event = some stored ∧
      (stored.Valid ∧ (∀ c, stored.capacity = some c → stored.busy ≤ c) ∧
        (stored.capacity ≠ none ∨ stored.participants.length < 2 ^ 31 →
          stored.busy.toInt = stored.participants.length)) ∧
      first.replay (history.map (·.wish)) = .ok (stored.atVersion first.version) ∧
      (∀ id w lag result, (id, .subscription w lag (.finished result)) ∈ m.tasks →
        w.event = event → history.filter (·.call = id) =
          match result with
          | .ok returned => [⟨id, w, returned⟩]
          | .error _ => []) ∧
      ∀ p ∈ history, p.wish.event = event ∧ ∃ lag,
        (p.call, .subscription p.wish lag (.finished (.ok p.stored))) ∈ m.tasks := by
  intro m history
  obtain ⟨stored, serial⟩ := serial_run b keyed found valid actions added fixed far
  refine ⟨stored, serial.found, ⟨serial.valid, fun c hc => serial.valid.busy_le hc,
    serial.valid.busy_eq⟩, serial.replay, ?_, serial.origin⟩
  intro id w lag result hmem hevent
  rw [serial.calls id w lag _ hmem hevent]
  cases result <;> rfl

/-! ## A race -/

/-- An event with two places. -/
def derby : StoredEvent :=
  let e := StoredEvent.create ⟨.repeated 1, "Stadium", none, none, .newYear⟩
  { e with membership := { e.membership with capacity := some 2 } }

/-- A fresh machine that keeps an event with two places. -/
def beforeRace : Backend := .small (EventStore.empty.insert derby) [] 0

/-- Two members join. Both load the membership before either writes, so the second has to load it
again. -/
def race : List Action :=
  let join := fun n => .call (.subscribe ⟨derby.id, .repeated n, true⟩ 0 0)
  let steps := fun n k => List.replicate k (.step (.call n) true)
  [join 1, join 2] ++ steps 0 2 ++ steps 1 2 ++ steps 0 1 ++ steps 1 3

theorem subscribe_linearizable_race :
    ∃ stored, ((create beforeRace).run race).backend.events.membership? derby.id = some stored ∧
      stored.Valid ∧ stored.participants.length = 2 := by
  have hvalid : derby.membership.Valid := by
    refine ⟨rfl, List.nodup_nil, fun c hc => ?_⟩
    injection hc with hc
    rw [← hc]
    decide
  obtain ⟨stored, hfound, ⟨hstored, -⟩, -⟩ := subscribe_linearizable beforeRace derby.id
    derby.membership (fun e he => by rw [List.mem_singleton.1 he]; rfl) rfl hvalid race
    (fun e he => absurd he (by simp [race]))
    (fun capacity => by simp [race]) (by decide)
  refine ⟨stored, hfound, hstored, ?_⟩
  have htwo : (((create beforeRace).run race).backend.events.membership? derby.id).map
      (·.participants.length) = some 2 := by rfl
  rw [hfound] at htwo
  injection htwo

end Machine

end Matchday

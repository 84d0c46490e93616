import Matchday.Proofs.Membership.Races

/-!
The limit of an event's places while members join and leave. Setting a limit does not raise the membership's
version, and a membership is written back whole, with the limit that it was loaded with. So a call that loaded the
membership before a limit was set can write it back afterwards, and undoes what was set
(`Machine.limit_undone`).

This is all that can go wrong: a limit that is written back was in force when the writing call loaded the
membership, so limits that are set are kept by every run in which none is set to another value while a call holds
what it has loaded.

Main statement: `Machine.limit_run`.
-/

namespace Matchday
set_option autoImplicit false

/-- The limit of an event's places, if the event is stored. -/
def EventStore.limit? (s : EventStore) (event : EventId) : Option (Option Int32) :=
  (s.membership? event).map (·.capacity)

theorem EventStore.limit?_eq {s : EventStore} {event : EventId} {m : Membership}
    (found : s.membership? event = some m) : s.limit? event = some m.capacity := by
  rw [limit?, found]
  rfl

/-! ## One step of a call -/

/-- A membership is stored with the limit that it was loaded with. -/
theorem Backend.capacity_of_persisted? {b : Backend} {w : Wish} {loaded : LoadedMembership} {stored : Membership}
    (keyed : ∀ snapshot, loaded = .ok (some snapshot) → snapshot.event = w.event)
    (h : b.persisted? w loaded = some stored) :
    ∃ snapshot, loaded = .ok (some snapshot) ∧ stored.capacity = snapshot.capacity := by
  cases Subscription.step_loaded b w 0 1 loaded (.after 0 0) keyed with
  | kept persisted | rivalled persisted =>
    rw [persisted] at h
    cases h
  | written was change found version persisted =>
    rw [persisted] at h
    injection h with h
    exact ⟨_, was, by rw [← h]; exact (Membership.change_keeps change).2.1⟩

/-- A call that writes back, or fails to, leaves an event with the limit that it has stored, if any. -/
theorem WritesBack.limit {b b' : Backend} {w : Wish} {loaded : LoadedMembership} {next : Subscription}
    (h : WritesBack b b' w loaded next) {event : EventId} {stored : Membership}
    (found : b.events.membership? event = some stored) :
    ∃ stored', b'.events.membership? event = some stored' ∧
      stored'.capacity =
        (if w.event = event then (b.persisted? w loaded).map (·.capacity) else none).getD stored.capacity := by
  cases h with
  | kept persisted open_ ledger =>
    refine ⟨stored, (EventStore.membership?_congr ledger event).trans found, ?_⟩
    rw [persisted]
    split <;> rfl
  | rivalled persisted open_ _ ledger =>
    have hfound := EventStore.membership?_congr ledger event
    rw [persisted]
    by_cases hevent : w.event = event
    · rw [hevent, EventStore.membership?_remember, found] at hfound
      exact ⟨stored.written, hfound, by rw [if_pos hevent]; rfl⟩
    · rw [EventStore.membership?_remember_other w.event (Ne.symm hevent), found] at hfound
      exact ⟨stored, hfound, by rw [if_neg hevent]; rfl⟩
  | @written snapshot changed _ was change _ version persisted returned ledger =>
    have hfound := EventStore.membership?_congr ledger event
    rw [persisted]
    by_cases hevent : w.event = event
    · rw [hevent, EventStore.membership?_remember, found] at hfound
      exact ⟨changed.written, hfound, by rw [if_pos hevent]; rfl⟩
    · rw [EventStore.membership?_remember_other w.event (Ne.symm hevent), found] at hfound
      exact ⟨stored, hfound, by rw [if_neg hevent]; rfl⟩

namespace Machine

variable {m : Machine} {event : EventId} {id : TaskId} {w : Wish} {lag : Nat} {goOn : Bool}

/-! ## Limits along a run -/

/-- The limit that an action sets for an event, and otherwise the one before it. -/
def setLimit (event : EventId) (limit : Option Int32) : Action → Option Int32
  | .change (.setCapacity id capacity) => if id = event then capacity else limit
  | _ => limit

/-- The limit that was set last. -/
def lastLimit (event : EventId) (limit : Option Int32) (actions : List Action) : Option Int32 :=
  actions.foldl (setLimit event) limit

theorem lastLimit_concat (event : EventId) (limit : Option Int32) (actions : List Action) (a : Action) :
    lastLimit event limit (actions ++ [a]) = setLimit event (lastLimit event limit actions) a :=
  List.foldl_append

/-- The limits with which an action stores an event's membership. -/
def brings (event : EventId) (m : Machine) (a : Action) : List (Option Int32) :=
  (m.persists event a).map (·.stored.capacity)

/-- The limits that an action writes back over another one. -/
def overwrites (event : EventId) (m : Machine) (a : Action) : List (Option Int32) :=
  (m.brings event a).filter fun limit => some limit ≠ m.backend.events.limit? event

/-- A call has loaded a membership and not yet written it back. -/
def Holds (m : Machine) (id : TaskId) (w : Wish) (s : Membership) : Prop :=
  ∃ lag stage, (id, .subscription w lag stage) ∈ m.tasks ∧ stage.snapshot? = some s

/-- Whether a task is a call that holds an event's membership with another limit. -/
def holdsOther (event : EventId) (limit : Option Int32) : Task → Bool
  | .subscription w _ stage => w.event = event && stage.snapshot?.any fun s => s.capacity ≠ limit
  | _ => false

/-- The limit that an action sets for an event while a call holds the membership with another one. -/
def unsettles (event : EventId) (m : Machine) : Action → List (Option Int32)
  | .change (.setCapacity id capacity) =>
    if id = event && m.tasks.any fun e => holdsOther event capacity e.2 then [capacity] else []
  | _ => []

/-- A call is about to load a membership. -/
def Loads (m : Machine) (a : Action) (id : TaskId) (w : Wish) (s : Membership) : Prop :=
  ∃ goOn lag attempt, a = .step id goOn ∧
    m.ready? id = some (.subscription w lag (.loading attempt)) ∧
      m.backend.events.membership? w.event = some s

theorem Loads.found {a : Action} {s : Membership} (h : m.Loads a id w s) :
    m.backend.events.membership? w.event = some s := by
  obtain ⟨-, -, -, -, -, hfound⟩ := h
  exact hfound

/-- What a call holds names the event of the call's wish, and so do all stored memberships theirs. -/
structure Labelled (m : Machine) : Prop where
  keyed : m.backend.events.Keyed
  held : ∀ id w s, m.Holds id w s → s.event = w.event

theorem brings_of_not_loaded {stage : Subscription} (ready : m.ready? id = some (.subscription w lag stage))
    (open_ : ∀ attempt loaded timer, stage ≠ .loaded attempt loaded timer) :
    m.brings event (.step id goOn) = [] := by
  rw [brings, persists, ready]
  cases stage with
  | loaded attempt loaded timer => exact absurd rfl (open_ attempt loaded timer)
  | _ => rfl

theorem brings_of_loaded {attempt : Nat} {loaded : LoadedMembership} {timer : Timer}
    (ready : m.ready? id = some (.subscription w lag (.loaded attempt loaded timer))) :
    m.brings event (.step id goOn) =
      (if w.event = event then (m.backend.persisted? w loaded).map (·.capacity) else none).toList := by
  rw [brings, persists, ready]
  show List.map _ (if w.event = event then _ else _) = _
  split
  · cases m.backend.persisted? w loaded <;> rfl
  · rfl

/-- A call brings the limit of what it holds. -/
theorem Labelled.held_of_brings (h : m.Labelled) {a : Action} {p : Persist} (mem : p ∈ m.persists event a) :
    (∃ goOn, a = .step p.call goOn) ∧ p.wish.event = event ∧
      ∃ s, m.Holds p.call p.wish s ∧ s.capacity = p.stored.capacity := by
  unfold persists at mem
  split at mem
  · rename_i id goOn
    split at mem
    · rename_i w lag attempt loaded timer hready
      split at mem
      · rename_i hevent
        obtain ⟨stored, hstored, rfl⟩ := Option.map_eq_some_iff.1 (Option.mem_toList.1 mem)
        have hholds : ∀ snapshot, loaded = .ok (some snapshot) → m.Holds id w snapshot := by
          rintro snapshot rfl
          exact ⟨lag, _, mem_of_ready? hready, rfl⟩
        obtain ⟨snapshot, hloaded, hcapacity⟩ := Backend.capacity_of_persisted?
          (fun snapshot hs => h.held id w snapshot (hholds snapshot hs)) hstored
        exact ⟨⟨goOn, rfl⟩, hevent, snapshot, hholds snapshot hloaded, hcapacity.symm⟩
      · exact absurd mem List.not_mem_nil
    · exact absurd mem List.not_mem_nil
  · exact absurd mem List.not_mem_nil

/-! ## One action -/

/-- What a call holds it has held before, or just loaded. -/
theorem holds_act (named : m.Named) {a : Action} {s : Membership} (h : (m.act a).Holds id w s) :
    m.Holds id w s ∨ m.Loads a id w s := by
  obtain ⟨lag, stage, hmem, hsnapshot⟩ := h
  obtain ⟨other, goOn, t, rfl, hready, -, heq⟩ | calm := act_cases named a
  · rw [heq] at hmem
    obtain hself | ⟨hold, -⟩ | ⟨payment, -, -, hsettles⟩ := mem_carried hmem
    · injection hself with hid htask
      subst hid
      have hkind := t.isSubscription_step m.backend goOn
      rw [← htask] at hkind
      cases t with
      | subscription w' lag' stage' =>
        injection htask with hw hlag hstage
        subst hw hlag hstage
        cases stage' with
        | waiting timer => cases hsnapshot
        | loading attempt =>
          exact .inr ⟨goOn, _, attempt, rfl, hready, Subscription.snapshot?_step_loading hsnapshot⟩
        | loaded attempt loaded timer =>
          have hwritten := Subscription.snapshot?_step_loaded m.backend w lag attempt loaded timer
          cases hwritten.symm.trans hsnapshot
        | finished result => cases hsnapshot
      | _ => cases hkind
    · exact .inl ⟨lag, stage, hold, hsnapshot⟩
    · cases congrArg Prod.snd hsettles
  · obtain hold | ⟨c, -, hc⟩ := calm.old _ hmem rfl
    · exact .inl ⟨lag, stage, hold, hsnapshot⟩
    · obtain ⟨timer, rfl⟩ := Subscription.waiting_of_task hc
      cases hsnapshot

/-- A step of a call leaves an event with the limit that it brings, if any. -/
theorem Labelled.limit_carried (h : m.Labelled) {stage : Subscription} {stored : Membership}
    (found : m.backend.events.membership? event = some stored)
    (ready : m.ready? id = some (.subscription w lag stage)) :
    (stage.step m.backend w lag).2.events.Keyed ∧
      ∃ stored', (stage.step m.backend w lag).2.events.membership? event = some stored' ∧
        stored'.capacity = (m.brings event (.step id goOn)).getLast?.getD stored.capacity := by
  cases stage with
  | waiting timer | finished result =>
    rw [brings_of_not_loaded ready nofun]
    exact ⟨h.keyed, stored, found, rfl⟩
  | loading attempt =>
    rw [brings_of_not_loaded ready nofun]
    obtain ⟨faults, hload⟩ := m.backend.events.loadMembership_footprint w.event
    have hledger : (m.backend.events.loadMembership w.event).2.ledger = m.backend.events.ledger := by
      rw [hload]
      rfl
    exact ⟨h.keyed.congr hledger, stored, (EventStore.membership?_congr hledger event).trans found, rfl⟩
  | loaded attempt loaded timer =>
    have hnamed : ∀ snapshot, loaded = .ok (some snapshot) → snapshot.event = w.event := by
      rintro snapshot rfl
      exact h.held id w snapshot ⟨lag, _, mem_of_ready? ready, rfl⟩
    have hwrites := Subscription.step_loaded m.backend w lag attempt loaded timer hnamed
    obtain ⟨stored', hstored, hlimit⟩ := hwrites.limit found
    refine ⟨hwrites.keyed h.keyed hnamed, stored', hstored, ?_⟩
    rw [brings_of_loaded ready, hlimit]
    cases (if w.event = event then (m.backend.persisted? w loaded).map (·.capacity) else none) <;> rfl

/-- A change from outside leaves an event with the limit that it sets, if any. -/
theorem Labelled.limit_change (h : m.Labelled) {stored : Membership}
    (found : m.backend.events.membership? event = some stored) {c : Change}
    (added : ∀ e, c = .addEvent e → e.membership.event = e.id) :
    (m.backend.change c).events.Keyed ∧
      ∃ stored', (m.backend.change c).events.membership? event = some stored' ∧
        stored'.capacity = setLimit event stored.capacity (.change c) := by
  by_cases hset : ∃ capacity, c = .setCapacity event capacity
  · obtain ⟨capacity, rfl⟩ := hset
    have hkeyed : (m.backend.events.remember event fun m => { m with capacity }).Keyed :=
      h.keyed.remember event fun m hm => hm
    have hremembered := EventStore.membership?_remember (s := m.backend.events) event
      fun m => { m with capacity }
    rw [found] at hremembered
    exact ⟨hkeyed, _, hremembered, (if_pos rfl).symm⟩
  · have hfixed : ∀ capacity, c ≠ .setCapacity event capacity := fun capacity hc => hset ⟨capacity, hc⟩
    obtain ⟨hkeyed, hfound⟩ := m.backend.change_membership h.keyed found added hfixed
    refine ⟨hkeyed, stored, hfound, ?_⟩
    cases c with
    | setCapacity id capacity =>
      have hne : id ≠ event := fun hid => hfixed capacity (congrArg (Change.setCapacity · capacity) hid)
      exact (if_neg hne).symm
    | _ => rfl

/-- An action leaves an event with the limit that it brings, or else the one that it sets, or else the one that
was in force. -/
theorem Labelled.limit_act (h : m.Labelled) (named : m.Named) {stored : Membership}
    (found : m.backend.events.membership? event = some stored) {a : Action}
    (added : ∀ e, a = .change (.addEvent e) → e.membership.event = e.id) :
    (m.act a).backend.events.Keyed ∧
      ∃ stored', (m.act a).backend.events.membership? event = some stored' ∧
        stored'.capacity = (m.brings event a).getLast?.getD (setLimit event stored.capacity a) := by
  by_cases hchange : ∃ c, a = .change c
  · obtain ⟨c, rfl⟩ := hchange
    exact h.limit_change found fun e hc => added e (congrArg Action.change hc)
  have hset : setLimit event stored.capacity a = stored.capacity := by
    cases a with
    | change c => exact absurd ⟨c, rfl⟩ hchange
    | _ => rfl
  rw [hset]
  obtain ⟨id, goOn, t, rfl, hready, -, heq⟩ | calm := act_cases named a
  · rw [heq, carried_backend]
    cases hsub : t.isSubscription with
    | true =>
      cases t with
      | subscription w lag stage => exact h.limit_carried found hready
      | _ => cases hsub
    | false =>
      have hledger := t.step_ledger m.backend goOn hsub
      rw [brings, persists_of_other hready hsub]
      exact ⟨h.keyed.congr hledger, stored, (EventStore.membership?_congr hledger event).trans found, rfl⟩
  · obtain hevents | ⟨c, hc, -⟩ := calm.events
    · rw [hevents, brings, persists_of_calm calm]
      exact ⟨h.keyed, stored, found, rfl⟩
    · exact absurd ⟨c, hc⟩ hchange

/-- An action brings at most one limit, and none if it is no step. -/
theorem brings_cases (event : EventId) (m : Machine) (a : Action) :
    m.brings event a = [] ∨
      ∃ brought, m.brings event a = [brought] ∧ ∀ limit, setLimit event limit a = limit := by
  unfold brings persists
  split
  · split
    · split
      · rename_i w _ _ loaded _ _ _
        cases m.backend.persisted? w loaded with
        | none => exact .inl rfl
        | some stored => exact .inr ⟨stored.capacity, rfl, fun _ => rfl⟩
      · exact .inl rfl
    · exact .inl rfl
  · exact .inl rfl

theorem overwrites_eq_nil_iff {stored : Membership} (found : m.backend.events.membership? event = some stored)
    (a : Action) : m.overwrites event a = [] ↔
      (m.brings event a).getLast?.getD (setLimit event stored.capacity a) = setLimit event stored.capacity a := by
  rw [overwrites, EventStore.limit?_eq found]
  obtain hnone | ⟨brought, hone, hset⟩ := brings_cases event m a
  · simp [hnone]
  · simp [hone, hset]

/-- A limit that is set is the one of all calls that hold the event's membership, unless it unsettles one. -/
theorem setLimit_of_unsettles {a : Action} (settled : m.unsettles event a = []) {s : Membership}
    (holds : m.Holds id w s) (names : w.event = event) : setLimit event s.capacity a = s.capacity := by
  unfold setLimit
  split
  · rename_i other capacity
    split
    · rename_i hid
      obtain ⟨lag, stage, hmem, hsnapshot⟩ := holds
      by_contra hne
      have hother : m.tasks.any (fun e => holdsOther event capacity e.2) = true := by
        refine List.any_eq_true.2 ⟨_, hmem, ?_⟩
        simp [holdsOther, names, hsnapshot, Ne.symm hne]
      simp [unsettles, hid, hother] at settled
    · rfl
  · rfl

/-! ## Runs -/

section Run
variable {b : Backend} {first : Membership}

/-- All along a run an event has a membership, and what a call holds was the stored membership when it was
loaded. -/
theorem holds_run (keyed : b.events.Keyed) (found : b.events.membership? event = some first)
    (actions : List Action) (added : ∀ e, .change (.addEvent e) ∈ actions → e.membership.event = e.id) :
    ((create b).run actions).Labelled ∧
      (∃ stored, ((create b).run actions).backend.events.membership? event = some stored) ∧
      ∀ id w s, ((create b).run actions).Holds id w s →
        ∃ before a between, actions = before ++ a :: between ∧ ((create b).run before).Loads a id w s := by
  induction actions using List.reverseRecOn with
  | nil =>
    have hnone : ∀ id w s, ¬ (create b).Holds id w s :=
      fun _ _ _ ⟨_, _, hmem, _⟩ => absurd hmem List.not_mem_nil
    exact ⟨⟨keyed, fun id w s h => absurd h (hnone id w s)⟩, ⟨first, found⟩,
      fun id w s h => absurd h (hnone id w s)⟩
  | append_singleton actions a ih =>
    obtain ⟨hlabelled, ⟨stored, hstored⟩, hloaded⟩ := ih fun e he => added e (List.mem_append_left _ he)
    have hnamed := named_run b actions
    have hlast : a ∈ actions ++ [a] := List.mem_append_right _ (List.mem_singleton_self a)
    obtain ⟨hkeyed, stored', hstored', -⟩ := hlabelled.limit_act hnamed hstored fun e he => added e (he ▸ hlast)
    rw [run_concat]
    refine ⟨⟨hkeyed, fun id w s h => ?_⟩, ⟨stored', hstored'⟩, fun id w s h => ?_⟩
    · obtain hold | ⟨_, _, _, _, _, hs⟩ := holds_act hnamed h
      · exact hlabelled.held id w s hold
      · exact hlabelled.keyed.event_eq w.event hs
    · obtain hold | hnew := holds_act hnamed h
      · obtain ⟨before, a', between, hsplit, hloads⟩ := hloaded id w s hold
        exact ⟨before, a', between ++ [a], by rw [hsplit, List.append_assoc, List.cons_append], hloads⟩
      · exact ⟨actions, a, [], rfl, hnew⟩

/-- What one more action makes of a limit. -/
theorem limit_run_concat (keyed : b.events.Keyed) (found : b.events.membership? event = some first)
    (actions : List Action) (a : Action)
    (added : ∀ e, .change (.addEvent e) ∈ actions ++ [a] → e.membership.event = e.id) :
    let m := (create b).run actions
    ∃ stored, m.backend.events.membership? event = some stored ∧
      ((create b).run (actions ++ [a])).backend.events.limit? event =
        some ((m.brings event a).getLast?.getD (setLimit event stored.capacity a)) := by
  intro m
  obtain ⟨hlabelled, ⟨stored, hstored⟩, -⟩ :=
    holds_run keyed found actions fun e he => added e (List.mem_append_left _ he)
  have hlast : a ∈ actions ++ [a] := List.mem_append_right _ (List.mem_singleton_self a)
  obtain ⟨-, stored', hstored', hlimit⟩ :=
    hlabelled.limit_act (named_run b actions) hstored fun e he => added e (he ▸ hlast)
  refine ⟨stored, hstored, ?_⟩
  rw [run_concat, EventStore.limit?_eq hstored', hlimit]

/-- All along a run the limit is the one that was set last, if and only if no call brings another one. -/
theorem limit_run_iff (keyed : b.events.Keyed) (found : b.events.membership? event = some first)
    (actions : List Action) (added : ∀ e, .change (.addEvent e) ∈ actions → e.membership.event = e.id) :
    (∀ earlier, earlier <+: actions → ((create b).run earlier).backend.events.limit? event =
      some (lastLimit event first.capacity earlier)) ↔ (create b).trace (overwrites event) actions = [] := by
  induction actions using List.reverseRecOn with
  | nil =>
    refine iff_of_true (fun earlier h => ?_) rfl
    rw [List.prefix_nil.1 h]
    exact EventStore.limit?_eq found
  | append_singleton actions a ih =>
    obtain ⟨stored, hstored, hnext⟩ := limit_run_concat keyed found actions a added
    rw [trace_concat, List.append_eq_nil_iff, ← ih fun e he => added e (List.mem_append_left _ he)]
    simp only [List.prefix_concat_iff, forall_eq_or_imp, hnext, Option.some.injEq]
    rw [and_comm]
    -- given the limit set last is in force, the action keeps it so if what it brings is the same
    refine and_congr_right fun hearlier => ?_
    have hset := hearlier actions (List.prefix_refl actions)
    rw [EventStore.limit?_eq hstored] at hset
    injection hset with hset
    rw [lastLimit_concat, ← hset, overwrites_eq_nil_iff hstored]

/-- If no limit is set while a call holds the membership with another one, all calls hold the limit in force. -/
theorem settled_run (keyed : b.events.Keyed) (found : b.events.membership? event = some first)
    (actions : List Action) (added : ∀ e, .change (.addEvent e) ∈ actions → e.membership.event = e.id)
    (settled : (create b).trace (unsettles event) actions = []) :
    (∀ id w s, ((create b).run actions).Holds id w s → w.event = event →
      ((create b).run actions).backend.events.limit? event = some s.capacity) ∧
      (create b).trace (overwrites event) actions = [] := by
  induction actions using List.reverseRecOn with
  | nil => exact ⟨fun _ _ _ ⟨_, _, hmem, _⟩ => absurd hmem List.not_mem_nil, rfl⟩
  | append_singleton actions a ih =>
    have hadded : ∀ e, .change (.addEvent e) ∈ actions → e.membership.event = e.id :=
      fun e he => added e (List.mem_append_left _ he)
    rw [trace_concat, List.append_eq_nil_iff] at settled
    obtain ⟨hheld, hkept⟩ := ih hadded settled.1
    obtain ⟨hlabelled, -⟩ := holds_run keyed found actions hadded
    obtain ⟨stored, hstored, hnext⟩ := limit_run_concat keyed found actions a added
    -- what is brought is held by a call, and so is the limit in force
    have hnone : ((create b).run actions).overwrites event a = [] := by
      refine List.filter_eq_nil_iff.2 fun limit hmem => ?_
      obtain ⟨p, hp, rfl⟩ := List.mem_map.1 hmem
      obtain ⟨-, hevent, s, hs, hcapacity⟩ := hlabelled.held_of_brings hp
      simp [hheld _ _ s hs hevent, hcapacity]
    rw [(overwrites_eq_nil_iff hstored a).1 hnone] at hnext
    rw [hnext, trace_concat, hkept, hnone]
    refine ⟨fun id w s h hevent => ?_, rfl⟩
    rw [run_concat] at h
    obtain hold | ⟨goOn, lag, attempt, rfl, -, hs⟩ := holds_act (named_run b actions) h
    · have hsame := hheld id w s hold hevent
      rw [EventStore.limit?_eq hstored] at hsame
      injection hsame with hsame
      rw [hsame, setLimit_of_unsettles settled.2 hold hevent]
    · rw [hevent, hstored] at hs
      injection hs with hs
      rw [← hs]
      rfl

end Run

/-- Members join and leave while an event's limit is set, in any order of the steps of their calls. All along the
run the limit in force is the one that was set last, if and only if no call writes back a membership with another
limit. Such a limit was in force before, when this call loaded the membership. None is written back if no limit
is set while a call that has loaded the membership with another one has not yet written it back. -/
theorem limit_run (b : Backend) (event : EventId) (first : Membership) (keyed : b.events.Keyed)
    (found : b.events.membership? event = some first) (actions : List Action)
    (added : ∀ e, .change (.addEvent e) ∈ actions → e.membership.event = e.id) :
    let after := (create b).run
    let limit := fun earlier => (after earlier).backend.events.limit? event
    ((∀ earlier, earlier <+: actions → limit earlier = some (lastLimit event first.capacity earlier)) ↔
      (create b).trace (overwrites event) actions = []) ∧
      (∀ earlier a, earlier ++ [a] <+: actions → ∀ p ∈ (after earlier).persists event a,
        ∃ before a' between s, earlier = before ++ a' :: between ∧ (after before).Loads a' p.call p.wish s ∧
          limit before = some p.stored.capacity) ∧
      ((create b).trace (unsettles event) actions = [] → (create b).trace (overwrites event) actions = []) := by
  intro after limit
  refine ⟨limit_run_iff keyed found actions added, fun earlier a h p hp => ?_,
    fun settled => (settled_run keyed found actions added settled).2⟩
  obtain ⟨hlabelled, -, hloaded⟩ := holds_run keyed found earlier
    fun e he => added e (h.subset (List.mem_append_left _ he))
  obtain ⟨-, hevent, s, hs, hcapacity⟩ := hlabelled.held_of_brings hp
  obtain ⟨before, a', between, hsplit, hloads⟩ := hloaded _ _ s hs
  have hstored := hloads.found
  rw [hevent] at hstored
  exact ⟨before, a', between, s, hsplit, hloads, by rw [← hcapacity]; exact EventStore.limit?_eq hstored⟩

/-! ## A limit that is set in between -/

/-- Somebody joins the derby, and the number of its places is set to one after so many steps of the call. -/
def joinAndLimit (steps : Nat) : List Action :=
  let step := Action.step (.call 0) true
  .call (.subscribe ⟨derby.id, .repeated 1, true⟩ 0 0) ::
    (List.replicate steps step ++ .change (.setCapacity derby.id (some 1)) :: List.replicate (3 - steps) step)

/-- Set between the load and the write, the limit is undone. -/
theorem limit_undone :
    lastLimit derby.id derby.membership.capacity (joinAndLimit 2) = some 1 ∧
      ((create beforeRace).run (joinAndLimit 2)).backend.events.limit? derby.id = some (some 2) ∧
      (create beforeRace).trace (overwrites derby.id) (joinAndLimit 2) = [some 2] :=
  ⟨rfl, rfl, rfl⟩

/-- Set before the load, it is kept. -/
theorem limit_run_settled :
    (create beforeRace).trace (unsettles derby.id) (joinAndLimit 1) = [] ∧
      ((create beforeRace).run (joinAndLimit 1)).backend.events.limit? derby.id = some (some 1) ∧
      ((create beforeRace).run (joinAndLimit 1)).backend.events.membership? derby.id =
        some ⟨derby.id, some 1, 1, [.repeated 1], 1⟩ := by
  have hkeyed : beforeRace.events.Keyed := fun e he => by rw [List.mem_singleton.1 he]; rfl
  have hsettled : (create beforeRace).trace (unsettles derby.id) (joinAndLimit 1) = [] := by rfl
  obtain ⟨hiff, -, hkept⟩ := limit_run beforeRace derby.id derby.membership hkeyed rfl (joinAndLimit 1)
    fun e he => absurd he (by simp [joinAndLimit])
  exact ⟨hsettled, hiff.2 (hkept hsettled) _ (List.prefix_refl _), by rfl⟩

end Machine

end Matchday

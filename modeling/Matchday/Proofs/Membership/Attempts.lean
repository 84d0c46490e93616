import Matchday.Proofs.Concurrent.History
import Matchday.Proofs.Membership.Ledger

/-!
A member joins or leaves while rivals write the same membership. Each attempt loads what the last rival has left
and is lost if another rival writes first. So the change is written by the first attempt that meets no rival, on
top of the versions of all rivals before it; and none is left to do so if there are as many rivals as attempts.

The induction is on the attempts that are left: a lost one is the whole call again, one rival fewer and the
membership one version later.

Main statement: `Backend.subscribe_alone`.
-/

namespace Matchday
set_option autoImplicit false

/-! ## Versions -/

namespace Membership

variable {m : Membership} {who : MemberId} {wanted : Bool} {k : Nat}

/-- The membership so many versions later. -/
def raised (m : Membership) (k : Nat) : Membership := m.atVersion (m.version + Int64.ofNat k)

theorem raised_zero (m : Membership) : m.raised 0 = m := by
  simp [raised, atVersion]

theorem raised_succ (m : Membership) (k : Nat) : m.raised (k + 1) = (m.raised k).written := by
  simp [raised, written, atVersion, Int64.ofNat_add, Int64.add_assoc]

theorem raised_written (m : Membership) (k : Nat) : m.written.raised k = m.raised (k + 1) := by
  simp [raised, written, atVersion, Int64.ofNat_add, Int64.add_assoc, Int64.add_comm 1]

/-- Versions that do not run out are counted. -/
theorem toInt_raised (h : m.version.toInt + k < 2 ^ 63) :
    (m.raised k).version.toInt = m.version.toInt + k := by
  induction k with
  | zero => simp [raised_zero]
  | succ k ih =>
    have hk := ih (by omega)
    rw [raised_succ, toInt_written (by omega), hk]
    omega

theorem written_version_ne (m : Membership) : m.written.version ≠ m.version := by
  simp [written]

/-- A change of the membership in the next version is the change, in the next version. -/
theorem change_written {changed : Membership} (h : m.change who wanted = .ok changed) :
    m.written.change who wanted = .ok changed.written := by
  have hversion := (change_keeps h).2.2
  have hwritten := m.change_atVersion (m.version + 1) who wanted
  rw [h] at hwritten
  show (m.atVersion (m.version + 1)).change who wanted = .ok (changed.atVersion (changed.version + 1))
  rw [hwritten, hversion]
  rfl

end Membership

/-! ## The calls of a store that does not refuse them -/

namespace EventStore

variable {s : EventStore} {id : EventId} {e : StoredEvent}

/-- The store refuses no load and no write of a membership. -/
structure Serves (s : EventStore) : Prop where
  isOpen : s.isClosed = false
  loads : s.faults.left .loadMembership = 0
  persists : s.faults.left .persistMembership = 0

theorem Serves.loadMembership_eq (h : s.Serves) (id : EventId) :
    s.loadMembership id = (.ok ((s.find? id).map (·.membership)), s) :=
  call_of_left_zero h.isOpen h.loads _ _

theorem remember_remember (s : EventStore) (id : EventId) (first second : Membership → Membership) :
    (s.remember id first).remember id second = s.remember id fun m => second (first m) := by
  simp only [remember, modify, List.map_map]
  congr 1
  refine List.map_congr_left fun e _ => ?_
  by_cases h : e.location.id = id <;> simp [StoredEvent.id, h]

theorem remember_id (s : EventStore) (id : EventId) : s.remember id (fun m => m) = s := by
  simp [remember, modify]

theorem find?_remember (found : s.find? id = some e) (change : Membership → Membership) :
    (s.remember id change).find? id = some { e with membership := change e.membership } := by
  obtain ⟨hget, hkept⟩ := Option.filter_eq_some_iff.1 found
  rw [find?, get?_remember, hget, Option.map_some, if_pos (id_of_get? id hget), Option.filter_some,
    if_pos hkept]

/-- Without a rival a membership is written if its version is the stored one. -/
theorem Serves.persistMembership_eq (h : s.Serves) {m : Membership} (found : s.find? m.event = some e)
    (version : e.membership.version = m.version) (alone : s.rivals = 0) :
    s.persistMembership m = (.ok true, s.remember m.event fun _ => m.written) := by
  rw [persistMembership, call_of_left_zero h.isOpen h.persists, yieldToRival, if_pos alone]
  simp [found, version]
  rfl

/-- A rival who writes first raises the version, and the membership is not written. -/
theorem Serves.persistMembership_rivalled (h : s.Serves) {m : Membership}
    (found : s.find? m.event = some e) (version : e.membership.version = m.version) {rivals : Nat}
    (rivalled : s.rivals = rivals + 1) :
    s.persistMembership m =
      (.ok false, { s.remember m.event fun m => m.written with rivals := rivals }) := by
  have hyield : s.yieldToRival m.event =
      { s.remember m.event fun m => m.written with rivals := rivals } := by
    rw [yieldToRival, rivalled, if_neg (Nat.succ_ne_zero rivals)]
    rfl
  have hfind : ({ s.remember m.event fun m => m.written with rivals := rivals } : EventStore).find? m.event =
      some { e with membership := e.membership.written } :=
    find?_remember found fun m => m.written
  have hlate : e.membership.written.version ≠ m.version := by
    rw [← version]
    exact e.membership.written_version_ne
  rw [persistMembership, call_of_left_zero h.isOpen h.persists]
  simp only [hyield, hfind, found]
  simp [hlate]

end EventStore

/-! ## Attempts -/

namespace Backend

variable {b : Backend} {w : Wish} {e : StoredEvent} {changed : Membership}

/-- The state in which an event has another membership, some rivals are left and some attempts, from one on, have
been lost. -/
def contended (b : Backend) (event : EventId) (change : Membership → Membership)
    (rivals attempt lost : Nat) : Backend :=
  { b with
    events := { b.events.remember event change with rivals }
    log := b.log ++ (List.range' attempt lost).map (.membershipChanged event) }

theorem contended_zero (b : Backend) (event : EventId) (change : Membership → Membership) (attempt : Nat) :
    b.contended event change b.events.rivals attempt 0 =
      { b with events := b.events.remember event change } := by
  rw [contended, List.range'_zero, List.map_nil, List.append_nil]
  rfl

/-- What follows a lost attempt. -/
theorem contended_contended (b : Backend) (event : EventId) (change : Membership → Membership)
    (left rivals attempt lost : Nat) :
    (b.contended event (fun m => m.written) left attempt 1).contended event change rivals (attempt + 1) lost =
      b.contended event (fun m => change m.written) rivals attempt (lost + 1) := by
  have hevents : ({ b.events.remember event fun m => m.written with rivals := left } : EventStore).remember
      event change =
        { (b.events.remember event fun m => m.written).remember event change with rivals := left } := rfl
  simp only [contended, hevents, EventStore.remember_remember, List.range'_succ, List.range'_zero,
    List.map_cons, List.map_nil, List.append_assoc, List.singleton_append]

/-- An attempt that meets no rival writes the change. -/
theorem writeBack_alone (serves : b.events.Serves) (found : b.events.find? w.event = some e)
    (keyed : e.membership.event = w.event) (change : e.membership.change w.member w.joins = .ok changed)
    (alone : b.events.rivals = 0) (attempt : Nat) :
    b.writeBack w attempt (.ok (some e.membership)) =
      (some (.ok changed.written), b.contended w.event (fun _ => changed.written) 0 attempt 0) := by
  obtain ⟨hevent, -, hversion⟩ := Membership.change_keeps change
  have hkey : changed.event = w.event := hevent.trans keyed
  have hpersist := serves.persistMembership_eq (m := changed) (by rw [hkey]; exact found) hversion.symm alone
  have hupdated : w.updated (.ok (some e.membership)) = .ok changed := by
    rw [Wish.updated, change]
    rfl
  have hwritten := b.contended_zero w.event (fun _ => changed.written) attempt
  rw [alone] at hwritten
  rw [writeBack, hupdated, hwritten]
  simp only [hpersist, hkey]

/-- An attempt is lost to a rival. -/
theorem writeBack_rivalled (serves : b.events.Serves) (found : b.events.find? w.event = some e)
    (keyed : e.membership.event = w.event) (change : e.membership.change w.member w.joins = .ok changed)
    {rivals : Nat} (rivalled : b.events.rivals = rivals + 1) (attempt : Nat) :
    b.writeBack w attempt (.ok (some e.membership)) =
      (none, b.contended w.event (fun m => m.written) rivals attempt 1) := by
  obtain ⟨hevent, -, hversion⟩ := Membership.change_keeps change
  have hkey : changed.event = w.event := hevent.trans keyed
  have hpersist := serves.persistMembership_rivalled (m := changed) (by rw [hkey]; exact found) hversion.symm
    rivalled
  have hupdated : w.updated (.ok (some e.membership)) = .ok changed := by
    rw [Wish.updated, change]
    rfl
  rw [writeBack, hupdated]
  simp only [hpersist, hkey]
  rfl

/-- What so many attempts come to: the change is written on top of the rivals' versions if there are fewer rivals
than attempts, and otherwise every attempt is lost to one. -/
theorem attempts_eq (serves : b.events.Serves) (found : b.events.find? w.event = some e)
    (keyed : e.membership.event = w.event) (change : e.membership.change w.member w.joins = .ok changed)
    (attempt left : Nat) :
    b.attempts w attempt left =
      if b.events.rivals < left then
        (.ok (changed.raised (b.events.rivals + 1)),
          b.contended w.event (fun _ => changed.raised (b.events.rivals + 1)) 0 attempt b.events.rivals)
      else
        (.error (.conflict w.event),
          b.contended w.event (fun m => m.raised left) (b.events.rivals - left) attempt left) := by
  induction left generalizing b e changed attempt with
  | zero =>
    have hnone : b.contended w.event (fun m => m.raised 0) b.events.rivals attempt 0 = b := by
      simp only [contended_zero, Membership.raised_zero, EventStore.remember_id]
    rw [if_neg (Nat.not_lt_zero _), Nat.sub_zero, hnone, attempts]
  | succ left ih =>
    have hload : b.loadMembership w.event = (.ok (some e.membership), b) := by
      rw [loadMembership, serves.loadMembership_eq, found]
      rfl
    rw [attempts, hload]
    cases hrivals : b.events.rivals with
    | zero =>
      simp only [writeBack_alone serves found keyed change hrivals attempt]
      rw [if_pos (Nat.succ_pos left), Membership.raised_succ, Membership.raised_zero]
    | succ rivals =>
      simp only [writeBack_rivalled serves found keyed change hrivals attempt]
      have hserves : (b.contended w.event (fun m => m.written) rivals attempt 1).events.Serves :=
        ⟨serves.isOpen, serves.loads, serves.persists⟩
      have hfound := EventStore.find?_remember found fun m => m.written
      have hnext := ih hserves hfound keyed (Membership.change_written change) (attempt + 1)
      have hleft : (b.contended w.event (fun m => m.written) rivals attempt 1).events.rivals = rivals := rfl
      rw [hnext, hleft]
      simp only [contended_contended, Membership.raised_written, Nat.add_lt_add_iff_right,
        Nat.add_sub_add_right]

/-- A change of a membership that nobody else works on but rivals, who each raise its version just before it is
written. Of an event that is unknown or deleted it says so, and if the rules forbid the change it says why; then
nothing has happened. Otherwise up to two rivals cost an attempt each, which is logged, and then the changed
membership is stored and returned, in the version behind theirs; from three rivals on the call gives up, and
nothing but the version has changed. All other events, and all else of this one, stay as they were. The log
is that of warnings and errors; it does not hold that a membership was updated. -/
theorem subscribe_alone (b : Backend) (w : Wish) (serves : b.events.Serves) (keyed : b.events.Keyed) :
    (b.events.find? w.event = none → b.subscribe w = (.error (.eventNotFound w.event), b)) ∧
      ∀ e, b.events.find? w.event = some e →
        (∀ cause, e.membership.change w.member w.joins = .error cause →
          b.subscribe w = (.error (.membership cause), b)) ∧
        ∀ changed, e.membership.change w.member w.joins = .ok changed →
          e.membership.version.toInt < 2 ^ 63 - 1 - 4 →
          let rivals := b.events.rivals
          (rivals ≤ 2 →
            let m := changed.raised (rivals + 1)
            m.version.toInt = e.membership.version.toInt + rivals + 1 ∧
              b.subscribe w = (.ok m, { b with
                events := { b.events.remember w.event fun _ => m with rivals := 0 }
                log := b.log ++ (List.range' 1 rivals).map (.membershipChanged w.event) }) ∧
              (b.subscribe w).2.events.membership? w.event = some m) ∧
          (3 ≤ rivals →
            (e.membership.raised 3).version.toInt = e.membership.version.toInt + 3 ∧
              b.subscribe w = (.error (.conflict w.event), { b with
                events := { b.events.remember w.event fun m => m.raised 3 with rivals := rivals - 3 }
                log := b.log ++ [1, 2, 3].map (.membershipChanged w.event) }) ∧
              (b.subscribe w).2.events.membership? w.event = some (e.membership.raised 3)) := by
  refine ⟨fun unknown => ?_, fun e found => ?_⟩
  · rw [subscribe, maxAttempts, attempts, loadMembership, serves.loadMembership_eq, unknown]
    rfl
  have hstored : b.events.membership? w.event = some e.membership := by
    rw [EventStore.membership?, EventStore.get?_of_find? w.event found]
    rfl
  refine ⟨fun cause forbidden => ?_, fun changed change far => ?_⟩
  · have hupdated : w.updated (.ok (some e.membership)) = .error (.membership cause) := by
      rw [Wish.updated, forbidden]
      rfl
    rw [subscribe, maxAttempts, attempts, loadMembership, serves.loadMembership_eq, found]
    simp only [writeBack, Option.map_some, hupdated]
  · intro rivals
    have hversion := (Membership.change_keeps change).2.2
    have hsubscribe : b.subscribe w = _ :=
      attempts_eq serves found (keyed.event_eq w.event hstored) change 1 maxAttempts
    have hafter : ∀ (f : Membership → Membership) (left : Nat),
        (b.contended w.event f left 1 rivals).events.membership? w.event = some (f e.membership) := by
      intro f left
      exact (EventStore.membership?_remember w.event f).trans (by rw [hstored]; rfl)
    refine ⟨fun few => ?_, fun many => ?_⟩
    · rw [if_pos (show b.events.rivals < maxAttempts by rw [maxAttempts]; omega)] at hsubscribe
      have hm := Membership.toInt_raised (m := changed) (k := rivals + 1) (by rw [hversion]; omega)
      refine ⟨by rw [hm, hversion]; omega, hsubscribe, ?_⟩
      rw [hsubscribe]
      exact hafter _ _
    · rw [if_neg (show ¬ b.events.rivals < maxAttempts by rw [maxAttempts]; omega)] at hsubscribe
      refine ⟨Membership.toInt_raised (k := 3) (by omega), hsubscribe, ?_⟩
      rw [hsubscribe]
      exact (EventStore.membership?_remember w.event fun m => m.raised 3).trans (by rw [hstored]; rfl)

/-! ## Rivals -/

/-- A state that keeps one event, whose membership so many rivals are about to write. -/
def besieged (rivals : Nat) : Backend := .small { EventStore.empty.insert .small with rivals } [] 0

/-- Somebody joins the event. -/
def joining : Wish := ⟨StoredEvent.small.id, .repeated 2, true⟩

/-- Two rivals are outlasted, and their versions are counted; four are not. -/
theorem subscribe_alone_besieged :
    (besieged 2).events.Serves ∧ (besieged 2).events.Keyed ∧ (besieged 4).events.Serves ∧
      (besieged 4).events.Keyed ∧ (besieged 2).events.find? joining.event = some .small ∧
      StoredEvent.small.membership.version.toInt < 2 ^ 63 - 1 - 4 ∧
      (∃ m, ((besieged 2).subscribe joining).1 = .ok m ∧ m.participants = [.repeated 2] ∧
        m.version.toInt = 3 ∧ ((besieged 2).subscribe joining).2.events.rivals = 0) ∧
      ((besieged 4).subscribe joining).1 = .error (.conflict joining.event) ∧
      ((besieged 4).subscribe joining).2.events.rivals = 1 := by
  have hserves : ∀ rivals, (besieged rivals).events.Serves := fun _ => ⟨rfl, rfl, rfl⟩
  have hkeyed : ∀ rivals, (besieged rivals).events.Keyed :=
    fun _ e he => by rw [List.mem_singleton.1 he]; rfl
  have hchange : StoredEvent.small.membership.change joining.member joining.joins =
      .ok (StoredEvent.small.membership.withParticipants [.repeated 2]) := by decide
  have far : StoredEvent.small.membership.version.toInt < 2 ^ 63 - 1 - 4 := by decide
  obtain ⟨hversion, htwo, -⟩ :=
    (((subscribe_alone (besieged 2) joining (hserves 2) (hkeyed 2)).2 _ rfl).2 _ hchange far).1 (by decide)
  obtain ⟨-, hfour, -⟩ :=
    (((subscribe_alone (besieged 4) joining (hserves 4) (hkeyed 4)).2 _ rfl).2 _ hchange far).2 (by decide)
  refine ⟨hserves 2, hkeyed 2, hserves 4, hkeyed 4, rfl, far, ⟨_, congrArg Prod.fst htwo, rfl, hversion, ?_⟩,
    congrArg Prod.fst hfour, ?_⟩
  · rw [htwo]
  · rw [hfour]
    rfl

end Backend

end Matchday

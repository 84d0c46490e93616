import Matchday.Proofs.Membership.Validity
import Matchday.Proofs.Wire.Identifiers
import Mathlib.Data.List.Perm.Basic

/-!
Two changes of a membership, one after the other. Joining is undone by leaving; leaving is undone by joining but
for the place in the list; and changes of two members can be exchanged, unless both join, which tells in the
list, or a place must first be freed.

Whether a change is apt depends on its member alone, so a change of another member leaves it apt; what is left
is whether there is room (`Membership.change_eq`). In a valid membership somebody who leaves makes room
(`Membership.Valid.isFull_left`).

Main statement: `Membership.change_algebra`.
-/

namespace Matchday.Membership
set_option autoImplicit false

variable {m m' : Membership} {who other : MemberId} {wanted wanted' : Bool}

/-! ## Another member -/

theorem mem_moved (hne : other ≠ who) (l : List MemberId) : other ∈ moved who wanted l ↔ other ∈ l := by
  cases wanted with
  | true => simp [moved, hne]
  | false => simp [moved, List.mem_erase_of_ne hne]

theorem apt_changed (hne : other ≠ who) :
    (m.changed who wanted).Apt other wanted' ↔ m.Apt other wanted' :=
  iff_congr (mem_moved hne m.participants) Iff.rfl

theorem moved_comm (hne : who ≠ other) (notBoth : ¬ (wanted = true ∧ wanted' = true)) (l : List MemberId) :
    moved other wanted' (moved who wanted l) = moved who wanted (moved other wanted' l) := by
  have erase_concat : ∀ {p q : MemberId}, p ≠ q → (l ++ [p]).erase q = l.erase q ++ [p] := by
    intro p q hpq
    by_cases hmem : q ∈ l
    · rw [List.erase_append_left _ hmem]
    · rw [List.erase_append_right _ hmem, List.erase_of_not_mem hmem, List.erase_of_not_mem]
      simpa using hpq.symm
  cases wanted with
  | true =>
    cases wanted' with
    | true => exact absurd ⟨rfl, rfl⟩ notBoth
    | false => exact erase_concat hne
  | false =>
    cases wanted' with
    | true => exact (erase_concat hne.symm).symm
    | false => exact List.erase_comm other who |>.symm

theorem moved_perm (hne : who ≠ other) (l : List MemberId) :
    (moved other wanted' (moved who wanted l)).Perm (moved who wanted (moved other wanted' l)) := by
  by_cases both : wanted = true ∧ wanted' = true
  · obtain ⟨rfl, rfl⟩ := both
    show (l ++ [who] ++ [other]).Perm (l ++ [other] ++ [who])
    rw [List.append_assoc, List.append_assoc]
    exact (List.Perm.swap other who []).append_left l
  · rw [moved_comm hne both]

/-! ## Room -/

theorem isFull_withParticipants {l l' : List MemberId} (h : l.length = l'.length) :
    (m.withParticipants l).isFull = (m.withParticipants l').isFull := by
  show m.capacity.any (fun c => c ≤ Int32.ofNat l.length) = m.capacity.any fun c => c ≤ Int32.ofNat l'.length
  rw [h]

/-- In a valid membership every place is taken if there are as many participants as places. -/
theorem Valid.isFull_iff (h : m.Valid) :
    m.isFull = true ↔ ∃ c, m.capacity = some c ∧ c.toInt = m.participants.length := by
  rw [isFull, Option.any_eq_true]
  refine exists_congr fun c => and_congr_right fun hc => ?_
  have hroom := h.room c hc
  rw [decide_eq_true_eq, Int32.le_iff_toInt_le, h.busy_eq (.inl (by simp [hc]))]
  omega

/-- Who leaves makes room. -/
theorem Valid.isFull_left (h : m.Valid) (mem : who ∈ m.participants) :
    (m.changed who false).isFull = false := by
  have hleft : m.change who false = .ok (m.changed who false) :=
    change_eq_ok_iff.2 ⟨iff_of_true mem rfl, rfl, rfl⟩
  refine Bool.eq_false_iff.2 fun hfull => ?_
  obtain ⟨c, hc, hcount⟩ := (h.change hleft).isFull_iff.1 hfull
  have hroom := h.room c hc
  have hpos := List.length_pos_of_mem mem
  have hlength : (m.changed who false).participants.length = m.participants.length - 1 :=
    List.length_erase_of_mem mem
  rw [hlength] at hcount
  omega

/-! ## Two changes -/

/-- One change and then another. -/
def changeBoth (m : Membership) (who : MemberId) (wanted : Bool) (other : MemberId) (wanted' : Bool) :
    Except MembershipError Membership :=
  (m.change who wanted).bind (·.change other wanted')

theorem changeBoth_eq_ok (hne : who ≠ other) {a : Membership}
    (ok : m.changeBoth who wanted other wanted' = .ok a) :
    m.Apt who wanted ∧ m.Apt other wanted' ∧ (wanted && m.isFull) = false ∧
      (wanted' && (m.changed who wanted).isFull) = false ∧
      a = m.withParticipants (moved other wanted' (moved who wanted m.participants)) := by
  unfold changeBoth at ok
  cases hfirst : m.change who wanted with
  | error e =>
    rw [hfirst] at ok
    cases ok
  | ok first =>
    rw [hfirst] at ok
    obtain ⟨hapt, hroom, rfl⟩ := change_eq_ok_iff.1 hfirst
    obtain ⟨hapt', hroom', rfl⟩ := change_eq_ok_iff.1 ok
    exact ⟨hapt, (apt_changed hne.symm).1 hapt', hroom, hroom', rfl⟩

/-- Two apt changes of different members fail only for want of room. -/
theorem changeBoth_of_apt (hne : who ≠ other) (apt : m.Apt who wanted) (apt' : m.Apt other wanted') :
    m.changeBoth who wanted other wanted' =
      if wanted && m.isFull then .error .atCapacity
      else if wanted' && (m.changed who wanted).isFull then .error .atCapacity
      else .ok ((m.changed who wanted).changed other wanted') := by
  rw [changeBoth, change_of_apt apt]
  split
  · rfl
  · exact change_of_apt ((apt_changed hne.symm).2 apt')

/-- Who joins and leaves again has changed nothing. -/
theorem Valid.change_back (h : m.Valid) (ok : m.change who true = .ok m') : m'.change who false = .ok m := by
  obtain ⟨hapt, -, rfl⟩ := change_eq_ok_iff.1 ok
  have hnew : who ∉ m.participants := fun hmem => absurd (hapt.1 hmem) (by simp)
  have hback : moved who false (moved who true m.participants) = m.participants := by
    simp [moved, List.erase_append_right, hnew]
  refine change_eq_ok_iff.2 ⟨iff_of_true (by simp [changed, moved, withParticipants]) rfl, rfl, ?_⟩
  show m = m.withParticipants (moved who false (moved who true m.participants))
  rw [hback, withParticipants, ← h.counted]

/-- Who leaves can join again, and is then the last in the list. -/
theorem Valid.change_again (h : m.Valid) (ok : m.change who false = .ok m') :
    m'.change who true = .ok { m with participants := m.participants.erase who ++ [who] } := by
  obtain ⟨hapt, -, rfl⟩ := change_eq_ok_iff.1 ok
  have hmem : who ∈ m.participants := hapt.2 rfl
  have hlength : (m.participants.erase who ++ [who]).length = m.participants.length := by
    have hpos := List.length_pos_of_mem hmem
    rw [List.length_append, List.length_erase_of_mem hmem, List.length_singleton]
    omega
  refine change_eq_ok_iff.2 ⟨iff_of_false h.distinct.not_mem_erase (by simp), ?_, ?_⟩
  · rw [h.isFull_left hmem, Bool.and_false]
  · show _ = m.withParticipants (m.participants.erase who ++ [who])
    rw [withParticipants, hlength, ← h.counted]

/-- What two members' changes come to does not depend on which is first, but for the order of the list. -/
theorem changeBoth_perm (hne : who ≠ other) {a b : Membership}
    (one : m.changeBoth who wanted other wanted' = .ok a)
    (two : m.changeBoth other wanted' who wanted = .ok b) :
    a = { b with participants := a.participants } ∧ a.participants.Perm b.participants := by
  obtain ⟨-, -, -, -, rfl⟩ := changeBoth_eq_ok hne one
  obtain ⟨-, -, -, -, rfl⟩ := changeBoth_eq_ok hne.symm two
  have hperm : (moved other wanted' (moved who wanted m.participants)).Perm
      (moved who wanted (moved other wanted' m.participants)) := moved_perm hne m.participants
  refine ⟨?_, hperm⟩
  rw [withParticipants, hperm.length_eq]
  rfl

theorem changeBoth_comm (hne : who ≠ other) (notBoth : ¬ (wanted = true ∧ wanted' = true)) {a b : Membership}
    (one : m.changeBoth who wanted other wanted' = .ok a)
    (two : m.changeBoth other wanted' who wanted = .ok b) : a = b := by
  obtain ⟨-, -, -, -, rfl⟩ := changeBoth_eq_ok hne one
  obtain ⟨-, -, -, -, rfl⟩ := changeBoth_eq_ok hne.symm two
  rw [moved_comm hne notBoth]

/-- Two members' changes succeed in one order only if one must free a place for the other. -/
theorem Valid.atCapacity_of_changeBoth (h : m.Valid) (hne : who ≠ other) {a : Membership} {e : MembershipError}
    (one : m.changeBoth who wanted other wanted' = .ok a)
    (two : m.changeBoth other wanted' who wanted = .error e) :
    e = .atCapacity ∧ m.isFull = true ∧ wanted = false ∧ wanted' = true := by
  obtain ⟨hapt, hapt', hroom, hroom', -⟩ := changeBoth_eq_ok hne one
  rw [changeBoth_of_apt hne.symm hapt' hapt] at two
  split at two
  · rename_i hfull
    obtain ⟨rfl, hevery⟩ := Bool.and_eq_true_iff.1 hfull
    rw [hevery, Bool.and_true] at hroom
    cases two
    exact ⟨rfl, hevery, hroom, rfl⟩
  split at two
  · rename_i hfull
    obtain ⟨rfl, hfull⟩ := Bool.and_eq_true_iff.1 hfull
    cases wanted' with
    | true =>
      -- two who join take as much room in either order
      have hsame : (m.changed who true).isFull = (m.changed other true).isFull :=
        isFull_withParticipants (by simp [moved])
      rw [hsame, hfull] at hroom'
      cases hroom'
    | false =>
      rw [h.isFull_left (hapt'.2 rfl)] at hfull
      cases hfull
  · cases two

/-- Who joins and leaves again has changed nothing. Who leaves can always join again, also where every place was
taken, and is then the last in the list. Changes of two members that succeed in both orders come to the same,
but for the order of the list if both join. If they succeed in one order only, it is because every place is
taken and the member who leaves must do so before the other joins. -/
theorem change_algebra (h : m.Valid) (who other : MemberId) :
    (∀ joined, m.change who true = .ok joined → joined.change who false = .ok m) ∧
      (∀ left, m.change who false = .ok left →
        left.change who true = .ok { m with participants := m.participants.erase who ++ [who] }) ∧
      (who ≠ other → ∀ wanted wanted',
        let one := m.changeBoth who wanted other wanted'
        let two := m.changeBoth other wanted' who wanted
        (∀ a b, one = .ok a → two = .ok b →
          (a = { b with participants := a.participants } ∧ a.participants.Perm b.participants) ∧
          (¬ (wanted = true ∧ wanted' = true) → a = b)) ∧
        ∀ a e, one = .ok a → two = .error e →
          e = .atCapacity ∧ m.isFull = true ∧ wanted = false ∧ wanted' = true) :=
  ⟨fun _ ok => h.change_back ok, fun _ ok => h.change_again ok, fun hne _ _ =>
    ⟨fun _ _ one two => ⟨changeBoth_perm hne one two, fun notBoth => changeBoth_comm hne notBoth one two⟩,
      fun _ _ one two => h.atCapacity_of_changeBoth hne one two⟩⟩

/-! ## A single place -/

/-- A single place, which is taken. -/
def oneOfOne : Membership := ⟨.repeated 0, some 1, 1, [.repeated 1], 7⟩

/-- Whoever has the place can leave and come back; another can join only after they have left. -/
theorem change_algebra_oneOfOne :
    oneOfOne.Valid ∧
      (oneOfOne.changed (.repeated 1) false).change (.repeated 1) true = .ok oneOfOne ∧
      oneOfOne.changeBoth (.repeated 1) false (.repeated 2) true =
        .ok (oneOfOne.withParticipants [.repeated 2]) ∧
      oneOfOne.changeBoth (.repeated 2) true (.repeated 1) false = .error .atCapacity ∧
      oneOfOne.isFull = true := by
  have hvalid : oneOfOne.Valid := by
    refine ⟨rfl, List.nodup_singleton _, fun c hc => ?_⟩
    injection hc with hc
    rw [← hc]
    decide
  obtain ⟨-, hback, hexchange⟩ := change_algebra hvalid (.repeated 1) (.repeated 2)
  obtain ⟨-, horder⟩ := hexchange (by decide) false true
  have hone : oneOfOne.changeBoth (.repeated 1) false (.repeated 2) true =
      .ok (oneOfOne.withParticipants [.repeated 2]) := by decide
  have htwo : oneOfOne.changeBoth (.repeated 2) true (.repeated 1) false = .error .atCapacity := by decide
  exact ⟨hvalid, hback _ (by decide), hone, htwo, (horder _ _ hone htwo).2.1⟩

end Matchday.Membership

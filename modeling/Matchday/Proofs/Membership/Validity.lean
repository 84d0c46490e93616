import Matchday.Subscription
import Mathlib.Algebra.Group.Int.Defs
import Mathlib.Algebra.Group.Nat.Defs
import Mathlib.Data.List.Nodup

/-!
What a change of a membership comes to (`Membership.change_eq`), and valid memberships: no participant
is listed twice, the places taken are counted, and there is room for everyone who takes part. Every
change of a valid membership that succeeds gives a valid one (`Membership.Valid.change`).
-/

namespace Matchday.Membership
set_option autoImplicit false

variable {m m' : Membership} {who : MemberId} {wanted : Bool}

/-! ## One change -/

/-- A list in which someone has joined, at its end, or left. -/
def moved (who : MemberId) (wanted : Bool) (l : List MemberId) : List MemberId :=
  if wanted then l ++ [who] else l.erase who

/-- The membership in which someone has joined or left. -/
def changed (m : Membership) (who : MemberId) (wanted : Bool) : Membership :=
  m.withParticipants (moved who wanted m.participants)

/-- Whether a change changes anything: who joins does not take part, who leaves does. -/
def Apt (m : Membership) (who : MemberId) (wanted : Bool) : Prop :=
  who ∈ m.participants ↔ wanted = false

instance (m : Membership) (who : MemberId) (wanted : Bool) : Decidable (m.Apt who wanted) :=
  inferInstanceAs (Decidable (_ ↔ _))

/-- A change fails if it is not apt, or if someone joins where there is no room. -/
theorem change_eq (m : Membership) (who : MemberId) (wanted : Bool) :
    m.change who wanted =
      if ¬ m.Apt who wanted then .error (if wanted then .alreadyMember else .notMember)
      else if wanted && m.isFull then .error .atCapacity
      else .ok (m.changed who wanted) := by
  cases wanted with
  | true =>
    show m.subscribe who = _
    simp [subscribe, isMember, Apt, changed, moved]
  | false =>
    show m.unsubscribe who = _
    simp [unsubscribe, isMember, Apt, changed, moved]

theorem change_eq_ok_iff : m.change who wanted = .ok m' ↔
    m.Apt who wanted ∧ (wanted && m.isFull) = false ∧ m' = m.changed who wanted := by
  rw [change_eq]
  by_cases hapt : m.Apt who wanted
  · cases hfull : wanted && m.isFull <;> simp [hapt, eq_comm]
  · simp [hapt]

theorem change_of_apt (apt : m.Apt who wanted) :
    m.change who wanted =
      if wanted && m.isFull then .error .atCapacity else .ok (m.changed who wanted) := by
  rw [change_eq, if_neg (not_not_intro apt)]

/-! ## Validity -/

/-- The participants are distinct and counted in 32 bits, and no more than there are places. -/
structure Valid (m : Membership) : Prop where
  counted : m.busy = Int32.ofNat m.participants.length
  distinct : m.participants.Nodup
  room : ∀ c, m.capacity = some c → (m.participants.length : Int) ≤ c.toInt

/-- The count is exact where there is a limit, and where there are fewer than 2³¹ participants. -/
theorem Valid.busy_eq (h : m.Valid)
    (small : m.capacity ≠ none ∨ m.participants.length < 2 ^ 31) :
    m.busy.toInt = m.participants.length := by
  have hlt : m.participants.length < 2 ^ 31 := by
    obtain hsome | hlt := small
    · obtain ⟨c, hc⟩ := Option.ne_none_iff_exists'.1 hsome
      have hroom := h.room c hc
      have hc := c.toInt_lt
      omega
    · exact hlt
  rw [h.counted, Int32.toInt_ofNat_of_lt hlt]

theorem Valid.busy_le (h : m.Valid) {c : Int32} (hc : m.capacity = some c) : m.busy ≤ c := by
  rw [Int32.le_iff_toInt_le, h.busy_eq (.inl (by simp [hc]))]
  exact h.room c hc

/-- A change that succeeds keeps a membership valid. -/
theorem Valid.change (h : m.Valid) (ok : m.change who wanted = .ok m') : m'.Valid := by
  obtain ⟨hapt, hroom, rfl⟩ := change_eq_ok_iff.1 ok
  cases wanted with
  | true =>
    have hnew : who ∉ m.participants := fun hmem => absurd (hapt.1 hmem) (by simp)
    refine ⟨rfl, ?_, fun c hc => ?_⟩
    · exact List.nodup_append.2 ⟨h.distinct, List.nodup_singleton who,
        fun a ha b hb hab => hnew (List.mem_singleton.1 hb ▸ hab ▸ ha)⟩
    · have hcap : m.capacity = some c := hc
      have hfree : ¬ c ≤ m.busy := by simpa [isFull, hcap] using hroom
      rw [Int32.le_iff_toInt_le, h.busy_eq (.inl (by simp [hcap]))] at hfree
      show ((m.participants ++ [who]).length : Int) ≤ c.toInt
      rw [List.length_append, List.length_singleton]
      omega
  | false =>
    refine ⟨rfl, h.distinct.erase who, fun c hc => ?_⟩
    have hroom := h.room c hc
    have hle : (m.participants.erase who).length ≤ m.participants.length := List.erase_sublist.length_le
    show ((m.participants.erase who).length : Int) ≤ c.toInt
    omega

/-! ## Versions -/

/-- The membership in another version. -/
def atVersion (m : Membership) (version : Int64) : Membership := { m with version }

theorem Valid.atVersion (h : m.Valid) (version : Int64) : (m.atVersion version).Valid :=
  ⟨h.counted, h.distinct, h.room⟩

theorem Valid.written (h : m.Valid) : m.written.Valid := h.atVersion _

/-- A version that is not the last one is followed by the next one. -/
theorem toInt_written (h : m.version.toInt + 1 < 2 ^ 63) :
    m.written.version.toInt = m.version.toInt + 1 := by
  have hge := m.version.le_toInt
  show (m.version + 1).toInt = m.version.toInt + 1
  rw [Int64.toInt_add, Int64.toInt_one]
  exact Int.bmod_eq_of_le (by omega) (by omega)

/-- What a change does does not depend on the version, and keeps it. -/
theorem change_atVersion (m : Membership) (version : Int64) (who : MemberId) (wanted : Bool) :
    (m.atVersion version).change who wanted =
      (m.change who wanted).map fun m' => m'.atVersion version := by
  rw [change_eq, change_eq]
  show (if ¬ m.Apt who wanted then _ else if wanted && m.isFull then _ else _) = _
  split
  · rfl
  · split <;> rfl

theorem change_keeps (ok : m.change who wanted = .ok m') :
    m'.event = m.event ∧ m'.capacity = m.capacity ∧ m'.version = m.version := by
  obtain ⟨-, -, rfl⟩ := change_eq_ok_iff.1 ok
  exact ⟨rfl, rfl, rfl⟩

end Matchday.Membership

import Matchday.Proofs.Membership.Validity
import Matchday.Proofs.Wire.Identifiers
import Mathlib.Data.List.Dedup
import Mathlib.Data.List.Induction

/-!
What a row of changes makes of a membership, whichever of them fail. Who takes part in the end, and in which
order, is told by the changes that succeed: those stay in front who were never let go, and behind them come
those who joined last, by the time of their latest joining.

The invariant is the order of the participants (`Membership.participants_changes`), which one more change keeps:
a member who joins goes to the end of both sides of the equation, and one who leaves is taken out of both.

Main statement: `Membership.changes_ledger`.
-/

namespace Matchday.Membership
set_option autoImplicit false

variable {m m' : Membership} {who other : MemberId} {wanted : Bool} {done : List (MemberId × Bool)}

/-- The changes of a row that succeed, in their order. -/
def successes (m : Membership) : List (MemberId × Bool) → List (MemberId × Bool)
  | [] => []
  | c :: row =>
    match m.change c.1 c.2 with
    | .ok m' => c :: m'.successes row
    | .error _ => m.successes row

/-- The direction of a member's last change. -/
def lastChange? (done : List (MemberId × Bool)) (who : MemberId) : Option Bool :=
  (done.filter fun c => c.1 = who).getLast?.map (·.2)

/-- Those who joined, in the order in which each of them joined for the last time. -/
def latestJoins (done : List (MemberId × Bool)) : List MemberId :=
  ((done.filter (·.2)).map (·.1)).dedup

/-- The participants who were never let go. -/
def stayers (m : Membership) (done : List (MemberId × Bool)) : List MemberId :=
  m.participants.filter fun who => (who, false) ∉ done

/-- Those whose last change was that they joined, in the order of these changes. -/
def joiners (done : List (MemberId × Bool)) : List MemberId :=
  (latestJoins done).filter fun who => lastChange? done who = some true

/-! ## One change -/

theorem participants_of_joined (ok : m.change who true = .ok m') :
    who ∉ m.participants ∧ m'.participants = m.participants ++ [who] := by
  obtain ⟨hapt, -, rfl⟩ := change_eq_ok_iff.1 ok
  exact ⟨fun hmem => absurd (hapt.1 hmem) (by simp), rfl⟩

theorem participants_of_left (ok : m.change who false = .ok m') :
    m'.participants = m.participants.erase who := by
  obtain ⟨-, -, rfl⟩ := change_eq_ok_iff.1 ok
  rfl

/-! ## One more change in a row -/

theorem changes_concat (m : Membership) (row : List (MemberId × Bool)) (c : MemberId × Bool) :
    m.changes (row ++ [c]) = ((m.changes row).change c.1 c.2).toOption.getD (m.changes row) :=
  List.foldl_append

theorem changes_cons (m : Membership) (c : MemberId × Bool) (row : List (MemberId × Bool)) :
    m.changes (c :: row) = ((m.change c.1 c.2).toOption.getD m).changes row :=
  rfl

theorem successes_concat (m : Membership) (row : List (MemberId × Bool)) (c : MemberId × Bool) :
    m.successes (row ++ [c]) = m.successes row ++ (m.changes row).successes [c] := by
  induction row generalizing m with
  | nil => rfl
  | cons first row ih =>
    rw [List.cons_append, successes, successes, changes_cons]
    cases hchange : m.change first.1 first.2 with
    | error e => exact ih m
    | ok m' => exact congrArg (first :: ·) (ih m')

/-- What holds of a membership before any change, and is kept by each change that succeeds, holds after a row
of changes. -/
theorem changes_invariant {P : Membership → List (MemberId × Bool) → Prop} (start : P m [])
    (step : ∀ m' done c m'', P m' done → m'.change c.1 c.2 = .ok m'' → P m'' (done ++ [c]))
    (row : List (MemberId × Bool)) : P (m.changes row) (m.successes row) := by
  induction row using List.reverseRecOn with
  | nil => exact start
  | append_singleton row c ih =>
    rw [changes_concat, successes_concat]
    cases hchange : (m.changes row).change c.1 c.2 with
    | error e =>
      have hnone : (m.changes row).successes [c] = [] := by
        rw [successes, hchange]
        rfl
      rw [hnone, List.append_nil]
      exact ih
    | ok m' =>
      have hone : (m.changes row).successes [c] = [c] := by
        rw [successes, hchange]
        rfl
      rw [hone]
      exact step _ _ c m' ih hchange

/-! ## The order of participants -/

theorem lastChange?_concat (done : List (MemberId × Bool)) (c : MemberId × Bool) (who : MemberId) :
    lastChange? (done ++ [c]) who = if c.1 = who then some c.2 else lastChange? done who := by
  by_cases h : c.1 = who <;> simp [lastChange?, List.filter_append, h]

theorem mem_of_lastChange? (h : lastChange? done who = some wanted) : (who, wanted) ∈ done := by
  obtain ⟨c, hc, rfl⟩ := Option.map_eq_some_iff.1 h
  obtain ⟨hmem, hwho⟩ := List.mem_filter.1 (List.mem_of_getLast? hc)
  rw [← of_decide_eq_true hwho]
  exact hmem

theorem lastChange?_eq_none_iff : lastChange? done who = none ↔ ∀ wanted, (who, wanted) ∉ done := by
  rw [lastChange?, Option.map_eq_none_iff, List.getLast?_eq_none_iff, List.filter_eq_nil_iff]
  constructor
  · exact fun h wanted hmem => h _ hmem (decide_eq_true rfl)
  · rintro h ⟨other, wanted⟩ hmem hother
    obtain rfl : other = who := of_decide_eq_true hother
    exact h wanted hmem

/-- Who joins once more moves to the end. -/
theorem dedup_concat (l : List MemberId) (who : MemberId) :
    (l ++ [who]).dedup = l.dedup.filter (· ≠ who) ++ [who] := by
  induction l with
  | nil => rfl
  | cons first l ih =>
    by_cases hmem : first ∈ l
    · rw [List.cons_append, List.dedup_cons_of_mem (List.mem_append_left _ hmem),
        List.dedup_cons_of_mem hmem, ih]
    · by_cases hwho : first = who
      · rw [List.cons_append, List.dedup_cons_of_mem (by simp [hwho]), List.dedup_cons_of_notMem hmem, ih,
          List.filter_cons_of_neg (by simp [hwho])]
      · rw [List.cons_append, List.dedup_cons_of_notMem (by simp [hmem, hwho]),
          List.dedup_cons_of_notMem hmem, ih, List.filter_cons_of_pos (by simp [hwho]), List.cons_append]

theorem joiners_joined (done : List (MemberId × Bool)) (who : MemberId) :
    joiners (done ++ [(who, true)]) = (joiners done).filter (· ≠ who) ++ [who] := by
  have hjoins : latestJoins (done ++ [(who, true)]) = (latestJoins done).filter (· ≠ who) ++ [who] := by
    simp only [latestJoins, List.filter_append, List.map_append]
    exact dedup_concat _ who
  rw [joiners, hjoins, List.filter_append, joiners, List.filter_filter, List.filter_filter]
  congr 1
  · refine List.filter_congr fun other _ => ?_
    by_cases h : who = other
    · simp [lastChange?_concat, h]
    · simp [lastChange?_concat, h, Ne.symm h]
  · simp [lastChange?_concat]

theorem joiners_left (done : List (MemberId × Bool)) (who : MemberId) :
    joiners (done ++ [(who, false)]) = (joiners done).filter (· ≠ who) := by
  have hjoins : latestJoins (done ++ [(who, false)]) = latestJoins done := by
    simp [latestJoins, List.filter_append]
  rw [joiners, hjoins, joiners, List.filter_filter]
  refine List.filter_congr fun other _ => ?_
  by_cases h : who = other
  · simp [lastChange?_concat, h]
  · simp [lastChange?_concat, h, Ne.symm h]

theorem stayers_joined (m : Membership) (done : List (MemberId × Bool)) (who : MemberId) :
    m.stayers (done ++ [(who, true)]) = m.stayers done := by
  simp [stayers]

theorem stayers_left (m : Membership) (done : List (MemberId × Bool)) (who : MemberId) :
    m.stayers (done ++ [(who, false)]) = (m.stayers done).filter (· ≠ who) := by
  rw [stayers, stayers, List.filter_filter]
  refine List.filter_congr fun other _ => ?_
  by_cases h : other = who <;> simp [h]

/-- Participants are distinct, those in front who were never let go and behind them those who joined last. -/
theorem participants_changes (distinct : m.participants.Nodup) (row : List (MemberId × Bool)) :
    (m.changes row).participants.Nodup ∧
      (m.changes row).participants = m.stayers (m.successes row) ++ joiners (m.successes row) := by
  refine changes_invariant (P := fun m' done => m'.participants.Nodup ∧
    m'.participants = m.stayers done ++ joiners done) ⟨distinct, ?_⟩ ?_ row
  · simp [stayers, joiners, latestJoins]
  · rintro m' done ⟨who, wanted⟩ m'' ⟨hdistinct, horder⟩ hchange
    cases wanted with
    | true =>
      obtain ⟨hnew, hparticipants⟩ := participants_of_joined hchange
      have hjoiners : (joiners done).filter (· ≠ who) = joiners done := by
        refine List.filter_eq_self.2 fun other hother => decide_eq_true fun heq => hnew ?_
        rw [horder, ← heq]
        exact List.mem_append_right _ hother
      rw [hparticipants]
      refine ⟨List.nodup_append.2 ⟨hdistinct, List.nodup_singleton who, ?_⟩, ?_⟩
      · rintro other hother _ hwho rfl
        exact hnew (List.mem_singleton.1 hwho ▸ hother)
      · rw [stayers_joined, joiners_joined, hjoiners, horder, List.append_assoc]
    | false =>
      have herase : m'.participants.erase who = m'.participants.filter (· ≠ who) := by
        rw [hdistinct.erase_eq_filter]
        exact List.filter_congr fun other _ => by by_cases h : other = who <;> simp [h]
      rw [participants_of_left hchange]
      refine ⟨hdistinct.erase who, ?_⟩
      rw [herase, horder, List.filter_append, stayers_left, joiners_left]

theorem mem_joiners : who ∈ joiners done ↔ lastChange? done who = some true := by
  rw [joiners, List.mem_filter, decide_eq_true_eq, and_iff_right_iff_imp]
  intro h
  rw [latestJoins, List.mem_dedup]
  exact List.mem_map.2 ⟨_, List.mem_filter.2 ⟨mem_of_lastChange? h, rfl⟩, rfl⟩

/-- Someone takes part whose last change was to join, or who took part before and had no change. -/
theorem mem_participants_iff (order : m'.participants = m.stayers done ++ joiners done) :
    who ∈ m'.participants ↔ lastChange? done who = some true ∨
      (lastChange? done who = none ∧ who ∈ m.participants) := by
  rw [order, List.mem_append, mem_joiners, stayers, List.mem_filter, decide_eq_true_eq, or_comm]
  refine or_congr_right' fun hno => ?_
  rw [and_comm, and_congr_left_iff]
  intro _
  constructor
  · intro hkept
    cases hlast : lastChange? done who with
    | none => rfl
    | some wanted =>
      cases wanted with
      | true => exact absurd hlast hno
      | false => exact absurd (mem_of_lastChange? hlast) hkept
  · exact fun hnone => lastChange?_eq_none_iff.1 hnone false

/-! ## Rows of changes -/

theorem Valid.changes (h : m.Valid) (row : List (MemberId × Bool)) : (m.changes row).Valid :=
  changes_invariant (P := fun m' _ => m'.Valid) h (fun _ _ _ _ hvalid ok => hvalid.change ok) row

theorem changes_keeps (m : Membership) (row : List (MemberId × Bool)) :
    (m.changes row).event = m.event ∧ (m.changes row).capacity = m.capacity ∧
      (m.changes row).version = m.version := by
  refine changes_invariant (P := fun m' _ => m'.event = m.event ∧ m'.capacity = m.capacity ∧
    m'.version = m.version) ⟨rfl, rfl, rfl⟩ ?_ row
  rintro m' _ _ m'' ⟨hevent, hcapacity, hversion⟩ ok
  obtain ⟨hevent', hcapacity', hversion'⟩ := change_keeps ok
  exact ⟨hevent'.trans hevent, hcapacity'.trans hcapacity, hversion'.trans hversion⟩

/-- A membership that is counted, whose participants are distinct and no more than there are places, stays so
through any row of changes, as long as an event without a limit has fewer than 2³¹ participants; its event, limit
and version stay the same. Those take part whose last change was to join, and those who took part before and
had no change; in front stand those of the first participants who were never let go, behind them the others
in the order of their latest joining. -/
theorem changes_ledger (m : Membership) (row : List (MemberId × Bool))
    (counted : m.busy.toInt = m.participants.length) (distinct : m.participants.Nodup)
    (room : ∀ c, m.capacity = some c → m.busy ≤ c)
    (small : m.capacity = none → (m.changes row).participants.length < 2 ^ 31) :
    let now := m.changes row
    let done := m.successes row
    now.busy.toInt = now.participants.length ∧ now.participants.Nodup ∧
      (∀ c, now.capacity = some c → now.busy ≤ c) ∧
      now.event = m.event ∧ now.capacity = m.capacity ∧ now.version = m.version ∧
      (∀ who, who ∈ now.participants ↔ lastChange? done who = some true ∨
        (lastChange? done who = none ∧ who ∈ m.participants)) ∧
      now.participants = (m.participants.filter fun who => (who, false) ∉ done) ++
        (latestJoins done).filter fun who => lastChange? done who = some true := by
  intro now done
  have hlt : m.participants.length < 2 ^ 31 := by
    have := m.busy.toInt_lt
    omega
  have hvalid : m.Valid := by
    refine ⟨?_, distinct, fun c hc => ?_⟩
    · rw [← Int32.toInt_inj, counted, Int32.toInt_ofNat_of_lt hlt]
    · rw [← counted, ← Int32.le_iff_toInt_le]
      exact room c hc
  obtain ⟨hevent, hcapacity, hversion⟩ := m.changes_keeps row
  obtain ⟨hdistinct, horder⟩ := participants_changes distinct row
  refine ⟨(hvalid.changes row).busy_eq ?_, hdistinct, fun c hc => (hvalid.changes row).busy_le hc, hevent,
    hcapacity, hversion, fun who => mem_participants_iff horder, horder⟩
  rw [hcapacity]
  by_cases hlimit : m.capacity = none
  · exact .inr (small hlimit)
  · exact .inl hlimit

/-! ## A full event -/

/-- Two places, one of them taken. -/
def oneOfTwo : Membership := ⟨.repeated 0, some 2, 1, [.repeated 1], 7⟩

/-- Someone joins, another finds no place, the first participant leaves, the other joins, and the first comes
back too late. -/
def crowding : List (MemberId × Bool) :=
  [(.repeated 2, true), (.repeated 3, true), (.repeated 1, false), (.repeated 3, true), (.repeated 1, true)]

theorem changes_ledger_crowding :
    oneOfTwo.busy.toInt = oneOfTwo.participants.length ∧ oneOfTwo.participants.Nodup ∧
      (∀ c, oneOfTwo.capacity = some c → oneOfTwo.busy ≤ c) ∧ oneOfTwo.capacity ≠ none ∧
      (oneOfTwo.successes crowding).length = 3 ∧ (oneOfTwo.changes crowding).busy ≤ 2 ∧
      (oneOfTwo.changes crowding).participants = [.repeated 2, .repeated 3] := by
  obtain ⟨-, -, hroom, -, hcapacity, -, -, horder⟩ := changes_ledger oneOfTwo crowding (by decide) (by decide)
    (by rintro c ⟨⟩; decide) nofun
  refine ⟨by decide, by decide, by rintro c ⟨⟩; decide, nofun, by decide, hroom 2 hcapacity, ?_⟩
  rw [horder]
  decide

end Matchday.Membership

import Matchday.Proofs.Concurrent.Lives
import Matchday.Proofs.Store.Events
import Matchday.Proofs.Store.Paid
import Matchday.Proofs.Subsystems.Steps

/-!
The subsystems do not interfere. Out of any run the actions of one subsystem can be picked, with the changes from
outside and the time that passes, and run alone: the subsystem sees the same in the end, and all its tasks have
come to the same.

The invariant relates the whole run to the picked one (`Machine.Mirrors`). An action of the subsystem is made on
both sides and does the same to what is seen; any other one is made in the whole run only, and is not seen.

Main statement: `Machine.subsystems_separate`.
-/

namespace Matchday
set_option autoImplicit false

/-! ## Picking a run -/

namespace Subsystem

/-- The number that a call has if only one subsystem's calls are made. -/
def place (k : Subsystem) (made : List (Option Subsystem)) (n : Nat) : Nat := (made.take n).count (some k)

/-- The name that a task has if only one subsystem's calls are made, if it is one of its tasks. -/
def name? (k : Subsystem) (made : List (Option Subsystem)) : TaskId → Option TaskId
  | .call n => if made[n]? = some (some k) then some (.call (k.place made n)) else none
  | .settlement payment => if k = payments then some (.settlement payment) else none

/-- The calls of a crew that are one subsystem's. -/
def crew (k : Subsystem) (made : List (Option Subsystem)) (crew : Crew) : Crew :=
  (crew.filter fun n => made[n]? = some (some k)).map (k.place made)

/-- An action as it is in a run of one subsystem alone, after some calls of all. -/
def pick (k : Subsystem) (made : List (Option Subsystem)) : Action → List Action
  | .change c => [.change c]
  | .call c => if c.subsystem? = some k then [.call c] else []
  | .step id goOn => (k.name? made id).toList.map fun id => .step id goOn
  | .cancel told => [.cancel (k.crew made told)]
  | .wait milliseconds => [.wait milliseconds]

end Subsystem

/-- The subsystems whose calls an action makes. -/
def Action.callers : Action → List (Option Subsystem)
  | call c => [c.subsystem?]
  | _ => []

/-- The subsystems of the calls of a run, in their order. -/
def callers (actions : List Action) : List (Option Subsystem) := actions.flatMap Action.callers

/-- The run of one subsystem alone, after some calls of all. -/
def Subsystem.alone (k : Subsystem) (made : List (Option Subsystem)) : List Action → List Action
  | [] => []
  | a :: actions => k.pick made a ++ k.alone (made ++ a.callers) actions

namespace Subsystem

variable {k : Subsystem} {made more : List (Option Subsystem)} {n n' : Nat} {id id' x x' : TaskId}

theorem name?_call (own : made[n]? = some (some k)) : k.name? made (.call n) = some (.call (k.place made n)) :=
  if_pos own

theorem place_lt (own : made[n]? = some (some k)) : k.place made n < made.count (some k) := by
  have hsplit : made.take (n + 1) = made.take n ++ [some k] := by
    rw [List.take_add_one, own]
    rfl
  have hle : (made.take (n + 1)).count (some k) ≤ made.count (some k) :=
    (List.take_sublist _ _).count_le _
  rw [hsplit, List.count_append, List.count_singleton_self] at hle
  exact hle

theorem place_lt_place (own : made[n]? = some (some k)) (h : n < n') : k.place made n < k.place made n' := by
  have hown : (made.take n')[n]? = some (some k) := by rw [List.getElem?_take_of_lt h, own]
  have htake : (made.take n').take n = made.take n := by rw [List.take_take, Nat.min_eq_left h.le]
  have hlt := place_lt hown
  rwa [place, htake] at hlt

theorem name?_inj (h : k.name? made id = some x) (h' : k.name? made id' = some x) : id = id' := by
  cases id with
  | settlement payment =>
    obtain ⟨-, h⟩ := Option.ite_none_right_eq_some.1 h
    cases h
    cases id' with
    | settlement other =>
      obtain ⟨-, h'⟩ := Option.ite_none_right_eq_some.1 h'
      injection h' with h'
      exact h'.symm
    | call n =>
      obtain ⟨-, h'⟩ := Option.ite_none_right_eq_some.1 h'
      cases h'
  | call n =>
    obtain ⟨hown, h⟩ := Option.ite_none_right_eq_some.1 h
    cases h
    cases id' with
    | settlement other =>
      obtain ⟨-, h'⟩ := Option.ite_none_right_eq_some.1 h'
      cases h'
    | call n' =>
      obtain ⟨hown', h'⟩ := Option.ite_none_right_eq_some.1 h'
      injection h' with h'
      injection h' with h'
      obtain hlt | rfl | hlt := Nat.lt_trichotomy n n'
      · exact absurd h' (place_lt_place hown hlt).ne'
      · rfl
      · exact absurd h' (place_lt_place hown' hlt).ne

theorem name?_ne (own : k.name? made id = some id') : id' ≠ .call (made.count (some k)) := by
  cases id with
  | settlement payment =>
    obtain ⟨-, h⟩ := Option.ite_none_right_eq_some.1 own
    cases h
    exact TaskId.noConfusion
  | call n =>
    obtain ⟨hown, h⟩ := Option.ite_none_right_eq_some.1 own
    cases h
    intro heq
    exact absurd (TaskId.call.inj heq) (place_lt hown).ne

theorem name?_append (own : k.name? made id = some x) (more : List (Option Subsystem)) :
    k.name? (made ++ more) id = some x := by
  cases id with
  | settlement payment => exact own
  | call n =>
    obtain ⟨hown, hplace⟩ := Option.ite_none_right_eq_some.1 own
    have hlt : n < made.length := (List.getElem?_eq_some_iff.1 hown).1
    have hown' : (made ++ more)[n]? = some (some k) := by rw [List.getElem?_append_left hlt, hown]
    rw [name?_call hown', place, List.take_append_of_le_length hlt.le]
    exact hplace

/-- A task that has a name after one more call, had it before, or is that of the call. -/
theorem name?_concat {j : Option Subsystem} (own : k.name? (made ++ [j]) id = some id') :
    k.name? made id = some id' ∧ id ≠ .call made.length ∨
      j = some k ∧ id = .call made.length ∧ id' = .call (made.count (some k)) := by
  cases id with
  | settlement payment => exact .inl ⟨own, TaskId.noConfusion⟩
  | call n =>
    obtain ⟨hown, hname⟩ := Option.ite_none_right_eq_some.1 own
    obtain hlt | rfl | hlt := Nat.lt_trichotomy n made.length
    · rw [List.getElem?_append_left hlt] at hown
      refine .inl ⟨?_, fun heq => absurd (TaskId.call.inj heq) hlt.ne⟩
      rw [← own, name?_append (name?_call hown), name?_call hown]
    · rw [List.getElem?_concat_length] at hown
      injection hown with hown
      injection hname with hname
      rw [place, List.take_left'] at hname
      · exact .inr ⟨hown, rfl, hname.symm⟩
      · rfl
    · have hlt' : n < (made ++ [j]).length := (List.getElem?_eq_some_iff.1 hown).1
      rw [List.length_append, List.length_singleton] at hlt'
      omega

theorem name?_eq_settlement_iff (own : k.name? made id = some id') (payment : PaymentId) :
    id' = .settlement payment ↔ id = .settlement payment := by
  cases id with
  | call n =>
    obtain ⟨-, h⟩ := Option.ite_none_right_eq_some.1 own
    cases h
    exact ⟨TaskId.noConfusion, TaskId.noConfusion⟩
  | settlement other =>
    obtain ⟨-, h⟩ := Option.ite_none_right_eq_some.1 own
    cases h
    exact Iff.rfl

end Subsystem

/-! ## The whole run and the picked one -/

namespace Machine

open Subsystem

/-- A machine `m'` on which only one subsystem was at work mirrors a machine `m` on which all were, after some
calls of all: the subsystem sees the same, and its tasks have come to the same. -/
structure Mirrors (k : Subsystem) (made : List (Option Subsystem)) (m m' : Machine) : Prop where
  named : m.Named
  named' : m'.Named
  calls : m.calls = made.length
  calls' : m'.calls = made.count (some k)
  view : k.view m'.backend = k.view m.backend
  owner : ∀ n t, m.task? (.call n) = some t → made[n]? = some t.subsystem?
  tasks : ∀ id id', k.name? made id = some id' → m'.task? id' = m.task? id

variable {k : Subsystem} {made : List (Option Subsystem)} {m m' : Machine}

theorem mirrors_create (k : Subsystem) (b : Backend) : (create b).Mirrors k [] (create b) where
  named := named_create b
  named' := named_create b
  calls := rfl
  calls' := rfl
  view := rfl
  owner := fun _ _ h => nomatch h
  tasks := fun _ _ _ => rfl

namespace Mirrors

/-- The subsystem of a task is that of its call, or settles payments. -/
theorem subsystem?_eq (h : m.Mirrors k made m') {id id' : TaskId} {t : Task} (ht : m.task? id = some t)
    (own : k.name? made id = some id') : t.subsystem? = some k := by
  cases id with
  | call n =>
    obtain ⟨hown, -⟩ := Option.ite_none_right_eq_some.1 own
    rw [h.owner n t ht] at hown
    injection hown
  | settlement payment =>
    obtain ⟨rfl, -⟩ := Option.ite_none_right_eq_some.1 own
    have hkind := h.named.settlement_kind payment t (mem_of_task? ht)
    cases t with
    | settlement other stage => rfl
    | _ => cases hkind

/-- Another subsystem's task, if no call closes. -/
theorem exists_other (h : m.Mirrors k made m') (apart : none ∉ made) {id : TaskId} {t : Task}
    (ht : m.task? id = some t) (others : k.name? made id = none) : ∃ j, t.subsystem? = some j ∧ k ≠ j := by
  cases id with
  | call n =>
    have howner := h.owner n t ht
    cases hj : t.subsystem? with
    | none =>
      rw [hj] at howner
      exact absurd (List.mem_of_getElem? howner) apart
    | some j =>
      refine ⟨j, rfl, ?_⟩
      rintro rfl
      rw [hj] at howner
      rw [name?_call howner] at others
      cases others
  | settlement payment =>
    have hkind := h.named.settlement_kind payment t (mem_of_task? ht)
    refine ⟨payments, ?_, ?_⟩
    · cases t with
      | settlement other stage => rfl
      | _ => cases hkind
    · rintro rfl
      cases others

theorem now_eq (h : m.Mirrors k made m') : m'.now = m.now := by
  have hnow := congrArg Backend.now h.view
  rwa [now_view, now_view] at hnow

/-! ### Changes, time and calls -/

theorem change (h : m.Mirrors k made m') (c : Change) :
    (m.modify (·.change c)).Mirrors k made (m'.modify (·.change c)) where
  named := h.named.act (.change c)
  named' := h.named'.act (.change c)
  calls := h.calls
  calls' := h.calls'
  view := by
    show k.view (m'.backend.change c) = k.view (m.backend.change c)
    rw [← view_change, h.view, view_change]
  owner := h.owner
  tasks := h.tasks

theorem wait (h : m.Mirrors k made m') (milliseconds : Nat) :
    (m.setTime (m.now + milliseconds)).Mirrors k made (m'.setTime (m'.now + milliseconds)) where
  named := h.named.act (.wait milliseconds)
  named' := h.named'.act (.wait milliseconds)
  calls := h.calls
  calls' := h.calls'
  view := by
    show k.view { m'.backend with now := m'.now + milliseconds } =
      k.view { m.backend with now := m.now + milliseconds }
    rw [view_setTime, h.view, h.now_eq]
    exact (view_setTime k m.backend _).symm
  owner := h.owner
  tasks := h.tasks

theorem task?_call (named : m.Named) (c : Call) (id : TaskId) :
    (m.call c).task? id = if id = .call m.calls then some (c.task m.now) else m.task? id := by
  show (m.spawn (.call m.calls) (c.task m.now)).task? id = _
  rw [task?_spawn]
  by_cases hid : id = .call m.calls
  · have hnone : m.task? id = none := by
      cases ht : m.task? id with
      | none => rfl
      | some t =>
        have hname : .call m.calls ∈ m.names := List.mem_map.2 ⟨(id, t), mem_of_task? ht, hid⟩
        exact absurd (named.call_lt _ hname) (Nat.lt_irrefl _)
    rw [if_pos hid, if_pos hid, hnone, Option.none_or]
  · rw [if_neg hid, if_neg hid, Option.or_none]

theorem owner_call (h : m.Mirrors k made m') (c : Call) (n : Nat) (t : Task)
    (ht : (m.call c).task? (.call n) = some t) : (made ++ [c.subsystem?])[n]? = some t.subsystem? := by
  rw [task?_call h.named] at ht
  by_cases hn : n = m.calls
  · rw [if_pos (congrArg TaskId.call hn)] at ht
    injection ht with ht
    rw [← ht, Call.subsystem?_task, hn, h.calls, List.getElem?_concat_length]
  · rw [if_neg fun heq => hn (TaskId.call.inj heq)] at ht
    have howner := h.owner n t ht
    have hlt : n < made.length := (List.getElem?_eq_some_iff.1 howner).1
    rw [List.getElem?_append_left hlt, howner]

theorem call_own (h : m.Mirrors k made m') {c : Call} (own : c.subsystem? = some k) :
    (m.call c).Mirrors k (made ++ [c.subsystem?]) (m'.call c) where
  named := h.named.call c
  named' := h.named'.call c
  calls := by
    rw [List.length_append, ← h.calls]
    rfl
  calls' := by
    rw [own, List.count_append, List.count_singleton_self, ← h.calls']
    rfl
  view := h.view
  owner := h.owner_call c
  tasks := by
    intro id id' hname
    rw [task?_call h.named, task?_call h.named', h.now_eq]
    obtain ⟨hname, hne⟩ | ⟨-, rfl, rfl⟩ := name?_concat hname
    · rw [h.calls, h.calls', if_neg hne, if_neg (name?_ne hname)]
      exact h.tasks id id' hname
    · rw [if_pos (by rw [h.calls']), if_pos (by rw [h.calls])]

theorem call_other (h : m.Mirrors k made m') {c : Call} (others : c.subsystem? ≠ some k) :
    (m.call c).Mirrors k (made ++ [c.subsystem?]) m' where
  named := h.named.call c
  named' := h.named'
  calls := by
    rw [List.length_append, ← h.calls]
    rfl
  calls' := by
    have hnone : [c.subsystem?].count (some k) = 0 :=
      List.count_eq_zero_of_not_mem fun hmem => others (List.mem_singleton.1 hmem).symm
    rw [List.count_append, hnone, ← h.calls']
    rfl
  view := h.view
  owner := h.owner_call c
  tasks := by
    intro id id' hname
    obtain ⟨hname, hne⟩ | ⟨hown, -⟩ := name?_concat hname
    · rw [task?_call h.named, h.calls, if_neg hne]
      exact h.tasks id id' hname
    · exact absurd hown others

/-! ### Being told to stop -/

theorem any_crew {id id' : TaskId} (own : k.name? made id = some id') (told : Crew) :
    ((k.crew made told).any fun n => id' = .call n) = told.any fun n => id = .call n := by
  rw [Bool.eq_iff_iff, List.any_eq_true, List.any_eq_true]
  constructor
  · rintro ⟨place, hmem, heq⟩
    obtain ⟨n, hn, rfl⟩ := List.mem_map.1 hmem
    obtain ⟨hn, hown⟩ := List.mem_filter.1 hn
    have hname : k.name? made (.call n) = some id' := by
      rw [name?_call (of_decide_eq_true hown), of_decide_eq_true heq]
    exact ⟨n, hn, decide_eq_true (name?_inj own hname)⟩
  · rintro ⟨n, hn, heq⟩
    obtain rfl := of_decide_eq_true heq
    obtain ⟨hown, hname⟩ := Option.ite_none_right_eq_some.1 own
    injection hname with hname
    exact ⟨_, List.mem_map_of_mem (List.mem_filter.2 ⟨hn, decide_eq_true hown⟩), decide_eq_true hname.symm⟩

theorem cancel (h : m.Mirrors k made m') (told : Crew) :
    (m.cancel told).Mirrors k made (m'.cancel (k.crew made told)) where
  named := h.named.act (.cancel told)
  named' := h.named'.act (.cancel (k.crew made told))
  calls := h.calls
  calls' := h.calls'
  view := h.view
  owner := by
    intro n t ht
    rw [task?_cancel] at ht
    obtain ⟨old, hold, rfl⟩ := Option.map_eq_some_iff.1 ht
    rw [h.owner n old hold]
    split
    · rw [Task.subsystem?_cancel]
    · rfl
  tasks := by
    intro id id' hname
    rw [task?_cancel, task?_cancel, h.tasks id id' hname, any_crew hname]

/-! ### Steps -/

theorem ready?_eq (h : m.Mirrors k made m') {id id' : TaskId} (own : k.name? made id = some id') :
    m'.ready? id' = m.ready? id := by
  rw [ready?, ready?, h.tasks id id' own]
  cases ht : m.task? id with
  | none => rfl
  | some t =>
    have hk := h.subsystem?_eq ht own
    have hready : t.isReady m'.backend = t.isReady m.backend := by
      rw [← Task.isReady_view hk, h.view, Task.isReady_view hk]
    have hcrew : t.awaitedCrew = [] := by
      cases t with
      | closing crew mode stage => cases hk
      | _ => rfl
    have hcan : m'.canStep t = m.canStep t := by
      rw [canStep, canStep, hready, hcrew]
      rfl
    rw [Option.filter_some, Option.filter_some, hcan]

theorem step_eq (h : m.Mirrors k made m') {t : Task} (own : t.subsystem? = some k) (goOn : Bool) :
    (t.step m'.backend goOn).1 = (t.step m.backend goOn).1 ∧
      (t.step m'.backend goOn).2.2 = (t.step m.backend goOn).2.2 ∧
      k.view (t.step m'.backend goOn).2.1 = k.view (t.step m.backend goOn).2.1 := by
  obtain ⟨htask, hbegins, hview⟩ := Task.step_view own m.backend goOn
  obtain ⟨htask', hbegins', hview'⟩ := Task.step_view own m'.backend goOn
  rw [h.view] at htask' hbegins' hview'
  exact ⟨htask'.symm.trans htask, hbegins'.symm.trans hbegins, hview'.symm.trans hview⟩

/-- What is found under a name after a step: the task a step further, a settlement that begins, or the task that
was there. -/
theorem task?_carried (m : Machine) (id other : TaskId) (goOn : Bool) (t : Task) :
    (m.carried id goOn t).task? other =
      ((m.task? other).map fun old => if other = id then (t.step m.backend goOn).1 else old).or
        (if (t.step m.backend goOn).2.2 then
          t.asked?.bind fun payment =>
            if other = .settlement payment then some (.settlement payment .starting) else none
        else none) := by
  have hexchanged : (m.exchanged id goOn t).task? other =
      (m.task? other).map fun old => if other = id then (t.step m.backend goOn).1 else old :=
    task?_put id other _
  rw [carried, ← hexchanged]
  split
  · rw [settle, Task.asked?_step]
    cases t.asked? with
    | none => exact Option.or_none.symm
    | some payment => exact task?_spawn _ _ _
  · exact Option.or_none.symm

/-- Under another name than that of a settlement that was asked about, only the task itself is exchanged. -/
theorem task?_carried_of_ne {id other : TaskId} (goOn : Bool) {t : Task}
    (hne : ∀ payment, t.asked? = some payment → other ≠ .settlement payment) :
    (m.carried id goOn t).task? other =
      (m.task? other).map fun old => if other = id then (t.step m.backend goOn).1 else old := by
  have hnone : (if (t.step m.backend goOn).2.2 then
      t.asked?.bind fun payment =>
        if other = .settlement payment then some (Task.settlement payment .starting) else none
      else none) = none := by
    split
    · cases hasked : t.asked? with
      | none => rfl
      | some payment => exact if_neg (hne payment hasked)
    · rfl
  rw [task?_carried, hnone, Option.or_none]

theorem calls_carried (m : Machine) (id : TaskId) (goOn : Bool) (t : Task) :
    (m.carried id goOn t).calls = m.calls := by
  obtain ⟨-, h⟩ | ⟨payment, -, -, -, -, h⟩ := carried_cases m id goOn t <;> rw [h] <;> rfl

theorem owner_carried (h : m.Mirrors k made m') {id : TaskId} {t : Task} (ht : m.task? id = some t) (goOn : Bool)
    (n : Nat) (t' : Task) (ht' : (m.carried id goOn t).task? (.call n) = some t') :
    made[n]? = some t'.subsystem? := by
  rw [task?_carried_of_ne goOn fun _ _ => TaskId.noConfusion] at ht'
  obtain ⟨old, hold, rfl⟩ := Option.map_eq_some_iff.1 ht'
  rw [h.owner n old hold]
  split
  · rename_i hid
    rw [hid, ht] at hold
    injection hold with hold
    rw [← hold, Task.subsystem?_step]
  · rfl

theorem step_own (h : m.Mirrors k made m') {id id' : TaskId} (own : k.name? made id = some id') (goOn : Bool) :
    (m.act (.step id goOn)).Mirrors k made (m'.act (.step id' goOn)) := by
  have hready := h.ready?_eq own
  obtain ⟨hno, heq⟩ | ⟨t, ht, hopen, heq⟩ | ⟨crew, mode, stage, ht⟩ := act_step m id goOn
  · obtain ⟨-, heq'⟩ | ⟨t, ht, -, -⟩ | ⟨crew, mode, stage, ht⟩ := act_step m' id' goOn
    · rw [heq, heq']
      exact h
    · rw [hready, hno] at ht
      cases ht
    · rw [hready, hno] at ht
      cases ht
  · have hk := h.subsystem?_eq (task?_of_ready? ht) own
    obtain ⟨htask, hbegins, hview⟩ := h.step_eq hk goOn
    have hnamed := h.named.act (.step id goOn)
    have hnamed' := h.named'.act (.step id' goOn)
    rw [act_of_ready? (hready.trans ht) hopen] at hnamed' ⊢
    rw [heq] at hnamed ⊢
    refine ⟨hnamed, hnamed', ?_, ?_, ?_, h.owner_carried (task?_of_ready? ht) goOn, fun x x' hname => ?_⟩
    · rw [calls_carried, h.calls]
    · rw [calls_carried, h.calls']
    · rw [carried_backend, carried_backend, hview]
    · have hid : x' = id' ↔ x = id := by
        constructor
        · rintro rfl
          exact name?_inj hname own
        · rintro rfl
          exact Option.some.inj (hname.symm.trans own)
      simp only [task?_carried, h.tasks x x' hname, htask, hbegins, hid, name?_eq_settlement_iff hname]
  · have hk := h.subsystem?_eq (task?_of_ready? ht) own
    cases hk

theorem step_other (h : m.Mirrors k made m') (apart : none ∉ made) {id : TaskId}
    (others : k.name? made id = none) (goOn : Bool) : (m.act (.step id goOn)).Mirrors k made m' := by
  obtain ⟨hno, heq⟩ | ⟨t, ht, hopen, heq⟩ | ⟨crew, mode, stage, ht⟩ := act_step m id goOn
  · rw [heq]
    exact h
  · obtain ⟨j, hj, hother⟩ := h.exists_other apart (task?_of_ready? ht) others
    have hnamed := h.named.act (.step id goOn)
    rw [heq] at hnamed ⊢
    refine ⟨hnamed, h.named', ?_, h.calls', ?_, h.owner_carried (task?_of_ready? ht) goOn, fun x x' hname => ?_⟩
    · rw [calls_carried, h.calls]
    · rw [carried_backend, Task.step_unseen hj hother, h.view]
    · have hne : x ≠ id := by
        rintro rfl
        rw [others] at hname
        cases hname
      -- only payments are asked about, and only who settles them sees the settlement
      have hunasked : ∀ payment, t.asked? = some payment → x ≠ .settlement payment := by
        rintro payment hasked rfl
        obtain ⟨rfl, -⟩ := Option.ite_none_right_eq_some.1 hname
        cases t with
        | query other answer | status other stage => exact hother (Option.some.inj hj)
        | _ => cases hasked
      simp only [task?_carried_of_ne goOn hunasked, if_neg hne, Option.map_id_fun', id_eq]
      exact h.tasks x x' hname
  · obtain ⟨j, hj, -⟩ := h.exists_other apart (task?_of_ready? ht) others
    cases hj

/-! ### Runs -/

theorem act (h : m.Mirrors k made m') (apart : none ∉ made) (a : Action) :
    (m.act a).Mirrors k (made ++ a.callers) (m'.run (k.pick made a)) := by
  have silent : ∀ {m₁ m₂ : Machine}, m₁.Mirrors k made m₂ → m₁.Mirrors k (made ++ []) m₂ := by
    intro m₁ m₂ h
    rwa [List.append_nil]
  cases a with
  | change c => exact silent (h.change c)
  | wait milliseconds => exact silent (h.wait milliseconds)
  | cancel told => exact silent (h.cancel told)
  | call c =>
    rw [pick]
    split
    · rename_i own
      exact h.call_own own
    · rename_i others
      exact h.call_other others
  | step id goOn =>
    rw [pick]
    cases hname : k.name? made id with
    | none => exact silent (h.step_other apart hname goOn)
    | some id' => exact silent (h.step_own hname goOn)

theorem run (h : m.Mirrors k made m') {actions : List Action} (apart : none ∉ made ++ callers actions) :
    (m.run actions).Mirrors k (made ++ callers actions) (m'.run (k.alone made actions)) := by
  induction actions generalizing made m m' with
  | nil =>
    rw [callers, List.flatMap_nil, List.append_nil]
    exact h
  | cons a actions ih =>
    have hcallers : made ++ callers (a :: actions) = (made ++ a.callers) ++ callers actions := by
      rw [callers, List.flatMap_cons, List.append_assoc]
      rfl
    rw [hcallers] at apart ⊢
    have hmade : none ∉ made := fun hmem =>
      apart (List.mem_append_left _ (List.mem_append_left _ hmem))
    rw [alone, run_append]
    exact ih (h.act hmade a) apart

end Mirrors

/-! ## The subsystems do not interfere -/

/-- Let a run make no call that stops two subsystems at once. Then the memberships are in the end what they are if
the members' actions are made alone; the locations, the writes of points, the queue and the geocoders are what they
are if the locating is done alone; the payments, the lists of paid members, the schedule and the settlements are
what they are if payments are dealt with alone. And all calls have come to the same. -/
theorem subsystems_separate (b : Backend) {actions : List Action} (apart : none ∉ callers actions) :
    let whole := (create b).run actions
    let part := fun k : Subsystem => (create b).run (k.alone [] actions)
    (part members).backend.events.ledger = whole.backend.events.ledger ∧
      ((part locating).backend.events.events.map (·.location) = whole.backend.events.events.map (·.location) ∧
        (part locating).backend.events.writes = whole.backend.events.writes ∧
        (part locating).backend.queue = whole.backend.queue ∧
        (part locating).backend.geocoders = whole.backend.geocoders) ∧
      ((part payments).backend.payments = whole.backend.payments ∧
        (part payments).backend.events.paidLists = whole.backend.events.paidLists ∧
        (part payments).backend.schedule = whole.backend.schedule ∧
        ∀ payment, (part payments).task? (.settlement payment) = whole.task? (.settlement payment)) ∧
      ∀ k n, (callers actions)[n]? = some (some k) →
        (part k).callTask? (k.place (callers actions) n) = whole.callTask? n := by
  intro whole part
  have hmirrors : ∀ k : Subsystem, whole.Mirrors k (callers actions) (part k) :=
    fun k => (mirrors_create k b).run apart
  have hmembers : members.events (part members).backend.events = members.events whole.backend.events :=
    congrArg Backend.events (hmirrors members).view
  have hlocated : locating.events (part locating).backend.events = locating.events whole.backend.events :=
    congrArg Backend.events (hmirrors locating).view
  have hsettled : payments.events (part payments).backend.events = payments.events whole.backend.events :=
    congrArg Backend.events (hmirrors payments).view
  have hlocating := (hmirrors locating).view
  have hpayments := (hmirrors payments).view
  refine ⟨?_, ⟨?_, ?_, ?_, ?_⟩, ⟨?_, ?_, ?_, ?_⟩, ?_⟩
  · have hledger : ∀ s : EventStore, (members.events s).ledger = s.ledger := fun s => List.map_map
    rw [← hledger, hmembers, hledger]
  · have hlocations : ∀ s : EventStore, (locating.events s).events.map (·.location) = s.events.map (·.location) :=
      fun s => List.map_map
    rw [← hlocations, hlocated, hlocations]
  · exact congrArg (fun b => b.events.writes) hlocating
  · exact (congrArg Backend.queue hlocating :)
  · exact (congrArg Backend.geocoders hlocating :)
  · exact (congrArg Backend.payments hpayments :)
  · have hpaid : ∀ s : EventStore, (payments.events s).paidLists = s.paidLists := fun s => List.map_map
    rw [← hpaid, hsettled, hpaid]
  · exact (congrArg Backend.schedule hpayments :)
  · exact fun payment => (hmirrors payments).tasks _ _ rfl
  · exact fun k n own => (hmirrors k).tasks _ _ (name?_call own)

/-! ## A member who joins amidst others -/

/-- A payment is asked about, a member joins, and a sweep is made, all at once. -/
def joinAmidst : List Action :=
  [.call (.query (.repeated 9)), .call (.subscribe ⟨.repeated 1, .repeated 2, true⟩ 0 0), .step (.call 1) false,
    .call .sweep, .step (.call 0) false, .step (.call 1) false, .step (.call 2) false,
    .step (.settlement (.repeated 9)) false, .step (.call 1) false]

/-- Alone the member makes the first call, and has the same answer. -/
theorem subsystems_separate_join :
    let b := Backend.small { EventStore.empty with events := [.small] } [] 0
    none ∉ callers joinAmidst ∧
      members.alone [] joinAmidst =
        [.call (.subscribe ⟨.repeated 1, .repeated 2, true⟩ 0 0), .step (.call 0) false, .step (.call 0) false,
          .step (.call 0) false] ∧
      ((create b).run (members.alone [] joinAmidst)).callTask? 0 = ((create b).run joinAmidst).callTask? 1 := by
  have apart : none ∉ callers joinAmidst := by decide
  refine ⟨apart, rfl, ?_⟩
  obtain ⟨-, -, -, hresults⟩ :=
    subsystems_separate (Backend.small { EventStore.empty with events := [.small] } [] 0) apart
  exact hresults members 1 rfl

end Machine

end Matchday

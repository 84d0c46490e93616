import Matchday.Concurrent.Run
import Mathlib.Algebra.Order.BigOperators.Group.List
import Mathlib.Algebra.Order.Ring.Nat

/-!
Tasks by their names. Where no two tasks have one name, putting another task in the place of one
exchanges exactly that task, so a number summed over all tasks changes by what the two contribute.
-/

namespace Matchday.Machine
set_option autoImplicit false

variable {m : Machine} {id : TaskId} {t : Task}

/-- The names of the tasks. -/
def names (m : Machine) : List TaskId := m.tasks.map (·.1)

/-- The sum over all tasks of a number that belongs to each. -/
def tally (m : Machine) (f : Task → Nat) : Nat := (m.tasks.map fun e => f e.2).sum

/-! ## Looking up and exchanging -/

theorem mem_of_task? (h : m.task? id = some t) : (id, t) ∈ m.tasks := by
  obtain ⟨l₁, l₂, heq, -⟩ := List.lookup_eq_some_iff.1 h
  rw [heq]
  exact List.mem_append_right l₁ List.mem_cons_self

theorem task?_of_mem (hn : m.names.Nodup) (h : (id, t) ∈ m.tasks) : m.task? id = some t := by
  obtain ⟨l₁, l₂, heq⟩ := List.append_of_mem h
  refine List.lookup_eq_some_iff.2 ⟨l₁, l₂, heq, fun e he => ?_⟩
  rw [names, heq, List.map_append, List.map_cons] at hn
  have hdisj := (List.nodup_append.1 hn).2.2
  have hne : e.1 ≠ id := hdisj e.1 (List.mem_map_of_mem he) id List.mem_cons_self
  simpa using hne.symm

/-- Putting a task in the place of one leaves all others where they are. -/
theorem put_tasks (hn : m.names.Nodup) (h : m.task? id = some t) (t' : Task) :
    ∃ l₁ l₂, m.tasks = l₁ ++ (id, t) :: l₂ ∧ (m.put id t').tasks = l₁ ++ (id, t') :: l₂ := by
  obtain ⟨l₁, l₂, heq⟩ := List.append_of_mem (mem_of_task? h)
  refine ⟨l₁, l₂, heq, ?_⟩
  rw [names, heq, List.map_append, List.map_cons] at hn
  obtain ⟨-, htail, hdisj⟩ := List.nodup_append.1 hn
  have same : ∀ l : List (TaskId × Task), (∀ e ∈ l, e.1 ≠ id) →
      (l.map fun e => if e.1 = id then (id, t') else e) = l := by
    intro l hl
    exact (List.map_congr_left fun e he => if_neg (hl e he)).trans (List.map_id' l)
  have h₁ : ∀ e ∈ l₁, e.1 ≠ id := fun e he =>
    hdisj e.1 (List.mem_map_of_mem he) id List.mem_cons_self
  have h₂ : ∀ e ∈ l₂, e.1 ≠ id := by
    intro e he hid
    exact (List.nodup_cons.1 htail).1 (List.mem_map.2 ⟨e, he, hid⟩)
  simp only [put, heq, List.map_append, List.map_cons, if_true, same l₁ h₁, same l₂ h₂]

theorem mem_put {e : TaskId × Task} (h : e ∈ (m.put id t).tasks) :
    e = (id, t) ∨ e ∈ m.tasks ∧ e.1 ≠ id := by
  obtain ⟨d, hd, rfl⟩ := List.mem_map.1 h
  by_cases hid : d.1 = id
  · exact .inl (if_pos hid)
  · rw [if_neg hid]
    exact .inr ⟨hd, hid⟩

theorem mem_put_self (h : id ∈ m.names) : (id, t) ∈ (m.put id t).tasks := by
  obtain ⟨d, hd, rfl⟩ := List.mem_map.1 h
  exact List.mem_map.2 ⟨d, hd, if_pos rfl⟩

theorem mem_put_of_ne {e : TaskId × Task} (h : e ∈ m.tasks) (hne : e.1 ≠ id) :
    e ∈ (m.put id t).tasks :=
  List.mem_map.2 ⟨e, h, if_neg hne⟩

theorem mem_spawn {e : TaskId × Task} :
    e ∈ (m.spawn id t).tasks ↔ e ∈ m.tasks ∨ e = (id, t) := by
  simp [spawn]

theorem mem_cancel {crew : Crew} {e : TaskId × Task} (h : e ∈ (m.cancel crew).tasks) :
    ∃ d ∈ m.tasks, e.1 = d.1 ∧ (e.2 = d.2 ∨ e.2 = d.2.cancel) := by
  obtain ⟨d, hd, rfl⟩ := List.mem_map.1 h
  refine ⟨d, hd, ?_⟩
  split
  · exact ⟨rfl, .inr rfl⟩
  · exact ⟨rfl, .inl rfl⟩

/-- A task that cannot be told to stop is not changed by it. -/
theorem mem_cancel_of_eq (h : (id, t) ∈ m.tasks) (same : t.cancel = t) (crew : Crew) :
    (id, t) ∈ (m.cancel crew).tasks := by
  refine List.mem_map.2 ⟨(id, t), h, ?_⟩
  show (if _ then (id, t.cancel) else (id, t)) = (id, t)
  rw [same]
  split <;> rfl

/-- Tasks that are changed under their names are found changed. -/
theorem lookup_map (tasks : List (TaskId × Task)) (f : TaskId → Task → Task) (id : TaskId) :
    (tasks.map fun e => (e.1, f e.1 e.2)).lookup id = (tasks.lookup id).map (f id) := by
  induction tasks with
  | nil => rfl
  | cons e tasks ih =>
    obtain ⟨other, t⟩ := e
    by_cases hid : id = other
    · rw [List.map_cons, List.lookup_cons, List.lookup_cons, hid, beq_self_eq_true]
      rfl
    · have hne : (id == other) = false := by simpa using hid
      rw [List.map_cons, List.lookup_cons, List.lookup_cons, hne, ih]

theorem task?_put (id other : TaskId) (t : Task) :
    (m.put id t).task? other = (m.task? other).map fun old => if other = id then t else old := by
  have hmap : (m.put id t).tasks = m.tasks.map fun e => (e.1, if e.1 = id then t else e.2) := by
    refine List.map_congr_left fun e _ => ?_
    by_cases he : e.1 = id
    · rw [if_pos he, if_pos he, he]
    · rw [if_neg he, if_neg he]
  rw [task?, hmap, lookup_map m.tasks fun name old => if name = id then t else old]
  rfl

/-- Being told to stop changes the tasks of the crew, and no others. -/
theorem task?_cancel (crew : Crew) (other : TaskId) : (m.cancel crew).task? other =
    (m.task? other).map fun t => if crew.any fun n => other = .call n then t.cancel else t := by
  have hmap : (m.cancel crew).tasks =
      m.tasks.map fun e => (e.1, if crew.any fun n => e.1 = .call n then e.2.cancel else e.2) := by
    refine List.map_congr_left fun e _ => ?_
    split <;> rfl
  rw [task?, hmap, lookup_map m.tasks fun name t => if crew.any fun n => name = .call n then t.cancel else t]
  rfl

theorem task?_spawn (id other : TaskId) (t : Task) :
    (m.spawn id t).task? other = (m.task? other).or (if other = id then some t else none) := by
  rw [task?, task?, spawn, List.lookup_append, List.lookup_cons]
  by_cases hid : other = id
  · rw [if_pos hid, hid, beq_self_eq_true]
  · have hne : (other == id) = false := by simpa using hid
    rw [if_neg hid, hne]
    rfl

/-! ## Names -/

@[simp] theorem names_put (t : Task) : (m.put id t).names = m.names := by
  simp only [names, put, List.map_map]
  refine List.map_congr_left fun e _ => ?_
  by_cases h : e.1 = id
  · simp [h]
  · simp [h]

@[simp] theorem names_spawn : (m.spawn id t).names = m.names ++ [id] := by
  simp [names, spawn]

@[simp] theorem names_call (c : Call) : (m.call c).names = m.names ++ [.call m.calls] := by
  simp [names, call, spawn]

@[simp] theorem names_cancel (crew : Crew) : (m.cancel crew).names = m.names := by
  simp only [names, cancel, List.map_map]
  refine List.map_congr_left fun e _ => ?_
  show (if _ then _ else _ : TaskId × Task).1 = e.1
  split <;> rfl

/-! ## Tallies -/

section Tally
variable {f : Task → Nat}

/-- The tally after an exchange has the new task's share in the place of the old one's. -/
theorem tally_put (hn : m.names.Nodup) (h : m.task? id = some t) (t' : Task) :
    (m.put id t').tally f + f t = m.tally f + f t' := by
  obtain ⟨l₁, l₂, heq, heq'⟩ := put_tasks hn h t'
  simp only [tally, heq, heq', List.map_append, List.map_cons, List.sum_append, List.sum_cons]
  omega

@[simp] theorem tally_spawn : (m.spawn id t).tally f = m.tally f + f t := by
  simp [tally, spawn]

@[simp] theorem tally_call (c : Call) : (m.call c).tally f = m.tally f + f (c.task m.now) := by
  simp [tally, call, spawn]

theorem tally_cancel (hf : ∀ t : Task, f t.cancel = f t) (crew : Crew) :
    (m.cancel crew).tally f = m.tally f := by
  simp only [tally, cancel, List.map_map]
  congr 1
  refine List.map_congr_left fun e _ => ?_
  show f (if _ then _ else _ : TaskId × Task).2 = f e.2
  split
  · exact hf e.2
  · rfl

theorem le_tally (h : (id, t) ∈ m.tasks) : f t ≤ m.tally f :=
  List.le_sum_of_mem (List.mem_map.2 ⟨(id, t), h, rfl⟩)

theorem tally_mono {g : Task → Nat} (h : ∀ t, f t ≤ g t) : m.tally f ≤ m.tally g :=
  List.sum_le_sum fun e _ => h e.2

theorem tally_add {g : Task → Nat} : (m.tally fun t => f t + g t) = m.tally f + m.tally g :=
  List.sum_map_add

theorem exists_of_tally_pos (h : 0 < m.tally f) : ∃ e ∈ m.tasks, 0 < f e.2 := by
  by_contra hno
  have hzero : m.tally f = 0 := by
    refine List.sum_eq_zero fun n hn => ?_
    obtain ⟨e, he, rfl⟩ := List.mem_map.1 hn
    by_contra hne
    exact hno ⟨e, he, Nat.pos_of_ne_zero hne⟩
  rw [hzero] at h
  exact absurd h (Nat.lt_irrefl 0)

end Tally

end Matchday.Machine

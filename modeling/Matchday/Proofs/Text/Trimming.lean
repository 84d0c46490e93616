import Matchday.Text.Blank
import Mathlib.Data.List.TakeWhile

/-!
What trimming leaves of a text: a text is blanks, what trimming leaves and blanks, and there is only one such text
without blanks at its ends.

Main statements: `Text.exists_eq_append_trim`, `Text.trim_append`.
-/

namespace Matchday.Text
set_option autoImplicit false

variable {front core back cs : List Char}

theorem exists_eq_append_trimStart (cs : List Char) :
    ∃ front, cs = front ++ trimStart cs ∧ ∀ c ∈ front, isBlank c = true :=
  ⟨cs.takeWhile isBlank, List.takeWhile_append_dropWhile.symm, fun _ => List.mem_takeWhile_imp⟩

theorem trimStart_append (hfront : ∀ c ∈ front, isBlank c = true) (hne : core ≠ [])
    (hcore : ∀ c ∈ core, isBlank c = false) (back : List Char) :
    trimStart (front ++ (core ++ back)) = core ++ back := by
  obtain ⟨c, rest, rfl⟩ := List.exists_cons_of_ne_nil hne
  rw [trimStart, List.dropWhile_append_of_pos hfront, List.cons_append]
  exact List.dropWhile_cons_of_neg (by simp [hcore c List.mem_cons_self])

/-- Blanks stand around what trimming leaves. -/
theorem exists_eq_append_trim (cs : List Char) :
    ∃ front back, cs = front ++ trim cs ++ back ∧ ∀ c ∈ front ++ back, isBlank c = true := by
  obtain ⟨front, hcs, hfront⟩ := exists_eq_append_trimStart cs
  obtain ⟨back, hrest, hback⟩ := exists_eq_append_trimStart (trimStart cs).reverse
  refine ⟨front, back.reverse, ?_, ?_⟩
  · rw [trim, List.append_assoc, ← List.reverse_append, ← hrest, List.reverse_reverse]
    exact hcs
  · intro c hc
    rcases List.mem_append.1 hc with hc | hc
    · exact hfront c hc
    · exact hback c (List.mem_reverse.1 hc)

/-- Trimming leaves what has no blanks. -/
theorem trim_append (hblank : ∀ c ∈ front ++ back, isBlank c = true) (hne : core ≠ [])
    (hcore : ∀ c ∈ core, isBlank c = false) : trim (front ++ core ++ back) = core := by
  obtain ⟨hfront, hback⟩ := List.forall_mem_append.1 hblank
  have hstart : trimStart (front ++ core ++ back) = core ++ back := by
    rw [List.append_assoc, trimStart_append hfront hne hcore]
  have hend : trimStart (back.reverse ++ (core.reverse ++ [])) = core.reverse ++ [] :=
    trimStart_append (by simpa using hback) (by simpa using hne) (by simpa using hcore) []
  rw [List.append_nil, ← List.reverse_append] at hend
  rw [trim, hstart, hend, List.reverse_reverse]

end Matchday.Text

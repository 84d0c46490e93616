import Matchday.Proofs.Settings.Numbers
import Mathlib.Data.Nat.Digits.Defs

/-!
Decimal digits as they are written and read. The digits of a number spell it, there are no more of them
than its size asks for, and the first is not zero; zeros in front change nothing. Digits are taken from the
front of a text up to the first character that is none.

Main statements: `Decimal.ofDigits_digitsOf`, `Decimal.length_digitsOf_le_iff`,
`Decimal.takeDigits_map_digitChar`.
-/

namespace Matchday.Decimal
set_option autoImplicit false

/-! ## The digits of a number -/

@[simp]
theorem digitsOf_zero : digitsOf 0 = [] := by
  rw [digitsOf, if_pos rfl]

theorem digitsOf_of_pos {n : Nat} (h : 0 < n) : digitsOf n = digitsOf (n / 10) ++ [n % 10] := by
  rw [digitsOf, if_neg h.ne']

/-- Digit by digit, each behind those of a tenth of the number. -/
theorem digitsOf_induction {motive : Nat → Prop} (zero : motive 0)
    (digit : ∀ n, 0 < n → motive (n / 10) → motive n) (n : Nat) : motive n := by
  induction n using Nat.strong_induction_on with
  | _ n ih =>
    obtain rfl | h := Nat.eq_zero_or_pos n
    · exact zero
    · exact digit n h (ih (n / 10) (Nat.div_lt_self h (by decide)))

theorem ofDigits_digitsOf (n : Nat) : ofDigits (digitsOf n) = n := by
  induction n using digitsOf_induction with
  | zero => rw [digitsOf_zero]; rfl
  | digit n h ih =>
    rw [digitsOf_of_pos h, ofDigits_concat, ih]
    omega

theorem lt_ten_of_mem_digitsOf {n : Nat} : ∀ d ∈ digitsOf n, d < 10 := by
  induction n using digitsOf_induction with
  | zero => simp
  | digit n h ih =>
    rw [digitsOf_of_pos h]
    rintro d hd
    obtain hd | hd := List.mem_append.1 hd
    · exact ih d hd
    · rw [List.mem_singleton.1 hd]
      omega

@[simp]
theorem digitsOf_eq_nil_iff {n : Nat} : digitsOf n = [] ↔ n = 0 := by
  obtain rfl | h := Nat.eq_zero_or_pos n
  · simp
  · simp [digitsOf_of_pos h, h.ne']

theorem head?_digitsOf_ne_zero (n : Nat) : (digitsOf n).head? ≠ some 0 := by
  induction n using digitsOf_induction with
  | zero => simp
  | digit n h ih =>
    rw [digitsOf_of_pos h, List.head?_append]
    cases htenth : digitsOf (n / 10) with
    | nil =>
      have hsmall : n / 10 = 0 := digitsOf_eq_nil_iff.1 htenth
      simp only [List.head?_nil, List.head?_cons, Option.none_or, ne_eq, Option.some.injEq]
      omega
    | cons d ds =>
      rw [htenth] at ih
      simpa using ih

/-- A number has no more digits than the power of ten that it is below. -/
theorem length_digitsOf_le_iff {n width : Nat} : (digitsOf n).length ≤ width ↔ n < 10 ^ width := by
  induction n using digitsOf_induction generalizing width with
  | zero => simp
  | digit n h ih =>
    rw [digitsOf_of_pos h, List.length_append, List.length_singleton]
    cases width with
    | zero =>
      simp only [pow_zero]
      omega
    | succ width =>
      rw [Nat.add_le_add_iff_right, ih, pow_succ]
      omega

/-! ## Rows of digits -/

theorem ofDigits_replicate_append (k : Nat) (ds : List Nat) :
    ofDigits (List.replicate k 0 ++ ds) = ofDigits ds := by
  induction k with
  | zero => rfl
  | succ k ih =>
    rw [List.replicate_succ, List.cons_append, ← ih]
    rfl

theorem ofDigits_append_replicate (ds : List Nat) (k : Nat) :
    ofDigits (ds ++ List.replicate k 0) = ofDigits ds * 10 ^ k := by
  induction k with
  | zero => simp
  | succ k ih =>
    rw [List.replicate_succ', ← List.append_assoc, ofDigits_concat, ih, pow_succ, Nat.mul_assoc,
      Nat.add_zero]

/-! ## Digits as characters -/

@[simp]
theorem digitValue?_digitChar {d : Nat} (h : d < 10) : digitValue? (digitChar d) = some d := by
  have values : ∀ d : Fin 10, digitValue? (digitChar d) = some d.val := by decide
  exact values ⟨d, h⟩

/-- The digits in front of a text are taken as far as they go. -/
theorem takeDigits_map_digitChar {ds : List Nat} {rest : List Char} (digits : ∀ d ∈ ds, d < 10)
    (stop : rest.head?.bind digitValue? = none) :
    takeDigits (ds.map digitChar ++ rest) = (ds, rest) := by
  induction ds with
  | nil =>
    cases rest with
    | nil => rfl
    | cons c rest =>
      rw [List.head?_cons, Option.bind_some] at stop
      rw [List.map_nil, List.nil_append, takeDigits, stop]
  | cons d ds ih =>
    obtain ⟨hd, hds⟩ := List.forall_mem_cons.1 digits
    rw [List.map_cons, List.cons_append, takeDigits, digitValue?_digitChar hd, ih hds]

end Matchday.Decimal

import Matchday.Text.Case
import Matchday.Text.Hex
import Mathlib.Data.Bool.AllAny

/-!
Hexadecimal digits among all characters. What holds of the 128 characters of ASCII is tried on each of them; no other
character is a digit or has another case.

Main statement: `Text.hexValue?_eq_some_iff`.
-/

namespace Matchday.Text
set_option autoImplicit false

variable {c : Char} {n : Nat}

/-- What holds of each character of ASCII. -/
theorem of_ascii {P : Char → Prop} (h : ∀ k : Fin 128, P (Char.ofNat k)) (hc : c.toNat < 128) : P c := by
  have hP := h ⟨c.toNat, hc⟩
  rwa [Char.ofNat_toNat] at hP

/-! ## Hexadecimal digits -/

/-- A hexadecimal digit of either case. -/
def IsHexDigit (c : Char) : Prop := c ∈ "0123456789abcdefABCDEF".toList

instance (c : Char) : Decidable (IsHexDigit c) :=
  inferInstanceAs (Decidable (c ∈ "0123456789abcdefABCDEF".toList))

theorem toNat_lt_of_isHexDigit : ∀ c, IsHexDigit c → c.toNat < 128 :=
  List.all_iff_forall_prop.1 (by decide)

theorem toNat_hexDigit_lt : ∀ n : Fin 16, (hexDigit n).toNat < 128 := by decide

theorem lower_of_le (h : 128 ≤ c.toNat) : lower c = c := by
  apply if_neg
  rintro ⟨-, hz⟩
  have hz : c.toNat ≤ 90 := hz
  omega

theorem hexValue?_of_le (h : 128 ≤ c.toNat) : hexValue? c = none := by
  dsimp only [hexValue?]
  rw [if_neg (by omega), if_neg (by omega), if_neg (by omega)]

theorem hexValue?_lt (h : hexValue? c = some n) : n < 16 := by
  dsimp only [hexValue?] at h
  grind

/-- The value of a digit is that of the lower-case digit. -/
theorem hexValue?_eq_some_iff : hexValue? c = some n ↔ n < 16 ∧ lower c = hexDigit n := by
  by_cases hc : c.toNat < 128
  · have hvalue : ∀ n : Fin 16, hexValue? c = some n.val ↔ lower c = hexDigit n :=
      of_ascii (P := fun c => ∀ n : Fin 16, hexValue? c = some n.val ↔ lower c = hexDigit n) (by decide +kernel) hc
    exact ⟨fun h => ⟨hexValue?_lt h, (hvalue ⟨n, hexValue?_lt h⟩).1 h⟩, fun ⟨hn, h⟩ => (hvalue ⟨n, hn⟩).2 h⟩
  · rw [hexValue?_of_le (by omega), lower_of_le (by omega)]
    refine iff_of_false nofun ?_
    rintro ⟨hn, rfl⟩
    exact hc (toNat_hexDigit_lt ⟨n, hn⟩)

theorem isHexDigit_iff : IsHexDigit c ↔ (hexValue? c).isSome = true := by
  by_cases hc : c.toNat < 128
  · exact of_ascii (P := fun c => IsHexDigit c ↔ (hexValue? c).isSome = true) (by decide +kernel) hc
  · rw [hexValue?_of_le (by omega)]
    exact iff_of_false (fun h => hc (toNat_lt_of_isHexDigit c h)) nofun

end Matchday.Text

import Matchday.Proofs.Settings.Numbers
import Matchday.Proofs.Text.Trimming
import Mathlib.Data.Nat.Digits.Defs

/-!
How a variable spells a number: with digits, of which there may be any number, behind a plus sign if wanted and with
blanks around them. What is read is what is spelled, unless it is beyond the limit.

Main statement: `Settings.number?_eq_some_iff_spells`.
-/

namespace Matchday
set_option autoImplicit false

/-! ## Digits -/

namespace Decimal

theorem digitValue?_eq_some_iff_digitChar {c : Char} {d : Nat} :
    digitValue? c = some d ↔ c = Nat.digitChar d ∧ d < 10 := by
  have hchar : ∀ d : Fin 10, '0' ≤ Nat.digitChar d ∧ Nat.digitChar d ≤ '9' ∧
      (Nat.digitChar d).toNat = '0'.toNat + d.val := by decide
  rw [digitValue?_eq_some_iff]
  constructor
  · rintro ⟨-, hnine, hvalue⟩
    have hle : c.toNat ≤ 57 := hnine
    have hzero : '0'.toNat = 48 := rfl
    have hd : d < 10 := by omega
    exact ⟨Char.toNat_inj.1 (hvalue.trans (hchar ⟨d, hd⟩).2.2.symm), hd⟩
  · rintro ⟨rfl, hd⟩
    exact hchar ⟨d, hd⟩

/-- A row of characters has digits as its values if these are what it is made of. -/
theorem map_digitValue?_eq_iff {cs : List Char} {ds : List Nat} :
    cs.map digitValue? = ds.map some ↔ cs = ds.map Nat.digitChar ∧ ∀ d ∈ ds, d < 10 := by
  induction cs generalizing ds with
  | nil => cases ds <;> simp
  | cons c cs ih =>
    cases ds with
    | nil => simp
    | cons d ds =>
      rw [List.map_cons, List.map_cons, List.map_cons, List.cons.injEq, List.cons.injEq, ih,
        digitValue?_eq_some_iff_digitChar, List.forall_mem_cons]
      tauto

theorem ofDigits_eq_ofDigits_reverse (ds : List Nat) : ofDigits ds = Nat.ofDigits 10 ds.reverse := by
  induction ds using List.reverseRecOn with
  | nil => rfl
  | append_singleton ds d ih =>
    rw [ofDigits_concat, ih, List.reverse_concat, Nat.ofDigits_cons]
    omega

end Decimal

namespace Settings

/-! ## Numerals -/

/-- Whether a text spells a number: digits, the first counting most, behind a plus sign or nothing, and blanks around
all of it. -/
def Spells (text : String) (n : Nat) : Prop :=
  ∃ front sign ds back, text.toList = front ++ (sign ++ ds.map Nat.digitChar) ++ back ∧
    (∀ c ∈ front ++ back, Text.isBlank c = true) ∧ (sign = [] ∨ sign = ['+']) ∧
    ds ≠ [] ∧ (∀ d ∈ ds, d < 10) ∧ Nat.ofDigits 10 ds.reverse = n

variable {text : String} {sign : List Char} {ds : List Nat} {limit n : Nat}

/-- Trimming leaves a plus sign, or nothing, and the numeral. -/
theorem trim_eq_append_numeral (text : String) :
    ∃ sign, (sign = [] ∨ sign = ['+']) ∧ Text.trim text.toList = sign ++ numeral text := by
  dsimp only [numeral]
  split
  · rename_i h
    obtain ⟨rest, hrest⟩ := List.head?_eq_some_iff.1 h
    exact ⟨['+'], .inr rfl, by rw [hrest]; rfl⟩
  · exact ⟨[], .inl rfl, rfl⟩

theorem isBlank_digitChar : ∀ d : Fin 10, Text.isBlank (Nat.digitChar d) = false := by decide

theorem digitChar_ne_plus : ∀ d : Fin 10, Nat.digitChar d ≠ '+' := by decide

theorem numeral_eq (hsign : sign = [] ∨ sign = ['+']) (hne : ds ≠ []) (hds : ∀ d ∈ ds, d < 10)
    (htrim : Text.trim text.toList = sign ++ ds.map Nat.digitChar) : numeral text = ds.map Nat.digitChar := by
  dsimp only [numeral]
  rw [htrim]
  rcases hsign with rfl | rfl
  · obtain ⟨d, ds, rfl⟩ := List.exists_cons_of_ne_nil hne
    rw [List.nil_append, List.map_cons, List.head?_cons, if_neg]
    intro h
    exact digitChar_ne_plus ⟨d, hds d List.mem_cons_self⟩ (Option.some.inj h)
  · rfl

/-- A text is read as the number that it spells, if this is below the limit. -/
theorem number?_eq_some_iff_spells : number? limit text = some n ↔ Spells text n ∧ n < limit := by
  rw [number?_eq_some_iff]
  constructor
  · rintro ⟨ds, hne, hmap, hvalue, hlt⟩
    obtain ⟨hnumeral, hds⟩ := Decimal.map_digitValue?_eq_iff.1 hmap
    obtain ⟨front, back, htext, hblank⟩ := Text.exists_eq_append_trim text.toList
    obtain ⟨sign, hsign, htrim⟩ := trim_eq_append_numeral text
    rw [htrim, hnumeral] at htext
    rw [Decimal.ofDigits_eq_ofDigits_reverse] at hvalue
    exact ⟨⟨front, sign, ds, back, htext, hblank, hsign, hne, hds, hvalue⟩, hlt⟩
  · rintro ⟨⟨front, sign, ds, back, htext, hblank, hsign, hne, hds, hvalue⟩, hlt⟩
    have hcore : ∀ c ∈ sign ++ ds.map Nat.digitChar, Text.isBlank c = false := by
      intro c hc
      rcases List.mem_append.1 hc with hc | hc
      · rcases hsign with rfl | rfl
        · exact absurd hc List.not_mem_nil
        · rw [List.mem_singleton.1 hc]
          decide
      · obtain ⟨d, hd, rfl⟩ := List.mem_map.1 hc
        exact isBlank_digitChar ⟨d, hds d hd⟩
    have htrim : Text.trim text.toList = sign ++ ds.map Nat.digitChar := by
      rw [htext, Text.trim_append hblank (by simp [hne]) hcore]
    refine ⟨ds, hne, ?_, (Decimal.ofDigits_eq_ofDigits_reverse ds).trans hvalue, hlt⟩
    exact Decimal.map_digitValue?_eq_iff.2 ⟨numeral_eq hsign hne hds htrim, hds⟩

end Settings

end Matchday

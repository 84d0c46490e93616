import Matchday.Proofs.Json.Reals

/-!
Numbers with few digits. Reading takes two steps, the digits first and then the power of ten, and each of them
is rounded. If both the digits and the power are numbers of the format the first step is exact, so what is
read is the nearest number; and a number that is written with few digits is the nearest one to what is
written.

Main statements: `Json.Number.real?_of_short`, `Json.real?_ofReal`.
-/

namespace Matchday.Json
set_option autoImplicit false

/-! ## Short numbers -/

/-- The digits of a number and the power of ten that they count. -/
def Number.decimal (n : Number) : Decimal :=
  ⟨Decimal.ofDigits (n.whole ++ n.fraction.getD []), n.exponent.getD 0 - (n.fraction.getD []).length⟩

/-- A number whose digits and whose power of ten are both numbers of the format. -/
def Number.Short (n : Number) : Prop :=
  n.decimal.coefficient < 2 ^ 53 ∧ -22 ≤ n.decimal.exponent ∧ n.decimal.exponent ≤ 22

instance (n : Number) : Decidable n.Short := inferInstanceAs (Decidable (_ ∧ _ ∧ _))

theorem le_foldl_digits (n : Nat) (ds : List Nat) : n ≤ ds.foldl (fun n d => n * 10 + d) n := by
  induction ds generalizing n with
  | nil => exact Nat.le_refl n
  | cons d ds ih => exact (show n ≤ n * 10 + d by omega).trans (ih _)

theorem fill_of_fits {n : Nat} {ds : List Nat} (h : ds.foldl (fun n d => n * 10 + d) n < 2 ^ 64) :
    fill n ds = (ds.foldl (fun n d => n * 10 + d) n, []) := by
  induction ds generalizing n with
  | nil => rfl
  | cons d ds ih =>
    have hfits : n * 10 + d < Nat.pow 2 64 := (le_foldl_digits _ ds).trans_lt h
    rw [fill, if_pos hfits, ih h, List.foldl_cons]

theorem Number.real?_of_fits {n : Number} (h : n.decimal.coefficient < 2 ^ 64) : n.real? =
    (scale? (Binary64.ofNat n.decimal.coefficient) n.decimal.exponent).map
      fun x => if n.negative then x.neg else x := by
  have hfold : n.decimal.coefficient
      = (n.fraction.getD []).foldl (fun n d => n * 10 + d) (Decimal.ofDigits n.whole) := List.foldl_append
  have hwhole : fill 0 n.whole = (Decimal.ofDigits n.whole, []) :=
    fill_of_fits ((le_foldl_digits _ _).trans_lt (hfold ▸ h))
  have hfraction : fill (Decimal.ofDigits n.whole) (n.fraction.getD []) = (n.decimal.coefficient, []) :=
    (fill_of_fits (hfold ▸ h)).trans (by rw [hfold])
  have hexponent : ((([] : List Nat).length : Int) - ((n.fraction.getD []).length - ([] : List Nat).length : Nat)
      + n.exponent.getD 0) = n.decimal.exponent := by
    rw [decimal]
    simp only [List.length_nil, Nat.sub_zero]
    omega
  simp only [real?, hwhole, hfraction, hexponent]

/-! ## One rounding -/

theorem powerOfTen_exact {k : Nat} (h : k ≤ 22) : ∃ y : Binary64.Finite,
    Binary64.powerOfTen k = .finite y ∧ y.negative = false ∧ y.units = 10 ^ k * Binary64.one := by
  have hfive : 5 ^ k < 2 ^ 53 := (Nat.pow_le_pow_right (by decide) h).trans_lt (by decide)
  have hten : 10 ^ k = 5 ^ k * 2 ^ k := Nat.mul_pow 5 2 k
  exact Binary64.ofNat_exact hten hfive (by omega)

theorem ofNat_of_lt {n : Nat} (h : n < 2 ^ 53) : ∃ x : Binary64.Finite,
    Binary64.ofNat n = .finite x ∧ x.negative = false ∧ x.units = n * Binary64.one := by
  have hodd : n = n * 2 ^ 0 := by rw [Nat.pow_zero, Nat.mul_one]
  exact Binary64.ofNat_exact hodd h (by decide)

theorem div_powerOfTen {n k : Nat} (hn : n < 2 ^ 53) (hmax : k ≤ 22) :
    (Binary64.ofNat n).div (Binary64.powerOfTen k) = Binary64.ofRatio false n (10 ^ k) := by
  obtain ⟨x, hx, hxsign, hxunits⟩ := ofNat_of_lt hn
  obtain ⟨y, hy, hysign, hyunits⟩ := powerOfTen_exact hmax
  have hne : y.units ≠ 0 := hyunits ▸ (Nat.mul_pos (Nat.pow_pos (by decide)) Binary64.one_pos).ne'
  rw [hx, hy, Binary64.div, if_neg hne, hxsign, hysign, hxunits, hyunits,
    Binary64.ofRatio_mul_mul Binary64.one_pos]
  rfl

theorem mul_powerOfTen {n k : Nat} (hn : n < 2 ^ 53) (hmax : k ≤ 22) :
    (Binary64.ofNat n).mul (Binary64.powerOfTen k) = Binary64.ofRatio false (n * 10 ^ k) 1 := by
  obtain ⟨x, hx, hxsign, hxunits⟩ := ofNat_of_lt hn
  obtain ⟨y, hy, hysign, hyunits⟩ := powerOfTen_exact hmax
  have hvalue : Binary64.ofRatio false (n * 10 ^ k * (Binary64.one * Binary64.one))
      (1 * (Binary64.one * Binary64.one)) = Binary64.ofRatio false (n * 10 ^ k) 1 :=
    Binary64.ofRatio_mul_mul (Nat.mul_pos Binary64.one_pos Binary64.one_pos)
  rw [Nat.one_mul, Nat.mul_mul_mul_comm] at hvalue
  rw [hx, hy, Binary64.mul, hxsign, hysign, hxunits, hyunits]
  exact hvalue

/-- Division by a power of ten of the format is rounded once. -/
theorem scale?_neg {n k : Nat} (hn : n < 2 ^ 53) (hk : 0 < k) (hmax : k ≤ 22) :
    scale? (Binary64.ofNat n) (-k) = some (Binary64.ofRatio false n (10 ^ k)) := by
  obtain ⟨k, rfl⟩ := Nat.exists_eq_succ_of_ne_zero hk.ne'
  change some (scaleDown (Binary64.ofNat n) k.succ) = _
  rw [scaleDown, if_pos (by omega), div_powerOfTen hn hmax]

theorem scale?_natCast {n k : Nat} (hn : n < 2 ^ 53) (hpos : 0 < n) (hmax : k ≤ 22) :
    scale? (Binary64.ofNat n) k = some (Binary64.ofRatio false (n * 10 ^ k) 1) := by
  have hne : Binary64.ofNat n ≠ Binary64.zero false := by
    obtain ⟨x, hx, -, hxunits⟩ := ofNat_of_lt hn
    rw [hx]
    rintro ⟨⟩
    exact absurd hxunits.symm (Nat.mul_pos hpos Binary64.one_pos).ne'
  have hfinite : (Binary64.ofRatio false (n * 10 ^ k) 1).isFinite = true := by
    have hten : 10 ^ k < 2 ^ 74 := (Nat.pow_le_pow_right (by decide) hmax).trans_lt (by decide)
    have hlt : n * 10 ^ k < 2 ^ (53 + 74) := by
      rw [Nat.pow_add]
      exact Nat.mul_lt_mul'' hn hten
    obtain ⟨z, hz, -⟩ := Binary64.ofRatio_bounds false (whole_lt_max hlt (by decide))
    rw [hz]
    rfl
  change (if _ then _ else if _ then _ else _) = _
  rw [if_neg hne, if_neg (by omega)]
  dsimp only
  rw [mul_powerOfTen hn hmax, if_pos hfinite]

/-- A short number is read as the nearest number of the format. -/
theorem Number.real?_of_short {n : Number} (h : n.Short) (hne : n.decimal.coefficient ≠ 0) :
    n.real? = some (n.decimal.toBinary64 n.negative) := by
  obtain ⟨hdigits, hlow, hhigh⟩ := h
  have hsign : ∀ num den, (if n.negative then (Binary64.ofRatio false num den).neg
      else Binary64.ofRatio false num den) = Binary64.ofRatio n.negative num den := by
    intro num den
    cases n.negative with
    | false => rw [if_neg Bool.false_ne_true]
    | true => rw [if_pos rfl, Binary64.neg_ofRatio]
  rw [Number.real?_of_fits (hdigits.trans (by decide))]
  generalize n.decimal = d at *
  obtain ⟨c, e⟩ := d
  dsimp only at *
  obtain hpos | hneg := le_or_gt 0 e
  · obtain ⟨k, rfl⟩ := Int.eq_ofNat_of_zero_le hpos
    rw [scale?_natCast hdigits (Nat.pos_of_ne_zero hne) (by omega), Option.map_some, hsign,
      Decimal.toBinary64_natCast n.negative hne (by omega)]
  · obtain ⟨k, rfl⟩ : ∃ k : Nat, e = -k := ⟨e.natAbs, by omega⟩
    rw [scale?_neg hdigits (by omega) (by omega), Option.map_some, hsign,
      Decimal.toBinary64_neg n.negative hne (by omega)]

/-! ## Numbers that are written shortly -/

/-- What a decimal is written as has its value; a whole one has another zero behind its point. -/
theorem decimal_ofDecimal (negative : Bool) {d : Decimal} (h : d.coefficient ≠ 0) :
    (Number.ofDecimal negative d).decimal = d ∨ ∃ zeros : Nat, zeros = d.exponent ∧
      (Number.ofDecimal negative d).decimal = ⟨d.coefficient * 10 ^ (zeros + 1), -1⟩ := by
  have hcases := ofDecimal_cases negative d rfl
  have hvalue := Decimal.ofDigits_digitsOf d.coefficient
  have hne := mt Decimal.digitsOf_eq_nil_iff.1 h
  generalize Decimal.digitsOf d.coefficient = digits at *
  have hlength : 0 < digits.length := List.length_pos_iff.2 hne
  obtain ⟨c, e⟩ := d
  dsimp only at *
  obtain hform | ⟨zeros, hzeros, hform⟩ | ⟨zeros, hzeros, hform⟩ | ⟨places, hplaces, hpos, hlt, hform⟩ :=
    hcases
  all_goals rw [hform, Number.decimal]
  · left
    rw [Decimal.mk.injEq]
    dsimp only
    split
    · rename_i hone
      rw [Option.getD_none, List.append_nil, List.take_of_length_le hone.le, hvalue, Option.getD_some,
        List.length_nil]
      exact ⟨rfl, by omega⟩
    · rw [Option.getD_some, Option.getD_some, List.take_append_drop, hvalue, List.length_drop]
      exact ⟨rfl, by omega⟩
  · left
    rw [Decimal.mk.injEq, Option.getD_some, Option.getD_none, List.length_append, List.length_replicate]
    have hfraction : [0] ++ (List.replicate zeros 0 ++ digits) = List.replicate (zeros + 1) 0 ++ digits := by
      rw [List.replicate_succ]
      rfl
    rw [hfraction, Decimal.ofDigits_replicate_append, hvalue]
    exact ⟨rfl, by omega⟩
  · right
    refine ⟨zeros, hzeros, ?_⟩
    rw [Decimal.mk.injEq, Option.getD_some, Option.getD_none]
    have hwhole : digits ++ List.replicate zeros 0 ++ [0] = digits ++ List.replicate (zeros + 1) 0 := by
      rw [List.replicate_succ', List.append_assoc]
    rw [hwhole, Decimal.ofDigits_append_replicate, hvalue]
    exact ⟨rfl, rfl⟩
  · left
    rw [Decimal.mk.injEq, Option.getD_some, Option.getD_none, List.take_append_drop, hvalue, List.length_drop]
    exact ⟨rfl, by omega⟩

theorem negative_ofDecimal (negative : Bool) (d : Decimal) :
    (Number.ofDecimal negative d).negative = negative := by
  obtain hform | ⟨zeros, -, hform⟩ | ⟨zeros, -, hform⟩ | ⟨places, -, -, -, hform⟩ :=
    ofDecimal_cases negative d rfl
  all_goals rw [hform]

/-- What is written has the value of the decimal, if it is short. -/
theorem toBinary64_ofDecimal (negative : Bool) {d : Decimal} (hne : d.coefficient ≠ 0)
    (h : (Number.ofDecimal negative d).Short) :
    (Number.ofDecimal negative d).decimal.coefficient ≠ 0 ∧
      (Number.ofDecimal negative d).decimal.toBinary64 negative = d.toBinary64 negative := by
  obtain hd | ⟨zeros, hzeros, hd⟩ := decimal_ofDecimal negative hne
  · rw [hd]
    exact ⟨hne, rfl⟩
  · have hsmall := h.1
    rw [hd] at hsmall ⊢
    obtain ⟨c, e⟩ := d
    dsimp only at *
    subst hzeros
    have hpow : 0 < 10 ^ (zeros + 1) := Nat.pow_pos (by decide)
    have hmany : zeros ≤ 400 := by
      by_contra hmany
      have hten : 10 ^ 16 ≤ 10 ^ (zeros + 1) := Nat.pow_le_pow_right (by decide) (by omega)
      have hproduct : 10 ^ (zeros + 1) ≤ c * 10 ^ (zeros + 1) :=
        Nat.le_mul_of_pos_left _ (Nat.pos_of_ne_zero hne)
      omega
    have hcoefficient : c * 10 ^ (zeros + 1) ≠ 0 := Nat.mul_ne_zero hne hpow.ne'
    refine ⟨hcoefficient, ?_⟩
    have hread := Decimal.toBinary64_neg (k := 1) negative hcoefficient (by omega)
    rw [Decimal.toBinary64_natCast negative hne hmany]
    refine hread.trans ?_
    rw [Nat.pow_succ, ← Nat.mul_assoc]
    exact Binary64.ofRatio_mul_mul (by decide)

/-- A finite number that is written with few digits and not too many places. -/
def Brief (x : Binary64) : Prop := ∃ n, ofReal x = .number n ∧ n.Short

theorem real?_ofReal_zero (negative : Bool) :
    (ofReal (Binary64.zero negative)).real? = some (Binary64.zero negative) := by
  cases negative <;> decide +kernel

/-- A brief number is read as it was written. -/
theorem real?_ofReal {x : Binary64} (h : Brief x) : (ofReal x).real? = some x := by
  obtain ⟨n, hn, hshort⟩ := h
  cases x with
  | infinite negative => cases hn
  | nan => cases hn
  | finite x =>
    by_cases hzero : x.mantissa = 0
    · have hx : Binary64.finite x = Binary64.zero x.negative := by
        obtain ⟨negative, mantissa, scale, hnormal⟩ := x
        obtain rfl : mantissa = 0 := hzero
        obtain rfl : scale = 0 := hnormal.2.2.resolve_right (by decide)
        rfl
      rw [hx]
      exact real?_ofReal_zero x.negative
    · have hform : ofReal (.finite x) = .number (Number.ofDecimal x.negative (shortest .even x)) := by
        rw [ofReal, if_neg hzero]
      rw [hform] at hn ⊢
      cases hn
      obtain ⟨hne, hvalue⟩ := toBinary64_ofDecimal x.negative (coefficient_shortest_ne_zero .even hzero) hshort
      rw [real?, Number.real?_of_short hshort hne, negative_ofDecimal, hvalue, toBinary64_shortest .even hzero]

end Matchday.Json

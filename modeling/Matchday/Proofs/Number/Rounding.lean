import Matchday.Number.Binary64
import Mathlib.Algebra.Order.Ring.Nat
import Mathlib.Tactic.Ring

/-!
What rounding a ratio to the 64-bit format does. Below the largest number of the format the result is
finite, and it does not leave a stretch between two powers of two that the ratio lies in. The result depends
on the value of the ratio alone, and whole numbers with a short odd part are not changed.

Main statements: `Binary64.ofRatio_bounds`, `Binary64.ofRatio_mul_mul`, `Binary64.ofNat_exact`.
-/

namespace Matchday.Binary64
set_option autoImplicit false

variable {negative : Bool} {num den : Nat}

/-! ## The nearest natural number -/

theorem nearest_bounds (num den : Nat) :
    num / den ≤ nearest num den ∧ nearest num den ≤ num / den + 1 := by
  unfold nearest
  dsimp only
  split <;> omega

theorem nearest_mul_mul {c : Nat} (hc : 0 < c) : nearest (num * c) (den * c) = nearest num den := by
  have hdiv : num * c / (den * c) = num / den := Nat.mul_div_mul_right num den hc
  have hmod : num * c % (den * c) = num % den * c := Nat.mul_mod_mul_right c num den
  have hlt : 2 * (num % den * c) < den * c ↔ 2 * (num % den) < den := by
    rw [← Nat.mul_assoc, Nat.mul_lt_mul_right hc]
  have heq : 2 * (num % den * c) = den * c ↔ 2 * (num % den) = den := by
    rw [← Nat.mul_assoc, Nat.mul_left_inj hc.ne']
  simp only [nearest, hdiv, hmod, hlt, heq]

/-! ## A number of the format -/

theorem ofMantissa_of_normal {m s : Nat}
    (h : m < Nat.pow 2 53 ∧ s ≤ 2045 ∧ (s = 0 ∨ Nat.pow 2 52 ≤ m)) :
    ofMantissa negative m s = finite ⟨negative, m, s, h⟩ := by
  unfold ofMantissa
  simp only [h.1.ne, if_false]
  exact dif_pos h

/-- One step beyond the mantissas of a scale is the smallest one of the next scale. -/
theorem ofMantissa_carry {s : Nat} (h : s + 1 ≤ 2045) :
    ofMantissa negative (Nat.pow 2 53) s
      = finite ⟨negative, Nat.pow 2 52, s + 1, by decide, h, .inr (Nat.le_refl _)⟩ := by
  unfold ofMantissa
  simp only [if_true]
  exact dif_pos ⟨by decide, h, .inr (Nat.le_refl _)⟩

theorem neg_ofMantissa (m s : Nat) : (ofMantissa false m s).neg = ofMantissa true m s := by
  unfold ofMantissa
  dsimp only
  generalize (if m = Nat.pow 2 53 then (Nat.pow 2 52, s + 1) else (m, s)) = parts
  by_cases h : parts.1 < Nat.pow 2 53 ∧ parts.2 ≤ 2045 ∧ (parts.2 = 0 ∨ Nat.pow 2 52 ≤ parts.1)
  · rw [dif_pos h, dif_pos h]
    rfl
  · rw [dif_neg h, dif_neg h]
    rfl

/-- A mantissa and a scale within the format, or one step beyond the mantissas of its scale. -/
theorem ofMantissa_eq_finite {m s : Nat} (hm : m ≤ Nat.pow 2 53) (hs : s = 0 ∨ Nat.pow 2 52 ≤ m)
    (hmax : s ≤ 2045 ∧ (s = 2045 → m < Nat.pow 2 53)) :
    ∃ x : Finite, ofMantissa negative m s = finite x ∧ x.negative = negative ∧
      x.units = m * 2 ^ s := by
  obtain rfl | hlt := Nat.eq_or_lt_of_le hm
  · have hnext : s + 1 ≤ 2045 := by
      have := mt hmax.2 (Nat.lt_irrefl _)
      omega
    refine ⟨_, ofMantissa_carry hnext, rfl, ?_⟩
    change 2 ^ 52 * 2 ^ (s + 1) = 2 ^ 53 * 2 ^ s
    rw [← Nat.pow_add, ← Nat.pow_add]
    congr 1
    omega
  · exact ⟨_, ofMantissa_of_normal ⟨hlt, hmax.1, hs⟩, rfl, rfl⟩

/-! ## Rounding a ratio -/

/-- The scale at which a ratio of this many whole units is rounded. -/
def scaleOf (whole : Nat) : Nat := whole.log2 + 1 - 53

theorem lt_two_pow_scaleOf (whole : Nat) : whole / 2 ^ scaleOf whole < 2 ^ 53 := by
  rw [Nat.div_lt_iff_lt_mul (Nat.two_pow_pos _), ← Nat.pow_add]
  exact Nat.lt_of_lt_of_le Nat.lt_log2_self (Nat.pow_le_pow_right (by decide) (by rw [scaleOf]; omega))

theorem le_of_scaleOf_pos {whole : Nat} (h : 0 < scaleOf whole) : 2 ^ 52 ≤ whole / 2 ^ scaleOf whole := by
  have hne : whole ≠ 0 := by
    rintro rfl
    exact absurd h (by decide)
  rw [Nat.le_div_iff_mul_le (Nat.two_pow_pos _), ← Nat.pow_add]
  have hexponent : 52 + scaleOf whole = whole.log2 := by
    rw [scaleOf] at h ⊢
    omega
  rw [hexponent]
  exact Nat.log2_self_le hne

theorem ofRatio_eq (negative : Bool) (num den : Nat) : ofRatio negative num den =
    ofMantissa negative (nearest (num * one) (den * 2 ^ scaleOf (num * one / den)))
      (scaleOf (num * one / den)) := rfl

theorem two_pow_scaleOf_le {whole : Nat} (h : 0 < scaleOf whole) : 2 ^ scaleOf whole ≤ whole := by
  have hone : 1 ≤ whole / 2 ^ scaleOf whole := (le_of_scaleOf_pos h).trans' (by decide)
  rwa [Nat.le_div_iff_mul_le (Nat.two_pow_pos _), Nat.one_mul] at hone

/-- Below the largest mantissa of a scale no greater scale is needed, and at that scale the mantissa has room
for one more. -/
theorem scaleOf_le {whole k : Nat} (hmax : whole < (2 ^ 53 - 1) * 2 ^ k) :
    scaleOf whole ≤ k ∧ (scaleOf whole = k → whole / 2 ^ scaleOf whole + 1 < 2 ^ 53) := by
  constructor
  · by_contra hbig
    have hge : 2 ^ 52 ≤ whole / 2 ^ scaleOf whole := le_of_scaleOf_pos (by omega)
    rw [Nat.le_div_iff_mul_le (Nat.two_pow_pos _)] at hge
    have hpow : 2 ^ (k + 1) ≤ 2 ^ scaleOf whole := Nat.pow_le_pow_right (by decide) (by omega)
    rw [Nat.pow_succ] at hpow
    generalize 2 ^ k = step at *
    generalize 2 ^ scaleOf whole = unit at *
    omega
  · rintro rfl
    rw [← Nat.lt_sub_iff_add_lt, Nat.div_lt_iff_lt_mul (Nat.two_pow_pos _)]
    exact hmax

/-- Below the largest number the result is finite: so many units of its scale. -/
theorem ofRatio_eq_finite (negative : Bool) (hmax : num * one / den < (2 ^ 53 - 1) * 2 ^ 2045) :
    ∃ x : Finite, ofRatio negative num den = finite x ∧ x.negative = negative ∧
      x.units = nearest (num * one) (den * 2 ^ scaleOf (num * one / den))
        * 2 ^ scaleOf (num * one / den) := by
  have hscale := scaleOf_le hmax
  have hnearest := nearest_bounds (num * one) (den * 2 ^ scaleOf (num * one / den))
  rw [← Nat.div_div_eq_div_mul] at hnearest
  exact ofMantissa_eq_finite (hnearest.2.trans (lt_two_pow_scaleOf _))
    ((Nat.eq_zero_or_pos _).imp_right fun h => (le_of_scaleOf_pos h).trans hnearest.1)
    ⟨hscale.1, fun h => hnearest.2.trans_lt (hscale.2 h)⟩

/-! ### Powers of two on either side of a ratio -/

theorem rounded_le_two_pow {whole m j : Nat} (hm : m ≤ whole / 2 ^ scaleOf whole + 1) (hj : whole < 2 ^ j) :
    m * 2 ^ scaleOf whole ≤ 2 ^ j := by
  -- The power is a whole number of units of the scale.
  have hsj : scaleOf whole ≤ j := by
    obtain hzero | hunit := Nat.eq_zero_or_pos (scaleOf whole)
    · rw [hzero]
      exact Nat.zero_le j
    · exact ((Nat.pow_lt_pow_iff_right (by decide)).1 ((two_pow_scaleOf_le hunit).trans_lt hj)).le
  rw [← Nat.sub_add_cancel hsj, Nat.pow_add] at hj ⊢
  refine Nat.mul_le_mul_right _ (hm.trans ?_)
  rw [Nat.succ_le_iff, Nat.div_lt_iff_lt_mul (Nat.two_pow_pos _)]
  exact hj

theorem two_pow_le_rounded {whole m j : Nat} (hm : whole / 2 ^ scaleOf whole ≤ m) (hj : 2 ^ j ≤ whole) :
    2 ^ j ≤ m * 2 ^ scaleOf whole := by
  refine Nat.le_trans ?_ (Nat.mul_le_mul_right _ hm)
  obtain hsj | hsj := Nat.le_total (scaleOf whole) j
  · rw [← Nat.sub_add_cancel hsj, Nat.pow_add] at hj ⊢
    exact Nat.mul_le_mul_right _ ((Nat.le_div_iff_mul_le (Nat.two_pow_pos _)).2 hj)
  · obtain hzero | hunit := Nat.eq_zero_or_pos (scaleOf whole)
    · obtain rfl := Nat.le_zero.1 (hzero ▸ hsj)
      simpa [hzero] using hj
    · exact (Nat.pow_le_pow_right (by decide) hsj).trans
        (Nat.le_mul_of_pos_left _ ((le_of_scaleOf_pos hunit).trans' (by decide)))

theorem ofRatio_bounds (negative : Bool) (hmax : num * one / den < (2 ^ 53 - 1) * 2 ^ 2045) :
    ∃ x : Finite, ofRatio negative num den = finite x ∧
      (∀ j, num * one / den < 2 ^ j → x.units ≤ 2 ^ j) ∧
      ∀ j, 2 ^ j ≤ num * one / den → 2 ^ j ≤ x.units := by
  obtain ⟨x, hx, -, hunits⟩ := ofRatio_eq_finite negative hmax
  have hnearest := nearest_bounds (num * one) (den * 2 ^ scaleOf (num * one / den))
  rw [← Nat.div_div_eq_div_mul] at hnearest
  refine ⟨x, hx, fun j hj => ?_, fun j hj => ?_⟩ <;> rw [hunits]
  · exact rounded_le_two_pow hnearest.2 hj
  · exact two_pow_le_rounded hnearest.1 hj

theorem neg_ofRatio (num den : Nat) : (ofRatio false num den).neg = ofRatio true num den := by
  rw [ofRatio_eq, ofRatio_eq, neg_ofMantissa]

/-! ## Ratios of one value -/

/-- The result depends on the value of the ratio alone. -/
theorem ofRatio_mul_mul {c : Nat} (hc : 0 < c) :
    ofRatio negative (num * c) (den * c) = ofRatio negative num den := by
  have hnum : num * c * one = num * one * c := Nat.mul_right_comm num c one
  have hwhole : num * one * c / (den * c) = num * one / den := Nat.mul_div_mul_right _ _ hc
  have hden (k : Nat) : den * c * k = den * k * c := Nat.mul_right_comm den c k
  rw [ofRatio_eq, ofRatio_eq, hnum, hwhole, hden, nearest_mul_mul hc]

theorem mul_two_pow_lt {a b k : Nat} (ha : a < 2 ^ 53) (hb : b < k) :
    a * 2 ^ b < (2 ^ 53 - 1) * 2 ^ k :=
  Nat.lt_of_le_of_lt (Nat.mul_le_mul_right _ (Nat.le_pred_of_lt ha))
    (Nat.mul_lt_mul_of_pos_left (Nat.pow_lt_pow_right (by decide) hb) (by decide))

theorem scaleOf_mul_two_pow_le {a b : Nat} (ha : a < 2 ^ 53) : scaleOf (a * 2 ^ b) ≤ b := by
  obtain rfl | hpos := Nat.eq_zero_or_pos a
  · rw [Nat.zero_mul]
    exact Nat.zero_le b
  · have hlog : (a * 2 ^ b).log2 < 53 + b := by
      rw [Nat.log2_lt (Nat.mul_ne_zero hpos.ne' (Nat.two_pow_pos b).ne'), Nat.pow_add]
      exact Nat.mul_lt_mul_of_pos_right ha (Nat.two_pow_pos b)
    rw [scaleOf]
    omega

theorem nearest_of_scale_le {whole s b a : Nat} (hs : s ≤ b) (h : whole = a * 2 ^ b) :
    nearest whole (1 * 2 ^ s) * 2 ^ s = whole := by
  have hsplit : whole = a * 2 ^ (b - s) * 2 ^ s := by
    rw [h, Nat.mul_assoc, ← Nat.pow_add, Nat.sub_add_cancel hs]
  rw [Nat.one_mul, hsplit, nearest_mul_self (Nat.two_pow_pos s)]

/-- The exponent of one stays a variable, so that its power of two is not multiplied out. -/
theorem one_eq : ∃ k, k = 1074 ∧ one = 2 ^ k := by
  unfold one
  generalize 1074 = e
  exact ⟨e, rfl, rfl⟩

theorem one_pos : 0 < one := by
  obtain ⟨k, -, hone⟩ := one_eq
  exact hone ▸ Nat.two_pow_pos k

theorem ofNat_exact {n a b : Nat} (hn : n = a * 2 ^ b) (ha : a < 2 ^ 53) (hb : b < 900) :
    ∃ x : Finite, ofNat n = finite x ∧ x.negative = false ∧ x.units = n * one := by
  obtain ⟨k, hk, hone⟩ := one_eq
  have hwhole : n * one = a * 2 ^ (b + k) := by
    rw [hn, hone, Nat.mul_assoc, Nat.pow_add]
  have hmax : n * one / 1 < (2 ^ 53 - 1) * 2 ^ 2045 := by
    rw [Nat.div_one, hwhole]
    exact mul_two_pow_lt ha (by omega)
  obtain ⟨x, hx, hsign, hunits⟩ := ofRatio_eq_finite false hmax
  rw [Nat.div_one] at hunits
  have hscale : scaleOf (n * one) ≤ b + k := by
    rw [hwhole]
    exact scaleOf_mul_two_pow_le ha
  exact ⟨x, hx, hsign, hunits.trans (nearest_of_scale_le hscale hwhole)⟩

end Matchday.Binary64

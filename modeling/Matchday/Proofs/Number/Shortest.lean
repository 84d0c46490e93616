import Matchday.Number.Shortest
import Matchday.Proofs.Number.Rounding

/-!
The shortest decimal of a number reads back as the number. It was read back before it was chosen, or it is
the exact value, and a number of the format is its own nearest one.

Main statements: `Binary64.ofRatio_units`, `toBinary64_shortest`.
-/

namespace Matchday
set_option autoImplicit false

namespace Binary64

/-! ## Numbers of the format are not changed -/

theorem scaleOf_units (x : Finite) : scaleOf x.units = x.scale := by
  refine Nat.le_antisymm (scaleOf_mul_two_pow_le x.normal.1) ?_
  obtain hzero | hnormal := x.normal.2.2
  · rw [hzero]
    exact Nat.zero_le _
  · have hpow : 2 ^ (52 + x.scale) ≤ x.units := by
      rw [Nat.pow_add]
      exact Nat.mul_le_mul_right _ hnormal
    have hne : x.units ≠ 0 := (Nat.lt_of_lt_of_le (Nat.two_pow_pos _) hpow).ne'
    have hlog := (Nat.le_log2 hne).2 hpow
    rw [scaleOf]
    omega

/-- A number of the format is its own nearest one. -/
theorem ofRatio_units (x : Finite) : ofRatio x.negative x.units one = finite x := by
  obtain ⟨k, hk, hone⟩ := one_eq
  have hwhole : x.units * one / one = x.units := by
    rw [hone]
    exact Nat.mul_div_cancel _ (Nat.two_pow_pos k)
  have hnearest : nearest (x.units * one) (one * 2 ^ x.scale) = x.mantissa := by
    have hsplit : x.units * one = x.mantissa * (one * 2 ^ x.scale) := by
      rw [Nat.mul_left_comm, Nat.mul_comm]
      rfl
    rw [hsplit, hone]
    exact nearest_mul_self (Nat.mul_pos (Nat.two_pow_pos k) (Nat.two_pow_pos x.scale))
  rw [ofRatio_eq, hwhole, scaleOf_units, hnearest]
  exact ofMantissa_of_normal x.normal

end Binary64

/-! ## Reading back -/

theorem Decimal.toBinary64_natCast {c k : Nat} (negative : Bool) (hc : c ≠ 0) (hk : k ≤ 400) :
    Decimal.toBinary64 negative ⟨c, k⟩ = Binary64.ofRatio negative (c * 10 ^ k) 1 := by
  rw [Decimal.toBinary64, if_neg hc]
  exact if_neg (Nat.not_lt.2 hk)

theorem Decimal.toBinary64_negSucc {c k : Nat} (negative : Bool) (hc : c ≠ 0) (hk : k ≤ 400 + c.log2) :
    Decimal.toBinary64 negative ⟨c, .negSucc k⟩ = Binary64.ofRatio negative c (10 ^ (k + 1)) := by
  rw [Decimal.toBinary64, if_neg hc]
  exact if_neg (Nat.not_lt.2 hk)

theorem Decimal.toBinary64_neg {c k : Nat} (negative : Bool) (hc : c ≠ 0) (hk : k ≤ 400 + c.log2) :
    Decimal.toBinary64 negative ⟨c, -k⟩ = Binary64.ofRatio negative c (10 ^ k) := by
  cases k with
  | zero =>
    have hread := Decimal.toBinary64_natCast negative hc (Nat.zero_le 400)
    rwa [Nat.pow_zero, Nat.mul_one] at hread
  | succ k => exact Decimal.toBinary64_negSucc negative hc (Nat.le_of_succ_le hk)

/-- A number of binary places is one of as many decimal places. -/
theorem toBinary64_binaryPlaces {n : Nat} (negative : Bool) (hn : 0 < n) (k : Nat) :
    Decimal.toBinary64 negative ⟨n * Nat.pow 5 k, -k⟩ = Binary64.ofRatio negative n (Nat.pow 2 k) := by
  have hfive : 2 ^ k ≤ n * 5 ^ k :=
    (Nat.pow_le_pow_left (by decide) _).trans (Nat.le_mul_of_pos_left _ hn)
  have hne : n * 5 ^ k ≠ 0 := (Nat.lt_of_lt_of_le (Nat.two_pow_pos _) hfive).ne'
  have hlog : k ≤ (n * 5 ^ k).log2 := (Nat.le_log2 hne).2 hfive
  have hten : 10 ^ k = 2 ^ k * 5 ^ k := Nat.mul_pow 2 5 k
  refine (Decimal.toBinary64_neg negative hne (by omega)).trans ?_
  rw [hten]
  exact Binary64.ofRatio_mul_mul (Nat.pow_pos (by decide))

theorem toBinary64_exact {x : Binary64.Finite} (h : x.mantissa ≠ 0) :
    (Shortest.exact x).toBinary64 x.negative = .finite x := by
  have hunits : 0 < x.units := Nat.mul_pos (Nat.pos_of_ne_zero h) (Nat.two_pow_pos x.scale)
  have hexponent : (-1074 : Int) = -(1074 : Nat) := rfl
  rw [← Binary64.ofRatio_units x]
  unfold Binary64.one Shortest.exact
  rw [hexponent]
  generalize 1074 = k
  exact toBinary64_binaryPlaces x.negative hunits k

/-- The shortest decimal of a number other than zero reads back as the number. -/
theorem toBinary64_shortest (tie : Shortest.Tie) {x : Binary64.Finite} (h : x.mantissa ≠ 0) :
    (shortest tie x).toBinary64 x.negative = .finite x := by
  unfold shortest
  dsimp only
  split
  · rename_i hreads
    exact eq_of_beq hreads
  · exact toBinary64_exact h

theorem coefficient_shortest_ne_zero (tie : Shortest.Tie) {x : Binary64.Finite} (h : x.mantissa ≠ 0) :
    (shortest tie x).coefficient ≠ 0 := by
  intro hzero
  have hread := toBinary64_shortest tie h
  rw [Decimal.toBinary64, if_pos hzero] at hread
  exact h (congrArg Binary64.Finite.mantissa (Binary64.finite.inj hread)).symm

end Matchday

import Matchday.Json.Real
import Matchday.Proofs.Json.Numbers
import Matchday.Proofs.Json.Reading
import Matchday.Proofs.Number.Shortest

/-!
Floating-point numbers in documents. Whatever is written is a plain document, and whatever is read is
finite: the digits that are kept fit into sixty-four bits, division by a power of ten does not make a number
greater, and a product that is not finite is refused.

Main statements: `Json.plain_ofReal`, `Json.Number.real?_isFinite`.
-/

namespace Matchday.Json
set_option autoImplicit false

/-! ## What is read is finite -/

theorem fill_lt {n : Nat} {ds : List Nat} (h : n < 2 ^ 64) : (fill n ds).1 < 2 ^ 64 := by
  induction ds generalizing n with
  | nil => exact h
  | cons d ds ih =>
    rw [fill]
    split
    · rename_i hfits
      exact ih hfits
    · exact h

/-- A finite number that does not exceed the greatest row of digits that is kept. -/
def Moderate (x : Binary64) : Prop := ∃ y : Binary64.Finite, x = .finite y ∧ y.units ≤ 2 ^ 64 * Binary64.one

theorem Moderate.isFinite {x : Binary64} (h : Moderate x) : x.isFinite = true := by
  obtain ⟨y, rfl, -⟩ := h
  rfl

theorem whole_lt_max {n j : Nat} (h : n < 2 ^ j) (hj : j < 900) :
    n * Binary64.one / 1 < (2 ^ 53 - 1) * 2 ^ 2045 := by
  obtain ⟨k, hk, hone⟩ := Binary64.one_eq
  have hwhole : n * Binary64.one < 1 * 2 ^ (j + k) := by
    rw [Nat.one_mul, hone, Nat.pow_add]
    exact Nat.mul_lt_mul_of_pos_right h (Nat.two_pow_pos k)
  rw [Nat.div_one]
  exact hwhole.trans (Binary64.mul_two_pow_lt (by decide) (by omega))

theorem moderate_ofNat {n : Nat} (h : n < 2 ^ 64) : Moderate (Binary64.ofNat n) := by
  obtain ⟨k, hk, hone⟩ := Binary64.one_eq
  have hwhole : n * Binary64.one / 1 < 2 ^ (64 + k) := by
    rw [Nat.div_one, hone, Nat.pow_add]
    exact Nat.mul_lt_mul_of_pos_right h (Nat.two_pow_pos k)
  obtain ⟨x, hx, hupper, -⟩ := Binary64.ofRatio_bounds false (whole_lt_max h (by decide))
  refine ⟨x, hx, ?_⟩
  rw [hone, ← Nat.pow_add]
  exact hupper _ hwhole

theorem powerOfTen_eq (k : Nat) : Binary64.powerOfTen k = Binary64.ofRatio false (10 ^ k) 1 := rfl

/-- A power of ten within the format is two at least. -/
theorem powerOfTen_bounds {k : Nat} (hpos : 0 < k) (hmax : k ≤ 308) :
    ∃ y : Binary64.Finite, Binary64.powerOfTen k = .finite y ∧ 2 * Binary64.one ≤ y.units := by
  obtain ⟨e, he, hone⟩ := Binary64.one_eq
  have hten : 2 ^ 1 ≤ 10 ^ k := (Nat.pow_le_pow_right (by decide) hpos).trans' (by decide)
  have hbelow : 10 ^ k * Binary64.one / 1 < (2 ^ 53 - 1) * 2 ^ 2045 := by
    rw [Nat.div_one]
    refine Nat.lt_of_le_of_lt (Nat.mul_le_mul_right _ (Nat.pow_le_pow_right (by decide) hmax)) ?_
    decide +kernel
  obtain ⟨y, hy, -, hlower⟩ := Binary64.ofRatio_bounds false hbelow
  have htwo : 2 ^ (1 + e) ≤ 10 ^ k * Binary64.one / 1 := by
    rw [Nat.div_one, hone, Nat.pow_add]
    exact Nat.mul_le_mul_right _ hten
  have hunits := hlower _ htwo
  rw [Nat.pow_add, ← hone, Nat.pow_one] at hunits
  exact ⟨y, (powerOfTen_eq k).trans hy, hunits⟩

/-- Half of the dividend at most, so that rounding up does not pass the bound. -/
theorem div_lt_of_two_le {a b c unit : Nat} (ha : a ≤ c * unit) (hb : 2 * unit ≤ b) (hc : 0 < c)
    (hunit : 0 < unit) : a * unit / b < c * unit := by
  rw [Nat.div_lt_iff_lt_mul (Nat.lt_of_lt_of_le (Nat.mul_pos (by decide) hunit) hb)]
  have hcunit : 0 < c * unit := Nat.mul_pos hc hunit
  calc a * unit ≤ c * unit * unit := Nat.mul_le_mul_right _ ha
    _ < c * unit * (2 * unit) := Nat.mul_lt_mul_of_pos_left (by omega) hcunit
    _ ≤ c * unit * b := Nat.mul_le_mul_left _ hb

theorem Moderate.div_powerOfTen {x : Binary64} {k : Nat} (h : Moderate x) (hpos : 0 < k) (hmax : k ≤ 308) :
    Moderate (x.div (Binary64.powerOfTen k)) := by
  obtain ⟨x, rfl, hx⟩ := h
  obtain ⟨y, hy, hten⟩ := powerOfTen_bounds hpos hmax
  obtain ⟨e, he, hone⟩ := Binary64.one_eq
  rw [hone] at hx hten
  have hypos : y.units ≠ 0 := by
    have := Nat.two_pow_pos e
    omega
  have hwhole : x.units * Binary64.one / y.units < 2 ^ (64 + e) := by
    rw [Nat.pow_add, hone]
    exact div_lt_of_two_le hx hten (by decide) (Nat.two_pow_pos e)
  have hbelow : x.units * Binary64.one / y.units < (2 ^ 53 - 1) * 2 ^ 2045 := by
    refine hwhole.trans ?_
    rw [← Nat.one_mul (2 ^ (64 + e))]
    exact Binary64.mul_two_pow_lt (by decide) (by omega)
  obtain ⟨z, hz, hupper, -⟩ := Binary64.ofRatio_bounds (x.negative != y.negative) hbelow
  refine ⟨z, ?_, ?_⟩
  · rw [hy, Binary64.div, if_neg hypos, hz]
  · rw [hone, ← Nat.pow_add]
    exact hupper _ hwhole

theorem Moderate.scaleDown {x : Binary64} {k : Nat} (h : Moderate x) (hpos : 0 < k) :
    Moderate (scaleDown x k) := by
  induction x, k using Json.scaleDown.induct with
  | case1 x k hmax =>
    rw [Json.scaleDown, if_pos hmax]
    exact h.div_powerOfTen hpos hmax
  | case2 k hbig =>
    rw [Json.scaleDown, if_neg hbig, if_pos rfl]
    exact h
  | case3 x k hbig hne ih =>
    rw [Json.scaleDown, if_neg hbig, if_neg hne]
    exact ih (h.div_powerOfTen (by decide) (Nat.le_refl _)) (by omega)

theorem Moderate.scale?_isFinite {x y : Binary64} {e : Int} (h : Moderate x) (hy : scale? x e = some y) :
    y.isFinite = true := by
  cases e with
  | ofNat k =>
    rw [scale?] at hy
    split_ifs at hy with hzero hbig
    · injection hy with hy
      exact hy ▸ h.isFinite
    · dsimp only at hy
      split_ifs at hy with hfinite
      injection hy with hy
      exact hy ▸ hfinite
  | negSucc k =>
    rw [scale?] at hy
    injection hy with hy
    exact hy ▸ (h.scaleDown k.succ_pos).isFinite

theorem isFinite_neg (x : Binary64) : x.neg.isFinite = x.isFinite := by
  cases x <;> rfl

/-- A number that is read is finite. -/
theorem Number.real?_isFinite {n : Number} {x : Binary64} (h : n.real? = some x) : x.isFinite = true := by
  have hmoderate : ∀ ds, Moderate (Binary64.ofNat (fill (fill 0 n.whole).1 ds).1) :=
    fun ds => moderate_ofNat (fill_lt (fill_lt (by decide)))
  obtain ⟨y, hy, rfl⟩ := Option.map_eq_some_iff.1 h
  have hfinite := (hmoderate _).scale?_isFinite hy
  split
  · rw [isFinite_neg, hfinite]
  · exact hfinite

theorem real?_isFinite {v : Json} {x : Binary64} (h : v.real? = some x) : x.isFinite = true := by
  cases v with
  | number n => exact Number.real?_isFinite h
  | _ => cases h

/-! ## What is written is plain -/

/-- The four shapes in which a decimal is written: with an exponent, below one, whole and mixed. -/
theorem ofDecimal_cases (negative : Bool) (d : Decimal) {digits : List Nat}
    (hdigits : digits = Decimal.digitsOf d.coefficient) :
    (Number.ofDecimal negative d = ⟨negative, digits.take 1,
        if digits.length = 1 then none else some (digits.drop 1), some (digits.length + d.exponent - 1)⟩) ∨
    (∃ zeros : Nat, -(zeros : Int) = digits.length + d.exponent ∧
      Number.ofDecimal negative d = ⟨negative, [0], some (List.replicate zeros 0 ++ digits), none⟩) ∨
    (∃ zeros : Nat, (zeros : Int) = d.exponent ∧
      Number.ofDecimal negative d = ⟨negative, digits ++ List.replicate zeros 0, some [0], none⟩) ∨
    ∃ places : Nat, (places : Int) = digits.length + d.exponent ∧ 0 < places ∧ places < digits.length ∧
      Number.ofDecimal negative d = ⟨negative, digits.take places, some (digits.drop places), none⟩ := by
  unfold Number.ofDecimal
  dsimp only
  rw [← hdigits]
  generalize hpoint : (digits.length : Int) + d.exponent = point
  by_cases hexponent : 16 < point ∨ point < -4
  · exact .inl (if_pos hexponent)
  rw [if_neg hexponent]
  by_cases hbelow : point ≤ 0
  · exact .inr (.inl ⟨(-point).toNat, by omega, if_pos hbelow⟩)
  rw [if_neg hbelow]
  by_cases hwhole : digits.length ≤ point.toNat
  · exact .inr (.inr (.inl ⟨point.toNat - digits.length, by omega, if_pos hwhole⟩))
  · exact .inr (.inr (.inr ⟨point.toNat, by omega, by omega, by omega, if_neg hwhole⟩))

theorem head?_take_of_pos {ds : List Nat} {k : Nat} (h : 0 < k) : (ds.take k).head? = ds.head? := by
  obtain ⟨k, rfl⟩ := Nat.exists_eq_succ_of_ne_zero h.ne'
  cases ds <;> rfl

theorem lt_ten_of_mem_zero : ∀ d ∈ [0], d < 10 := by decide

theorem wellFormed_ofDecimal (negative : Bool) {d : Decimal} (h : d.coefficient ≠ 0) :
    (Number.ofDecimal negative d).WellFormed := by
  have hne : Decimal.digitsOf d.coefficient ≠ [] := mt Decimal.digitsOf_eq_nil_iff.1 h
  have hten := Decimal.lt_ten_of_mem_digitsOf (n := d.coefficient)
  have hhead := Decimal.head?_digitsOf_ne_zero d.coefficient
  have hcases := ofDecimal_cases negative d rfl
  generalize Decimal.digitsOf d.coefficient = digits at *
  have hlength : 0 < digits.length := List.length_pos_iff.2 hne
  have hzeros : ∀ k, ∀ z ∈ List.replicate k 0, z < 10 := fun k z hz => by
    rw [List.eq_of_mem_replicate hz]
    decide
  obtain hform | ⟨zeros, -, hform⟩ | ⟨zeros, -, hform⟩ | ⟨places, -, hpos, hplaces, hform⟩ := hcases
  all_goals rw [hform]
  · refine ⟨?_, fun z hz => hten z (List.mem_of_mem_take hz), fun hzero => ?_, fun ds hds => ?_⟩
    · rw [Ne, List.take_eq_nil_iff]
      simp [hne]
    · exact absurd (head?_take_of_pos Nat.one_pos ▸ hzero) hhead
    · dsimp only at hds
      split_ifs at hds with hone
      · cases hds
      · cases hds
        refine ⟨?_, fun z hz => hten z (List.mem_of_mem_drop hz)⟩
        rw [Ne, List.drop_eq_nil_iff]
        omega
  · refine ⟨List.cons_ne_nil 0 [], lt_ten_of_mem_zero, fun _ => rfl, ?_⟩
    rintro _ ⟨⟩
    exact ⟨List.append_ne_nil_of_right_ne_nil _ hne, List.forall_mem_append.2 ⟨hzeros _, hten⟩⟩
  · refine ⟨List.append_ne_nil_of_left_ne_nil hne _, List.forall_mem_append.2 ⟨hten, hzeros _⟩,
      fun hzero => ?_, ?_⟩
    · obtain ⟨z, zs, rfl⟩ := List.exists_cons_of_ne_nil hne
      exact absurd hzero hhead
    · rintro _ ⟨⟩
      exact ⟨List.cons_ne_nil 0 [], lt_ten_of_mem_zero⟩
  · refine ⟨?_, fun z hz => hten z (List.mem_of_mem_take hz), fun hzero => ?_, ?_⟩
    · rw [Ne, List.take_eq_nil_iff]
      simp [hne, hpos.ne']
    · exact absurd (head?_take_of_pos hpos ▸ hzero) hhead
    · rintro _ ⟨⟩
      refine ⟨?_, fun z hz => hten z (List.mem_of_mem_drop hz)⟩
      rw [Ne, List.drop_eq_nil_iff]
      omega

/-- A number is written in the shape that JSON asks for, and as null if it is not finite. -/
theorem plain_ofReal (x : Binary64) : (ofReal x).Plain := by
  cases x with
  | finite x =>
    refine .number ?_
    split
    · refine ⟨List.cons_ne_nil 0 [], lt_ten_of_mem_zero, fun _ => rfl, ?_⟩
      rintro _ ⟨⟩
      exact ⟨List.cons_ne_nil 0 [], lt_ten_of_mem_zero⟩
    · rename_i hne
      exact wellFormed_ofDecimal x.negative (coefficient_shortest_ne_zero .even hne)
  | infinite negative => exact .null
  | nan => exact .null

end Matchday.Json

import Matchday.Proofs.Wire.Identifiers
import Mathlib.Data.Char

/-!
The order of identifiers is that of their written forms. A byte is written with two digits, the higher one first, and
the digits are in the order of their characters; the hyphens stand at the same places in any two written forms, so
that they decide nothing.

Main statements: `Id.compare_eq_compare_toText`, `Id.map_toText_sort`.
-/

namespace Matchday.Id
set_option autoImplicit false

/-! ## Rows of characters -/

/-- Two rows with fronts of one length are compared by these first. -/
theorem compare_append {α : Type} [Ord α] {as bs cs ds : List α} (h : as.length = bs.length) :
    compare (as ++ cs) (bs ++ ds) = (compare as bs).then (compare cs ds) := by
  induction as generalizing bs with
  | nil =>
    obtain rfl := List.length_eq_zero_iff.1 h.symm
    rfl
  | cons a as ih =>
    cases bs with
    | nil => cases h
    | cons b bs =>
      rw [List.cons_append, List.cons_append, List.compare_cons_cons, List.compare_cons_cons,
        ih (Nat.succ.inj h), Ordering.then_assoc]

/-- Hyphens at the same places decide nothing. -/
theorem compare_group {ns : List Nat} {cs ds : List Char} (h : cs.length = ds.length) :
    compare (group ns cs) (group ns ds) = compare cs ds := by
  induction ns generalizing cs ds with
  | nil => rfl
  | cons n ns ih =>
    cases ns with
    | nil => rfl
    | cons m ns =>
      have htake : (cs.take n).length = (ds.take n).length := by rw [List.length_take, List.length_take, h]
      have hdrop : (cs.drop n).length = (ds.drop n).length := by rw [List.length_drop, List.length_drop, h]
      have hhyphen : compare '-' '-' = .eq := by decide
      calc compare (group (n :: m :: ns) cs) (group (n :: m :: ns) ds)
          = (compare (cs.take n) (ds.take n)).then (compare (cs.drop n) (ds.drop n)) := by
            rw [group_cons_cons, group_cons_cons, compare_append htake, List.compare_cons_cons, hhyphen,
              Ordering.eq_then, ih hdrop]
        _ = compare (cs.take n ++ cs.drop n) (ds.take n ++ ds.drop n) := (compare_append htake).symm
        _ = compare cs ds := by rw [List.take_append_drop, List.take_append_drop]

/-- A row is in front of another one in the order of rows if it is compared so. -/
theorem compare_eq_lt_iff_lt {as bs : List Char} : compare as bs = .lt ↔ as < bs := by
  induction as generalizing bs with
  | nil => cases bs <;> simp
  | cons a as ih =>
    cases bs with
    | nil => simp
    | cons b bs =>
      rw [List.compare_cons_cons, Ordering.then_eq_lt, compare_lt_iff_lt, compare_eq_iff_eq, ih,
        List.cons_lt_cons_iff]

/-- Texts are in the order in which their characters are compared. -/
theorem isLE_compare_toList {s t : String} : (compare s.toList t.toList).isLE = true ↔ s ≤ t := by
  rw [Ordering.isLE_iff_ne_gt, Std.OrientedCmp.gt_iff_lt, compare_eq_lt_iff_lt, ← String.lt_iff, String.not_lt]

/-! ## Bytes -/

theorem compareBytes_eq_compare (as bs : List UInt8) : compareBytes as bs = compare as bs := by
  induction as generalizing bs with
  | nil => cases bs <;> rfl
  | cons a as ih =>
    cases bs with
    | nil => rfl
    | cons b bs =>
      rw [compareBytes, ih, List.compare_cons_cons]
      cases hab : compare a b with
      | lt => rw [if_pos (Std.compare_eq_lt.1 hab), Ordering.lt_then]
      | eq =>
        obtain rfl := Std.compare_eq_iff_eq.1 hab
        rw [if_neg (UInt8.lt_irrefl a), if_neg (UInt8.lt_irrefl a), Ordering.eq_then]
      | gt =>
        have hgt := Std.compare_eq_gt.1 hab
        rw [if_neg (UInt8.lt_asymm hgt), if_pos hgt, Ordering.gt_then]

/-- Numbers are compared by their higher digits first. -/
theorem compare_div_then_compare_mod (m n : Nat) :
    (compare (m / 16) (n / 16)).then (compare (m % 16) (n % 16)) = compare m n := by
  rcases Nat.lt_trichotomy m n with hlt | rfl | hgt
  · rw [Nat.compare_eq_lt.2 hlt, Ordering.then_eq_lt, Nat.compare_eq_lt, Nat.compare_eq_eq, Nat.compare_eq_lt]
    omega
  · rw [Std.compare_self, Std.compare_self, Std.compare_self, Ordering.eq_then]
  · rw [Nat.compare_eq_gt.2 hgt, Ordering.then_eq_gt, Nat.compare_eq_gt, Nat.compare_eq_eq, Nat.compare_eq_gt]
    omega

theorem compare_hexDigit : ∀ m n : Fin 16, compare (Text.hexDigit m) (Text.hexDigit n) = compare m.val n.val := by
  decide

theorem compare_byteText (a b : UInt8) : compare (byteText a) (byteText b) = compare a b := by
  have hdigit : ∀ {m n : Nat}, m < 16 → n < 16 → compare (Text.hexDigit m) (Text.hexDigit n) = compare m n :=
    fun hm hn => compare_hexDigit ⟨_, hm⟩ ⟨_, hn⟩
  have ha : a.toNat < 256 := a.toNat_lt
  have hb : b.toNat < 256 := b.toNat_lt
  rw [byteText, byteText, List.compare_cons_cons, List.compare_cons_cons, List.compare_nil_nil, Ordering.then_eq,
    hdigit (by omega) (by omega), hdigit (by omega) (by omega), compare_div_then_compare_mod,
    UInt8.compare_eq_toNat_compare_toNat]

theorem compare_flatMap_byteText (as bs : List UInt8) :
    compare (as.flatMap byteText) (bs.flatMap byteText) = compare as bs := by
  induction as generalizing bs with
  | nil => cases bs <;> rfl
  | cons a as ih =>
    cases bs with
    | nil => rfl
    | cons b bs =>
      have hlength : (byteText a).length = (byteText b).length := rfl
      rw [List.flatMap_cons, List.flatMap_cons, compare_append hlength, compare_byteText, ih, List.compare_cons_cons]

/-! ## Identifiers -/

variable {e : Entity}

/-- Identifiers are in the order of their written forms, compared character by character. -/
theorem compare_eq_compare_toText (a b : Id e) : a.compare b = compare a.toText.toList b.toText.toList := by
  have hlength : a.digits.length = b.digits.length := a.length_digits.trans b.length_digits.symm
  calc a.compare b = compare a.bytes b.bytes := compareBytes_eq_compare a.bytes b.bytes
    _ = compare a.digits b.digits := (compare_flatMap_byteText a.bytes b.bytes).symm
    _ = compare (group groups a.digits) (group groups b.digits) := (compare_group hlength).symm
    _ = compare a.toText.toList b.toText.toList := by rw [toText, toText, String.toList_ofList, String.toList_ofList]

/-- Sorting identifiers sorts their written forms. -/
theorem map_toText_sort (ids : List (Id e)) :
    (sort ids).map toText = (ids.map toText).mergeSort fun s t => s ≤ t := by
  apply List.map_mergeSort
  intro a _ b _
  rw [Bool.eq_iff_iff, compare_eq_compare_toText, isLE_compare_toList, decide_eq_true_iff]

end Matchday.Id

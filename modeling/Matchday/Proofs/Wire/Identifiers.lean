import Matchday.Id
import Mathlib.Tactic.Common

/-!
An identifier is read from its written form. Cutting a row of digits into groups loses none of them, and two
digits spell one byte.

Main statement: `Id.read?_toText`.
-/

namespace Matchday.Id
set_option autoImplicit false

variable {e : Entity}

/-! ## Bytes -/

theorem hexValue?_hexDigit_of_lt {n : Nat} (h : n < 16) : Text.hexValue? (Text.hexDigit n) = some n :=
  Text.hexValue?_hexDigit ⟨n, h⟩

/-- The two digits of a byte. -/
def byteText (b : UInt8) : List Char := [Text.hexDigit (b.toNat / 16), Text.hexDigit (b.toNat % 16)]

theorem ofDigits?_flatMap_byteText (bytes : List UInt8) :
    ofDigits? (bytes.flatMap byteText) = some bytes := by
  induction bytes with
  | nil => rfl
  | cons b bytes ih =>
    have hsize : b.toNat < 256 := b.toNat_lt
    have high := hexValue?_hexDigit_of_lt (n := b.toNat / 16) (by omega)
    have low := hexValue?_hexDigit_of_lt (n := b.toNat % 16) (by omega)
    have hbyte : UInt8.ofNat (b.toNat / 16 * 16 + b.toNat % 16) = b := by
      rw [Nat.div_add_mod', UInt8.ofNat_toNat]
    rw [List.flatMap_cons, byteText, List.cons_append, List.singleton_append, ofDigits?, high, low, ih]
    exact congrArg (fun b => some (b :: bytes)) hbyte

theorem length_flatMap_byteText (bytes : List UInt8) :
    (bytes.flatMap byteText).length = 2 * bytes.length := by
  induction bytes with
  | nil => rfl
  | cons b bytes ih =>
    rw [List.flatMap_cons, List.length_append, ih, byteText, List.length_cons, List.length_singleton,
      List.length_cons]
    omega

theorem length_digits (id : Id e) : id.digits.length = 32 :=
  (length_flatMap_byteText id.bytes).trans (by rw [id.size])

/-! ## Groups -/

theorem group_cons_cons (n m : Nat) (ns : List Nat) (cs : List Char) :
    group (n :: m :: ns) cs = cs.take n ++ '-' :: group (m :: ns) (cs.drop n) := rfl

theorem ungroup?_group {ns : List Nat} {cs : List Char} (h : cs.length = ns.foldr (· + ·) 0) :
    ungroup? ns (group ns cs) = some cs := by
  induction ns generalizing cs with
  | nil => simp_all [group, ungroup?]
  | cons n ns ih =>
    rw [List.foldr_cons] at h
    cases ns with
    | nil => simp_all [group, ungroup?]
    | cons m ns =>
      have htake : (cs.take n).length = n := List.length_take_of_le (by omega)
      have hdrop : (cs.drop n).length = (m :: ns).foldr (· + ·) 0 := by
        rw [List.length_drop]
        omega
      rw [group_cons_cons, ungroup?.eq_def]
      simp only [List.drop_left' htake, List.take_left' htake, ih hdrop, Option.map_some,
        List.take_append_drop]

/-- As many hyphens as there are groups, but for one, are between them. -/
theorem length_group {n : Nat} {ns : List Nat} {cs : List Char} (h : cs.length = (n :: ns).foldr (· + ·) 0) :
    (group (n :: ns) cs).length = cs.length + ns.length := by
  induction ns generalizing n cs with
  | nil => rfl
  | cons m ns ih =>
    rw [List.foldr_cons] at h
    have hdrop : (cs.drop n).length = (m :: ns).foldr (· + ·) 0 := by
      rw [List.length_drop]
      omega
    rw [group_cons_cons, List.length_append, List.length_cons, ih hdrop, List.length_drop,
      List.length_take_of_le (by omega), List.length_cons]
    omega

/-! ## Identifiers -/

theorem read?_toText (id : Id e) : read? id.toText = some id := by
  have hlength : id.digits.length = groups.foldr (· + ·) 0 := id.length_digits
  have hgroups : (group groups id.digits).length = 36 :=
    (length_group hlength).trans (by rw [hlength]; rfl)
  have hdigits : digits? (group groups id.digits) = some id.digits := by
    rw [digits?, unwrap?, if_neg (by omega), if_pos hgroups, Option.bind_some, ungroup?_group hlength]
  have hbytes : ofDigits? id.digits = some id.bytes := ofDigits?_flatMap_byteText id.bytes
  rw [read?, toText, String.toList_ofList, hdigits, Option.bind_some, hbytes, Option.bind_some, ofBytes?,
    dif_pos id.size]

/-! ## Small identifiers -/

/-- The identifier that repeats one byte. -/
def repeated (byte : UInt8) : Id e := ⟨List.replicate 16 byte, List.length_replicate⟩

end Matchday.Id

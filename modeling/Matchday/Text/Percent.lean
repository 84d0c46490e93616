import Matchday.Text.Hex

/-!
Percent-encoding of a text inside a URL: letters, digits and the four marks `-`, `.`, `_`, `~` stand
for themselves, every other byte of the text's UTF-8 form is written as a percent sign and two
upper-case hexadecimal digits. Decoding gives the bytes back (`decode_flatMap_encodeByte`).
-/

namespace Matchday.Text.Percent
set_option autoImplicit false

/-- The bytes that stand for themselves. -/
def isUnreserved (b : UInt8) : Bool :=
  let n := b.toNat
  (0x30 ≤ n && n ≤ 0x39) || (0x41 ≤ n && n ≤ 0x5a) || (0x61 ≤ n && n ≤ 0x7a)
    || n == 0x2d || n == 0x2e || n == 0x5f || n == 0x7e

/-- One byte as it stands in a URL. -/
def encodeByte (b : UInt8) : List Char :=
  if isUnreserved b then [Char.ofNat b.toNat]
  else ['%', upperHexDigit (b.toNat / 16), upperHexDigit (b.toNat % 16)]

/-- The bytes of a text in UTF-8. -/
def bytes (s : String) : List UInt8 := s.toList.flatMap String.utf8EncodeChar

/-- The percent-encoded form of a text. -/
def encode (s : String) : String := String.ofList ((bytes s).flatMap encodeByte)

/-- The bytes that an encoded text stands for; fails on a percent sign without two digits and on a
character that does not stand for itself. -/
def decode : List Char → Option (List UInt8)
  | [] => some []
  | '%' :: a :: b :: rest => do
    let high ← hexValue? a
    let low ← hexValue? b
    let tail ← decode rest
    pure (UInt8.ofNat (high * 16 + low) :: tail)
  | c :: rest =>
    if c.toNat < 128 && isUnreserved (UInt8.ofNat c.toNat) then
      (decode rest).map (UInt8.ofNat c.toNat :: ·)
    else none

/-! ## Decoding undoes encoding -/

theorem toNat_lt_of_isUnreserved {b : UInt8} (h : isUnreserved b = true) : b.toNat < 128 := by
  simp only [isUnreserved, Bool.or_eq_true, Bool.and_eq_true, decide_eq_true_eq, beq_iff_eq] at h
  omega

theorem decode_encodeByte (b : UInt8) (rest : List Char) :
    decode (encodeByte b ++ rest) = (decode rest).map (b :: ·) := by
  have hb : UInt8.ofNat b.toNat = b := by simp
  have hlt : b.toNat < 256 := b.toNat_lt_size
  by_cases hu : isUnreserved b = true
  · have h128 := toNat_lt_of_isUnreserved hu
    have hc : (Char.ofNat b.toNat).toNat = b.toNat := by
      have hv : b.toNat.isValidChar := Or.inl (by omega)
      rw [Char.ofNat, dif_pos hv]
      rfl
    have hp : Char.ofNat b.toNat ≠ '%' := by
      intro e
      have he : b.toNat = 37 := by rw [← hc, e]; rfl
      have : b = 37 := UInt8.toNat_inj.mp he
      subst this
      exact absurd hu (by decide)
    rw [encodeByte, if_pos hu, List.singleton_append, decode]
    · simp [hc, h128, hu]
    · intro _ _ _ e
      exact absurd e hp
  · have hh := hexValue?_upperHexDigit ⟨b.toNat / 16, by omega⟩
    have hl := hexValue?_upperHexDigit ⟨b.toNat % 16, by omega⟩
    simp only at hh hl
    rw [encodeByte, if_neg hu, List.cons_append, List.cons_append, List.cons_append,
      List.nil_append, decode, hh, hl]
    have hsum : b.toNat / 16 * 16 + b.toNat % 16 = b.toNat := by omega
    have hbyte : UInt8.ofNat (b.toNat / 16 * 16 + b.toNat % 16) = b := by rw [hsum, hb]
    cases hd : decode rest <;> simp only [Option.bind_eq_bind, Option.bind_some, Option.bind_none,
      Option.map_none, Option.map_some, Option.pure_def, hbyte]

theorem decode_flatMap_encodeByte (bs : List UInt8) :
    decode (bs.flatMap encodeByte) = some bs := by
  induction bs with
  | nil => rfl
  | cons b bs ih => rw [List.flatMap_cons, decode_encodeByte, ih]; rfl

end Matchday.Text.Percent

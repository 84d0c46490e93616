import Matchday.Json.Printer
import Matchday.Json.Token
import Matchday.Proofs.Number.Digits

/-!
The texts of numbers. Sign and digits of a number can be written in one way only, its exponent in many: with a
small or a capital letter, with or without a plus sign, with zeros in front. Every such text is read as the number.

Main statements: `Json.NumberText.read?_eq`, `Json.numberText_render`.
-/

namespace Matchday.Json
set_option autoImplicit false

/-- The shape of a number: a digit in front of the point, no zero in front of another, and a digit behind
the point if there is one. -/
structure Number.WellFormed (n : Number) : Prop where
  whole : n.whole ≠ []
  digits : ∀ d ∈ n.whole, d < 10
  leading : n.whole.head? = some 0 → n.whole = [0]
  fraction : ∀ ds ∈ n.fraction, ds ≠ [] ∧ ∀ d ∈ ds, d < 10

variable {text cs : List Char} {e : Option Int} {whole fraction ds : List Nat} {n : Number}

/-! ## Exponents -/

/-- The texts of an exponent: none at all, or a letter, perhaps a sign, and a digit or more. -/
inductive ExponentText : List Char → Option Int → Prop where
  | absent : ExponentText [] none
  | given {letter : Char} (sign : List Char) (negative : Bool) {ds : List Nat} (hletter : letter = 'e' ∨ letter = 'E')
      (hsign : (sign, negative) ∈ [([], false), (['+'], false), (['-'], true)]) (hne : ds ≠ [])
      (digits : ∀ d ∈ ds, d < 10) : ExponentText (letter :: (sign ++ digitsText ds))
        (some (if negative then -(Decimal.ofDigits ds : Int) else Decimal.ofDigits ds))

theorem takeDigits_digitsText (digits : ∀ d ∈ ds, d < 10) : Decimal.takeDigits (digitsText ds) = (ds, []) := by
  have htake : Decimal.takeDigits (digitsText ds ++ []) = (ds, []) := Decimal.takeDigits_map_digitChar digits rfl
  rwa [List.append_nil] at htake

theorem digitChar_ne_sign {d : Nat} (h : d < 10) : Decimal.digitChar d ≠ '+' ∧ Decimal.digitChar d ≠ '-' := by
  have ne : ∀ d : Fin 10, Decimal.digitChar d ≠ '+' ∧ Decimal.digitChar d ≠ '-' := by decide
  exact ne ⟨d, h⟩

theorem ExponentText.exponent?_eq (h : ExponentText text e) : exponent? text = some e := by
  cases h with
  | absent => rfl
  | @given letter sign negative ds hletter hsign hne digits =>
    have htake := takeDigits_digitsText digits
    obtain ⟨d, ds, rfl⟩ := List.exists_cons_of_ne_nil hne
    obtain ⟨hplus, hminus⟩ := digitChar_ne_sign (digits d List.mem_cons_self)
    simp only [List.mem_cons, Prod.mk.injEq, List.not_mem_nil, or_false] at hsign
    rcases hsign with ⟨rfl, rfl⟩ | ⟨rfl, rfl⟩ | ⟨rfl, rfl⟩
    · have hnone : ∀ c, c ≠ Decimal.digitChar d → ∀ r, [] ++ digitsText (d :: ds) = c :: r → False :=
        fun c hc r heq => hc (List.cons.inj heq).1.symm
      rw [exponent?, if_pos hletter]
      · simp [htake]
      · exact hnone '+' hplus.symm
      · exact hnone '-' hminus.symm
    · simp [exponent?, hletter, htake]
    · simp [exponent?, hletter, htake]

/-- An exponent goes on neither with the digits in front of it nor with a point. -/
theorem ExponentText.stops (h : ExponentText text e) :
    text.head?.bind Decimal.digitValue? = none ∧ text.head? ≠ some '.' := by
  cases h with
  | absent => simp
  | given _ _ hletter _ _ _ => rcases hletter with rfl | rfl <;> exact ⟨rfl, by simp⟩

theorem exists_digits_natText (n : Nat) : ∃ ds : List Nat, ds ≠ [] ∧ (∀ d ∈ ds, d < 10) ∧
    Decimal.natText n = digitsText ds ∧ Decimal.ofDigits ds = n := by
  rw [Decimal.natText]
  split
  · rename_i h
    exact ⟨[0], by simp, by simp, rfl, h.symm⟩
  · rename_i h
    exact ⟨Decimal.digitsOf n, mt Decimal.digitsOf_eq_nil_iff.1 h, Decimal.lt_ten_of_mem_digitsOf, rfl,
      Decimal.ofDigits_digitsOf n⟩

/-- What stands behind the digits of a number. -/
def exponentPart : Option Int → List Char
  | none => []
  | some e => exponentText e

theorem exponentText_exponentPart (e : Option Int) : ExponentText (exponentPart e) e := by
  cases e with
  | none => exact .absent
  | some e =>
    obtain ⟨ds, hne, digits, htext, hvalue⟩ := exists_digits_natText e.natAbs
    rw [exponentPart, exponentText, htext]
    by_cases h : e < 0
    · have hgiven := ExponentText.given ['-'] true (.inl rfl) (by simp) hne digits
      have habs : -(Decimal.ofDigits ds : Int) = e := by omega
      simpa [h, habs] using hgiven
    · have hgiven := ExponentText.given ['+'] false (.inl rfl) (by simp) hne digits
      have habs : (Decimal.ofDigits ds : Int) = e := by omega
      simpa [h, habs] using hgiven

/-! ## Numbers -/

/-- The texts of a number: its sign and digits, and any text of its exponent. -/
def NumberText (cs : List Char) (n : Number) : Prop :=
  n.WellFormed ∧ ∃ text, ExponentText text n.exponent ∧ cs = ({ n with exponent := none } : Number).render ++ text

theorem numberText_render (h : n.WellFormed) : NumberText n.render n := by
  refine ⟨h, exponentPart n.exponent, exponentText_exponentPart n.exponent, ?_⟩
  cases hexponent : n.exponent <;> simp [Number.render, exponentPart, hexponent]

theorem unsigned?_whole (negative : Bool) (hne : whole ≠ []) (digits : ∀ d ∈ whole, d < 10)
    (leading : whole.head? = some 0 → whole = [0]) (he : ExponentText text e) :
    unsigned? negative (digitsText whole ++ text) = some ⟨negative, whole, none, e⟩ := by
  obtain ⟨stops, noPoint⟩ := he.stops
  rw [unsigned?, digitsText, Decimal.takeDigits_map_digitChar digits stops]
  split
  · rename_i heq
    exact absurd (congrArg Prod.fst heq) hne
  · rename_i heq
    cases heq
    cases leading rfl
  · rename_i heq
    cases heq
    exact absurd rfl noPoint
  · rename_i heq
    cases heq
    rw [he.exponent?_eq, Option.map_some]

theorem unsigned?_point (negative : Bool) (hne : whole ≠ []) (digits : ∀ d ∈ whole, d < 10)
    (leading : whole.head? = some 0 → whole = [0]) (hfraction : fraction ≠ [] ∧ ∀ d ∈ fraction, d < 10)
    (he : ExponentText text e) : unsigned? negative (digitsText whole ++ '.' :: digitsText fraction ++ text)
      = some ⟨negative, whole, some fraction, e⟩ := by
  have htake := Decimal.takeDigits_map_digitChar hfraction.2 he.stops.1
  rw [List.append_assoc, List.cons_append, unsigned?, digitsText, digitsText,
    Decimal.takeDigits_map_digitChar digits rfl]
  split
  · rename_i heq
    exact absurd (congrArg Prod.fst heq) hne
  · rename_i heq
    cases heq
    cases leading rfl
  · rename_i heq
    cases heq
    rw [htake]
    split
    · rename_i heq
      exact absurd (congrArg Prod.fst heq) hfraction.1
    · rename_i heq
      cases heq
      rw [he.exponent?_eq, Option.map_some]
  · rename_i hpoint heq
    cases heq
    exact (hpoint _ rfl).elim

/-- A number is read from each of its texts. -/
theorem NumberText.read?_eq (h : NumberText cs n) : Number.read? cs = some n := by
  obtain ⟨⟨hne, digits, leading, hfraction⟩, text, he, rfl⟩ := h
  obtain ⟨negative, whole, fraction, e⟩ := n
  -- without its sign a number begins with a digit, whatever follows
  have hread : unsigned? negative
      (({ negative := false, whole, fraction, exponent := none } : Number).render ++ text)
        = some ⟨negative, whole, fraction, e⟩ := by
    cases fraction with
    | none => simpa [Number.render] using unsigned?_whole negative hne digits leading he
    | some fraction =>
      simpa [Number.render] using unsigned?_point negative hne digits leading (hfraction fraction rfl) he
  cases negative with
  | true =>
    rw [← hread]
    rfl
  | false =>
    obtain ⟨d, ds, rfl⟩ := List.exists_cons_of_ne_nil hne
    have hminus := (digitChar_ne_sign (digits d List.mem_cons_self)).2
    rw [Number.read?]
    · exact hread
    · intro rest heq
      rw [Number.render, digitsText] at heq
      exact hminus (List.cons.inj heq).1

/-! ## Characters of numbers -/

theorem isNumeric_of_mem_digitsText (digits : ∀ d ∈ ds, d < 10) : ∀ c ∈ digitsText ds, isNumeric c = true := by
  intro c hc
  obtain ⟨d, hd, rfl⟩ := List.mem_map.1 hc
  rw [isNumeric, Decimal.digitValue?_digitChar (digits d hd)]
  rfl

theorem ExponentText.isNumeric (h : ExponentText text e) : ∀ c ∈ text, isNumeric c = true := by
  cases h with
  | absent => simp
  | @given letter sign negative ds hletter hsign _ digits =>
    have hfirst : Json.isNumeric letter = true := by rcases hletter with rfl | rfl <;> rfl
    have hsecond : ∀ c ∈ sign, Json.isNumeric c = true := by
      simp only [List.mem_cons, Prod.mk.injEq, List.not_mem_nil, or_false] at hsign
      rcases hsign with ⟨rfl, -⟩ | ⟨rfl, -⟩ | ⟨rfl, -⟩
      · exact fun _ hc => absurd hc List.not_mem_nil
      · exact List.forall_mem_singleton.2 rfl
      · exact List.forall_mem_singleton.2 rfl
    intro c hc
    rcases List.mem_cons.1 hc with rfl | hc
    · exact hfirst
    · rcases List.mem_append.1 hc with hc | hc
      · exact hsecond c hc
      · exact isNumeric_of_mem_digitsText digits c hc

theorem NumberText.isNumeric (h : NumberText cs n) : ∀ c ∈ cs, isNumeric c = true := by
  obtain ⟨hn, text, he, rfl⟩ := h
  simp only [Number.render, List.append_nil, List.forall_mem_append]
  refine ⟨⟨⟨?sign, isNumeric_of_mem_digitsText hn.digits⟩, ?fraction⟩, he.isNumeric⟩
  case sign =>
    split
    · exact List.forall_mem_singleton.2 rfl
    · exact fun _ hc => absurd hc List.not_mem_nil
  case fraction =>
    cases hfraction : n.fraction with
    | none => simp
    | some ds => exact List.forall_mem_cons.2 ⟨rfl, isNumeric_of_mem_digitsText (hn.fraction ds hfraction).2⟩

theorem NumberText.ne_nil (h : NumberText cs n) : cs ≠ [] := by
  obtain ⟨hn, text, -, rfl⟩ := h
  simp [Number.render, digitsText, hn.whole]

end Matchday.Json

import Matchday.Calendar.Instant
import Matchday.Proofs.Number.Digits

/-!
An instant is read from its text, as long as its year has four digits. Each part of the text is read as far
as it was written and no further: numbers are written in a fixed width, and a mark follows the others.

Main statement: `Instant.read?_render`.
-/

namespace Matchday.Instant
set_option autoImplicit false

variable {n width : Nat}

/-! ## Numbers of a fixed width -/

theorem padded_digits (h : n < 10 ^ width) : ∃ ds : List Nat, padded width n = ds.map Decimal.digitChar ∧
    ds.length = width ∧ (∀ d ∈ ds, d < 10) ∧ Decimal.ofDigits ds = n := by
  have hlength := Decimal.length_digitsOf_le_iff.2 h
  refine ⟨List.replicate (width - (Decimal.digitsOf n).length) 0 ++ Decimal.digitsOf n, ?_, ?_, ?_, ?_⟩
  · rw [padded, List.length_map, List.map_append, List.map_replicate]
    rfl
  · rw [List.length_append, List.length_replicate]
    omega
  · refine List.forall_mem_append.2 ⟨fun d hd => ?_, Decimal.lt_ten_of_mem_digitsOf⟩
    rw [List.eq_of_mem_replicate hd]
    decide
  · rw [Decimal.ofDigits_replicate_append, Decimal.ofDigits_digitsOf]

theorem takeUpTo_map_digitChar {ds : List Nat} (digits : ∀ d ∈ ds, d < 10) (rest : List Char) :
    takeUpTo ds.length (ds.map Decimal.digitChar ++ rest) = (ds, rest) := by
  induction ds with
  | nil => rw [List.length_nil, takeUpTo]; rfl
  | cons d ds ih =>
    obtain ⟨hd, hds⟩ := List.forall_mem_cons.1 digits
    rw [List.map_cons, List.cons_append, List.length_cons, takeUpTo, Decimal.digitValue?_digitChar hd, ih hds]

theorem trimStart_cons {c : Char} (h : Text.isBlank c = false) (rest : List Char) :
    Text.trimStart (c :: rest) = c :: rest :=
  List.dropWhile_cons_of_neg (by rw [h]; exact Bool.false_ne_true)

theorem trimStart_map_digitChar {ds : List Nat} (digits : ∀ d ∈ ds, d < 10) (hne : ds ≠ [])
    (rest : List Char) :
    Text.trimStart (ds.map Decimal.digitChar ++ rest) = ds.map Decimal.digitChar ++ rest := by
  obtain ⟨d, ds, rfl⟩ := List.exists_cons_of_ne_nil hne
  have visible : ∀ d : Fin 10, Text.isBlank (Decimal.digitChar d) = false := by decide
  exact trimStart_cons (visible ⟨d, digits d List.mem_cons_self⟩) _

theorem number?_padded (hwidth : 0 < width) (h : n < 10 ^ width) (rest : List Char) :
    number? width (padded width n ++ rest) = some (n, rest) := by
  obtain ⟨ds, htext, hlength, digits, hvalue⟩ := padded_digits h
  have hne : ds ≠ [] := List.ne_nil_of_length_pos (by omega)
  rw [htext, number?, trimStart_map_digitChar digits hne, ← hlength, takeUpTo_map_digitChar digits]
  split
  · rename_i heq
    exact absurd (congrArg Prod.fst heq) hne
  · rename_i heq
    cases heq
    rw [hvalue]

theorem number?_two (h : n < 100) (rest : List Char) :
    number? 2 (padded 2 n ++ rest) = some (n, rest) :=
  number?_padded (by decide) h rest

theorem mark?_cons {c : Char} (h : Text.isBlank c = false) (rest : List Char) :
    mark? c (c :: rest) = some rest := by
  rw [mark?, trimStart_cons h]
  exact if_pos rfl

/-! ## The date -/

theorem year?_yearText {year : Int} (h : 0 ≤ year ∧ year ≤ 9999) (rest : List Char) :
    year? (yearText year ++ rest) = some (year, rest) := by
  have hsmall : year.natAbs < 10 ^ 4 := by omega
  have hnumber := number?_padded (by decide) hsmall rest
  obtain ⟨ds, htext, hlength, digits, -⟩ := padded_digits hsmall
  have hne : ds ≠ [] := List.ne_nil_of_length_pos (by omega)
  have htrim := trimStart_map_digitChar digits hne rest
  have hunsigned : ∀ c, c = '-' ∨ c = '+' → (ds.map Decimal.digitChar ++ rest).head? ≠ some c := by
    obtain ⟨d, ds, rfl⟩ := List.exists_cons_of_ne_nil hne
    have plain : ∀ d : Fin 10, Decimal.digitChar d ≠ '-' ∧ Decimal.digitChar d ≠ '+' := by decide
    have hd := plain ⟨d, digits d List.mem_cons_self⟩
    rintro c (rfl | rfl) heq
    · exact hd.1 (Option.some.inj heq)
    · exact hd.2 (Option.some.inj heq)
  rw [yearText, if_pos h]
  rw [htext] at hnumber ⊢
  rw [year?, htrim]
  split
  · rename_i heq
    exact absurd (congrArg List.head? heq) (hunsigned '-' (.inl rfl))
  · rename_i heq
    exact absurd (congrArg List.head? heq) (hunsigned '+' (.inr rfl))
  · rw [hnumber, Option.map_some]
    exact congrArg (fun y => some (y, rest)) (Int.natAbs_of_nonneg h.1)

theorem daysInMonth_le (year : Int) (month : Nat) : daysInMonth year month ≤ 31 := by
  unfold daysInMonth
  split
  · split <;> decide
  all_goals decide

theorem date?_dateText (d : Date) (h : 0 ≤ d.year ∧ d.year ≤ 9999) (rest : List Char) :
    date? (yearText d.year ++ '-' :: (padded 2 d.month ++ '-' :: (padded 2 d.day ++ rest)))
      = some (d, rest) := by
  have hmonth : d.month < 100 := Nat.lt_of_le_of_lt d.valid.1.2 (by decide)
  have hday : d.day < 100 :=
    Nat.lt_of_le_of_lt (d.valid.2.2.trans (daysInMonth_le d.year d.month)) (by decide)
  have hdash : Text.isBlank '-' = false := by decide
  have hrange : yearInRange d.year = true := by
    rw [yearInRange, Bool.and_eq_true, decide_eq_true_eq, decide_eq_true_eq]
    omega
  have hdate : Date.of? d.year d.month d.day = some d := dif_pos d.valid
  simp [date?, year?_yearText h, mark?_cons hdash, number?_two, hmonth, hday, hrange, hdate]

/-! ## The time of day -/

theorem nano?_padded {rest : List Char} (hwidth : 0 < width) (hnine : width ≤ 9) (h : n < 10 ^ width)
    (stop : rest.head?.bind Decimal.digitValue? = none) :
    nano? ('.' :: padded width n ++ rest) = some (n * 10 ^ (9 - width), rest) := by
  obtain ⟨ds, htext, hlength, digits, hvalue⟩ := padded_digits h
  have hne : ds ≠ [] := List.ne_nil_of_length_pos (by omega)
  have hkept : ds.take 9 = ds := List.take_of_length_le (by omega)
  rw [htext, List.cons_append, nano?, Decimal.takeDigits_map_digitChar digits stop]
  split
  · rename_i heq
    exact absurd (congrArg Prod.fst heq) hne
  · rename_i heq
    cases heq
    simp only [hkept, hvalue, hlength]
    rfl

theorem nano?_fractionText {nano : Nat} (h : nano < 1000000000) (rest : List Char) :
    nano? (fractionText nano ++ 'Z' :: rest) = some (nano, 'Z' :: rest) := by
  have stop : ('Z' :: rest).head?.bind Decimal.digitValue? = none := rfl
  unfold fractionText
  split_ifs with none three six
  · rw [none]
    rfl
  · rw [nano?_padded (by decide) (by decide) (by omega) stop]
    exact congrArg (fun n => some (n, _)) (by omega)
  · rw [nano?_padded (by decide) (by decide) (by omega) stop]
    exact congrArg (fun n => some (n, _)) (by omega)
  · rw [nano?_padded (by decide) (by decide) (by omega) stop]
    exact congrArg (fun n => some (n, _)) (by omega)

theorem time?_timeText {minute second nano : Nat}
    (h : minute < 1440 ∧ second ≤ 60 ∧ nano < 1000000000) (rest : List Char) :
    time? (padded 2 (minute / 60) ++ ':' :: (padded 2 (minute % 60) ++ ':' :: (padded 2 second
      ++ (fractionText nano ++ 'Z' :: rest)))) = some (minute, second, nano, 'Z' :: rest) := by
  have hcolon : Text.isBlank ':' = false := by decide
  have hhour : minute / 60 < 24 := by omega
  have hminute : minute % 60 < 60 := by omega
  have hhour' : minute / 60 < 100 := by omega
  have hminute' : minute % 60 < 100 := by omega
  have hsecond : second < 100 := by omega
  simp [time?, mark?_cons hcolon, number?_two, hhour', hminute', hsecond, nano?_fractionText h.2.2,
    hhour, hminute, h.2.1, Nat.div_add_mod']

/-! ## Instants -/

theorem ofLocal?_zero (t : Instant) (h : yearInRange t.date.year = true) :
    ofLocal? t.date t.minute t.second t.nano 0 = some t := by
  have hbefore : ¬(t.minute : Int) < 0 := by omega
  have hafter : ¬1440 ≤ (t.minute : Int) := by
    have := t.valid.1
    omega
  simp only [ofLocal?, Int.sub_zero, if_neg hbefore, if_neg hafter, Int.toNat_natCast, h, if_true,
    dif_pos t.valid]

/-- An instant is read from its text, if its year has four digits. -/
theorem read?_render (t : Instant) (h : 0 ≤ t.date.year ∧ t.date.year ≤ 9999) :
    read? t.render = some t := by
  have hdate := date?_dateText t.date h
  have htime := time?_timeText t.valid []
  have hoffset : offset? (Text.trimStart ['Z']) = some (0, []) := by decide
  have hrange : yearInRange t.date.year = true := by
    rw [yearInRange, Bool.and_eq_true, decide_eq_true_eq, decide_eq_true_eq]
    omega
  have hlocal := ofLocal?_zero t hrange
  have htrim : Text.trimStart [] = [] := rfl
  simp [read?, render, hdate, htime, hoffset, hlocal, htrim]

end Matchday.Instant

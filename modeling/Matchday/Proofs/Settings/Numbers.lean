import Matchday.Settings
import Mathlib.Data.List.Induction

/-!
Which numbers a variable may hold. A text is read as a number if, behind blanks and a plus sign, it
consists of digits, whatever their number, as long as the value is below the limit; it is read as zero if
all the digits are zeros.

Main statements: `Settings.number?_eq_some_iff`, `Settings.read_eq_ok_iff`.
-/

namespace Matchday
set_option autoImplicit false

namespace Decimal

/-! ## Digits -/

theorem digitValue?_eq_some_iff {c : Char} {d : Nat} :
    digitValue? c = some d ↔ '0' ≤ c ∧ c ≤ '9' ∧ c.toNat = '0'.toNat + d := by
  unfold digitValue?
  split
  · rename_i h
    have hle : '0'.toNat ≤ c.toNat := h.1
    rw [Option.some_inj]
    exact ⟨fun hd => ⟨h.1, h.2, by omega⟩, fun hd => by omega⟩
  · rename_i h
    exact iff_of_false nofun fun hdigit => h ⟨hdigit.1, hdigit.2.1⟩

theorem digitValue?_eq_zero_iff {c : Char} : digitValue? c = some 0 ↔ c = '0' := by
  rw [digitValue?_eq_some_iff]
  constructor
  · rintro ⟨-, -, h⟩
    exact Char.toNat_inj.1 h
  · rintro rfl
    decide

/-- A text consists of digits if nothing is left behind them. -/
theorem takeDigits_eq_iff {cs : List Char} {ds : List Nat} :
    takeDigits cs = (ds, []) ↔ cs.map digitValue? = ds.map some := by
  induction cs generalizing ds with
  | nil => cases ds <;> simp [takeDigits]
  | cons c rest ih =>
    rw [takeDigits, List.map_cons]
    cases hc : digitValue? c with
    | none => cases ds <;> simp
    | some d =>
      cases ds with
      | nil => simp
      | cons first others =>
        rw [List.map_cons, List.cons.injEq, ← ih, Prod.mk.injEq, List.cons.injEq, Option.some_inj,
          Prod.ext_iff, and_assoc]

theorem ofDigits_concat (ds : List Nat) (d : Nat) : ofDigits (ds ++ [d]) = ofDigits ds * 10 + d :=
  List.foldl_append

/-- Only a row of zeros spells zero. -/
theorem ofDigits_eq_zero_iff {ds : List Nat} : ofDigits ds = 0 ↔ ∀ d ∈ ds, d = 0 := by
  induction ds using List.reverseRecOn with
  | nil => exact iff_of_true rfl fun d hd => absurd hd List.not_mem_nil
  | append_singleton ds d ih =>
    rw [ofDigits_concat, Nat.add_eq_zero_iff, Nat.mul_eq_zero, ih, List.forall_mem_append,
      List.forall_mem_singleton]
    simp

end Decimal

namespace Settings

/-! ## Numbers -/

/-- What is left of a text without the blanks around it and a plus sign in front of it. -/
def numeral (text : String) : List Char :=
  let cs := Text.trim text.toList
  if cs.head? = some '+' then cs.tail else cs

/-- Whether a text spells zero: with one digit or more, all of them zeros. -/
def spellsZero (text : String) : Bool := !(numeral text).isEmpty && (numeral text).all (· = '0')

variable {limit n : Nat} {text : String}

/-- The texts that are read as numbers. -/
theorem number?_eq_some_iff : number? limit text = some n ↔
    ∃ ds, ds ≠ [] ∧ (numeral text).map Decimal.digitValue? = ds.map some ∧
      Decimal.ofDigits ds = n ∧ n < limit := by
  constructor
  · intro h
    dsimp only [number?] at h
    split at h
    · rename_i d ds htake
      split at h
      · rename_i hlt
        injection h with h
        exact ⟨d :: ds, List.cons_ne_nil d ds, Decimal.takeDigits_eq_iff.1 htake, h, h ▸ hlt⟩
      · cases h
    · cases h
  · rintro ⟨ds, hne, hdigits, rfl, hlt⟩
    have htake := Decimal.takeDigits_eq_iff.2 hdigits
    rw [numeral] at htake
    cases ds with
    | nil => exact absurd rfl hne
    | cons d ds =>
      rw [number?, htake]
      exact if_pos hlt

theorem number?_lt (h : number? limit text = some n) : n < limit := by
  obtain ⟨ds, -, -, -, hlt⟩ := number?_eq_some_iff.1 h
  exact hlt

/-- The texts that are read as zero. -/
theorem number?_eq_zero_iff (pos : 0 < limit) :
    number? limit text = some 0 ↔ spellsZero text = true := by
  rw [number?_eq_some_iff, spellsZero, Bool.and_eq_true, Bool.not_eq_true', List.isEmpty_eq_false_iff,
    List.all_eq_true]
  constructor
  · rintro ⟨ds, hne, hdigits, hzero, -⟩
    refine ⟨fun hnil => hne ?_, fun c hc => ?_⟩
    · rw [hnil] at hdigits
      exact List.map_eq_nil_iff.1 hdigits.symm
    · have hmem := List.mem_map_of_mem (f := Decimal.digitValue?) hc
      rw [hdigits, List.mem_map] at hmem
      obtain ⟨d, hd, heq⟩ := hmem
      rw [Decimal.ofDigits_eq_zero_iff.1 hzero d hd] at heq
      exact decide_eq_true (Decimal.digitValue?_eq_zero_iff.1 heq.symm)
  · rintro ⟨hne, hzeros⟩
    refine ⟨List.replicate (numeral text).length 0, ?_, ?_, ?_, pos⟩
    · rw [Ne, List.replicate_eq_nil_iff, List.length_eq_zero_iff]
      exact hne
    · rw [List.map_replicate, List.eq_replicate_iff, List.length_map]
      refine ⟨rfl, fun d hd => ?_⟩
      obtain ⟨c, hc, rfl⟩ := List.mem_map.1 hd
      exact Decimal.digitValue?_eq_zero_iff.2 (of_decide_eq_true (hzeros c hc))
    · exact Decimal.ofDigits_eq_zero_iff.2 fun d hd => List.eq_of_mem_replicate hd

/-! ## Variables -/

theorem bind_eq_ok_iff {ε α β : Type} {x : Except ε α} {f : α → Except ε β} {y : β} :
    (x >>= f) = .ok y ↔ ∃ a, x = .ok a ∧ f a = .ok y := by
  cases x with
  | error _ => exact iff_of_false nofun nofun
  | ok a => exact ⟨fun h => ⟨a, rfl, h⟩, fun ⟨_, rfl, h⟩ => h⟩

variable {e : Environment} {name : String} {default : Nat}

/-- What is accepted for a variable that holds a number. -/
theorem numberOr_eq_ok_iff : numberOr e name limit default = .ok n ↔
    (e.value? name = none ∧ n = default) ∨
      ∃ text, e.value? name = some text ∧ number? limit text = some n := by
  unfold numberOr
  cases e.value? name with
  | none => simp [eq_comm]
  | some text => cases hnumber : number? limit text <;> simp [hnumber]

theorem numberOr_eq_zero_iff (h : numberOr e name limit default = .ok n) (pos : 0 < limit)
    (positive : default ≠ 0) : n = 0 ↔ (e.value? name).any spellsZero = true := by
  obtain ⟨hvalue, rfl⟩ | ⟨text, hvalue, hnumber⟩ := numberOr_eq_ok_iff.1 h
  · rw [hvalue]
    exact iff_of_false positive Bool.false_ne_true
  · rw [hvalue, Option.any_some, ← number?_eq_zero_iff pos, hnumber]
    exact Option.some_inj.symm

theorem numberOr_lt (h : numberOr e name limit default = .ok n) (lt : default < limit) : n < limit := by
  obtain ⟨-, rfl⟩ | ⟨text, -, hnumber⟩ := numberOr_eq_ok_iff.1 h
  · exact lt
  · exact number?_lt hnumber

/-- The settings that are read, if every variable can be. -/
theorem read_eq_ok_iff {s : Settings} : read e = .ok s ↔
    ∃ url connections sweep consumer settlement,
      required e "DATABASE_URL" = .ok url ∧
      numberOr e "DATABASE_MAX_CONNECTIONS" (Nat.pow 2 32) 10 = .ok connections ∧
      numberOr e "COORDINATES_SWEEP_PERIOD_SECS" (Nat.pow 2 64) 60 = .ok sweep ∧
      numberOr e "COORDINATES_CONSUMER_INTERVAL_MS" (Nat.pow 2 64) 1500 = .ok consumer ∧
      numberOr e "SETTLEMENT_DELAY_SECS" (Nat.pow 2 64) 30 = .ok settlement ∧
      s = {
        databaseUrl := url
        maxConnections := .ofNat connections
        nominatimUrl := (e.value? "NOMINATIM_BASE_URL").getD Nominatim.defaultUrl
        yandexUrl := (e.value? "YANDEX_GEOCODER_URL").getD Yandex.defaultUrl
        yandexKey := (e.value? "YANDEX_API_KEY").filter (· ≠ "")
        sweepSeconds := .ofNat sweep
        consumerMilliseconds := .ofNat consumer
        settlementSeconds := .ofNat settlement } := by
  simp only [read, bind_eq_ok_iff, exists_and_left]
  refine exists_congr fun url => and_congr_right fun _ => exists_congr fun connections =>
    and_congr_right fun _ => exists_congr fun sweep => and_congr_right fun _ =>
    exists_congr fun consumer => and_congr_right fun _ => exists_congr fun settlement =>
    and_congr_right fun _ => ?_
  exact ⟨fun h => (Except.ok.inj h).symm, fun h => congrArg Except.ok h.symm⟩

end Settings

end Matchday

import Matchday.Proofs.Settings.Numerals
import Matchday.Proofs.Settings.PlainFile
import Mathlib.Data.List.Nodup

/-!
When there are settings, and which variable is to blame when there are none. Every variable is looked at in a fixed
order, and each has at most one fault; the settings are refused with the first fault there is.

Main statement: `settings_decided`.
-/

namespace Matchday
set_option autoImplicit false

/-! ## First of a list -/

section First

variable {α β ε : Type} {P : ε → Prop} {faults : List ε} {fault cause : ε}

/-- The first of some candidates for which a property holds. -/
def IsFirst (P : ε → Prop) (candidates : List ε) (cause : ε) : Prop :=
  P cause ∧ ∃ before after, candidates = before ++ cause :: after ∧ ∀ b ∈ before, ¬P b

theorem not_isFirst_nil : ¬IsFirst P [] cause :=
  fun ⟨_, _, _, h, _⟩ => List.cons_ne_nil _ _ (List.append_eq_nil_iff.1 h.symm).2

theorem isFirst_cons_iff :
    IsFirst P (fault :: faults) cause ↔ cause = fault ∧ P fault ∨ ¬P fault ∧ IsFirst P faults cause := by
  constructor
  · rintro ⟨hcause, before, after, hsplit, hbefore⟩
    rcases List.cons_eq_append_iff.1 hsplit with ⟨rfl, hhead⟩ | ⟨rest, rfl, hrest⟩
    · obtain ⟨rfl, -⟩ := List.cons.inj hhead
      exact .inl ⟨rfl, hcause⟩
    · obtain ⟨hfault, hbefore⟩ := List.forall_mem_cons.1 hbefore
      exact .inr ⟨hfault, hcause, rest, after, hrest, hbefore⟩
  · rintro (⟨rfl, hfault⟩ | ⟨hfault, hcause, before, after, rfl, hbefore⟩)
    · exact ⟨hfault, [], faults, rfl, fun b hb => absurd hb List.not_mem_nil⟩
    · exact ⟨hcause, fault :: before, after, rfl, List.forall_mem_cons.2 ⟨hfault, hbefore⟩⟩

/-- Where there are faults, one is the first. -/
theorem exists_isFirst_iff : (∃ cause, IsFirst P faults cause) ↔ ∃ fault ∈ faults, P fault := by
  induction faults with
  | nil => simp [not_isFirst_nil]
  | cons fault faults ih =>
    simp only [isFirst_cons_iff, exists_or, exists_and_left, exists_eq_left, ih, List.mem_cons, exists_eq_or_imp]
    by_cases hfault : P fault <;> simp [hfault]

/-- A step that fails with its own fault, before others that fail with the first of theirs. -/
theorem bind_eq_error_iff_isFirst {x : Except ε α} {f : α → Except ε β}
    (hx : ∀ cause, x = .error cause ↔ cause = fault ∧ P fault)
    (hf : ∀ a cause, f a = .error cause ↔ IsFirst P faults cause) :
    (x >>= f) = .error cause ↔ IsFirst P (fault :: faults) cause := by
  rw [isFirst_cons_iff, ← hx]
  cases x with
  | error own =>
    have hfault : P fault := ((hx own).1 rfl).2
    simp [hfault, Bind.bind, Except.bind]
  | ok a =>
    have hfault : ¬P fault := fun h => nomatch (hx fault).2 ⟨rfl, h⟩
    simpa [hfault, Bind.bind, Except.bind] using hf a cause

end First

/-! ## Values of variables -/

namespace Environment

/-- A file changes no variable. -/
@[simp] theorem entries_readLines (e : Environment) (ls : List (List Char)) : (e.readLines ls).entries = e.entries := by
  induction ls generalizing e with
  | nil => rfl
  | cons l ls ih =>
    dsimp only [readLines]
    split
    · exact ih e
    · split
      · exact ih _
      · rfl

@[simp] theorem entries_withFile (e : Environment) (content : String) : (e.withFile content).entries = e.entries :=
  e.entries_readLines _

/-- What a name stands for: the text of the variable, or else what the first assignment to it says. -/
def Holds (entries : List (String × VariableValue)) (assignments : List (String × String))
    (name value : String) : Prop :=
  entries.lookup name = some (.text value) ∨
    (∀ own, entries.lookup name ≠ some (.text own)) ∧ IsFirst (fun a => a.1 = name) assignments (name, value)

theorem lookup_eq_some_iff_isFirst {assignments : List (String × String)} {name value : String} :
    assignments.lookup name = some value ↔ IsFirst (fun a => a.1 = name) assignments (name, value) := by
  simp only [IsFirst, List.lookup_eq_some_iff, bne_iff_ne, ne_comm, true_and, ne_eq]

/-- An assignment cannot take effect if its value holds a NUL, which counts if its variable has no text and no
assignment to it stands before. -/
theorem isImpossible_iff {e : Environment} : e.isImpossible = true ↔ ∃ name value,
    (∀ own, e.entries.lookup name ≠ some (.text own)) ∧ IsFirst (fun a => a.1 = name) e.assignments (name, value) ∧
      '\x00' ∈ value.toList := by
  have huncounted : ∀ name, ((e.entries.lookup name).bind VariableValue.text?).isNone = true ↔
      ∀ own, e.entries.lookup name ≠ some (.text own) := by
    intro name
    cases e.entries.lookup name with
    | none => simp
    | some own => cases own <;> simp [VariableValue.text?]
  simp only [isImpossible, List.any_eq_true, Bool.and_eq_true, huncounted, Option.any_eq_true,
    List.contains_eq_mem, decide_eq_true_eq, lookup_eq_some_iff_isFirst]
  constructor
  · rintro ⟨a, -, huncounted, value, hfirst, hnul⟩
    exact ⟨a.1, value, huncounted, hfirst, hnul⟩
  · rintro ⟨name, value, huncounted, hfirst, hnul⟩
    obtain ⟨before, after, hsplit, -⟩ := hfirst.2
    refine ⟨(name, value), ?_, huncounted, value, hfirst, hnul⟩
    rw [hsplit]
    exact List.mem_append_right _ List.mem_cons_self

theorem value?_eq_some_iff_holds {e : Environment} {name value : String} :
    e.value? name = some value ↔ Holds e.entries e.assignments name value := by
  rw [Holds, ← lookup_eq_some_iff_isFirst, value?]
  cases e.entries.lookup name with
  | none => simp
  | some own => cases own <;> simp [VariableValue.text?]

end Environment

namespace Settings

variable {e : Environment} {s : Settings} {name : String} {limit default n : Nat} {cause : SettingsError}
  {v : String → Option String}

/-! ## One variable -/

/-- The number that a variable spells, or the default of one without a value. -/
def SpellsOr (v : String → Option String) (name : String) (default n : Nat) : Prop :=
  v name = none ∧ n = default ∨ ∃ text, v name = some text ∧ Spells text n

theorem numberOr_eq_ok_iff_spellsOr (lt : default < limit) :
    numberOr e name limit default = .ok n ↔ SpellsOr e.value? name default n ∧ n < limit := by
  simp only [numberOr_eq_ok_iff, SpellsOr, number?_eq_some_iff_spells]
  constructor
  · rintro (⟨hvalue, rfl⟩ | ⟨text, hvalue, hspells, hlt⟩)
    · exact ⟨.inl ⟨hvalue, rfl⟩, lt⟩
    · exact ⟨.inr ⟨text, hvalue, hspells⟩, hlt⟩
  · rintro ⟨hdefault | ⟨text, hvalue, hspells⟩, hlt⟩
    · exact .inl hdefault
    · exact .inr ⟨text, hvalue, hspells, hlt⟩

theorem number?_eq_none_iff_spells {text : String} : number? limit text = none ↔ ∀ n < limit, ¬Spells text n := by
  simp only [Option.eq_none_iff_forall_ne_some, ne_eq, number?_eq_some_iff_spells, not_and]
  exact forall_congr' fun n => forall_comm

theorem required_eq_ok_iff {text : String} : required e name = .ok text ↔ e.value? name = some text := by
  unfold required
  cases e.value? name <;> simp

theorem required_eq_error_iff :
    required e name = .error cause ↔ cause = .missing name ∧ e.value? name = none := by
  unfold required
  cases e.value? name <;> simp [eq_comm]

theorem numberOr_eq_error_iff : numberOr e name limit default = .error cause ↔
    cause = .notANumber name ∧ ∃ text, e.value? name = some text ∧ ∀ n < limit, ¬Spells text n := by
  unfold numberOr
  cases e.value? name with
  | none => simp
  | some text =>
    simp only [Option.some.injEq, exists_eq_left', ← number?_eq_none_iff_spells]
    cases number? limit text <;> simp [eq_comm]

/-! ## All variables -/

/-- The variables that hold numbers, in the order in which they are looked at, each with a bound for its number. -/
def numbers : List (String × Nat) :=
  [("DATABASE_MAX_CONNECTIONS", 2 ^ 32), ("COORDINATES_SWEEP_PERIOD_SECS", 2 ^ 64),
    ("COORDINATES_CONSUMER_INTERVAL_MS", 2 ^ 64), ("SETTLEMENT_DELAY_SECS", 2 ^ 64)]

/-- What can be wrong, in the order in which it is looked for. -/
def faults : List SettingsError := .missing "DATABASE_URL" :: numbers.map fun number => .notANumber number.1

/-- Whether something is wrong with what the variables hold. -/
def IsFault (v : String → Option String) : SettingsError → Prop
  | .missing name => v name = none
  | .notANumber name => ∃ limit text, (name, limit) ∈ numbers ∧ v name = some text ∧ ∀ n < limit, ¬Spells text n

/-- What the settings are: the texts and the numbers of the variables, the periods in milliseconds, with a default
for each variable without a value. There is no key if its variable is empty. -/
structure Gives (v : String → Option String) (s : Settings) : Prop where
  databaseUrl : v "DATABASE_URL" = some s.databaseUrl
  maxConnections : SpellsOr v "DATABASE_MAX_CONNECTIONS" 10 s.maxConnections.toNat
  nominatimUrl : s.nominatimUrl = (v "NOMINATIM_BASE_URL").getD "https://nominatim.openstreetmap.org"
  yandexUrl : s.yandexUrl = (v "YANDEX_GEOCODER_URL").getD "https://geocode-maps.yandex.ru/1.x"
  yandexKey : ∀ key, s.yandexKey = some key ↔ v "YANDEX_API_KEY" = some key ∧ key ≠ ""
  sweepPeriod : ∃ seconds, SpellsOr v "COORDINATES_SWEEP_PERIOD_SECS" 60 seconds ∧ s.sweepPeriod = seconds * 1000
  consumerPeriod : SpellsOr v "COORDINATES_CONSUMER_INTERVAL_MS" 1500 s.consumerPeriod
  settlementDelay : ∃ seconds, SpellsOr v "SETTLEMENT_DELAY_SECS" 30 seconds ∧ s.settlementDelay = seconds * 1000

theorem isFault_notANumber_iff (h : (name, limit) ∈ numbers) : IsFault v (.notANumber name) ↔
    ∃ text, v name = some text ∧ ∀ n < limit, ¬Spells text n := by
  have hnodup : (numbers.map Prod.fst).Nodup := by decide
  refine ⟨?_, fun ⟨text, hfault⟩ => ⟨limit, text, h, hfault⟩⟩
  rintro ⟨limit', text, hmem, hfault⟩
  obtain ⟨-, rfl⟩ := Prod.mk.inj (List.inj_on_of_nodup_map hnodup hmem h rfl)
  exact ⟨text, hfault⟩

theorem isFault_notANumber_iff_any : IsFault v (.notANumber name) ↔ ∃ number ∈ numbers, number.1 = name ∧
    ((v name).any fun text => (number? number.2 text).isNone) = true := by
  simp only [IsFault, Option.any_eq_true, Option.isNone_iff_eq_none, number?_eq_none_iff_spells]
  constructor
  · rintro ⟨limit, text, hmem, hfault⟩
    exact ⟨(name, limit), hmem, rfl, text, hfault⟩
  · rintro ⟨⟨_, limit⟩, hmem, rfl, text, hfault⟩
    exact ⟨limit, text, hmem, hfault⟩

instance (v : String → Option String) : DecidablePred (IsFault v)
  | .missing name => inferInstanceAs (Decidable (v name = none))
  | .notANumber _ => decidable_of_iff _ isFault_notANumber_iff_any.symm

/-- The settings are refused with the first fault. -/
theorem read_eq_error_iff : read e = .error cause ↔ IsFirst (IsFault e.value?) faults cause := by
  -- each step of the reading fails with its own member of the faults, so the chain follows the list
  have hurl : ∀ cause, required e "DATABASE_URL" = .error cause ↔
      cause = .missing "DATABASE_URL" ∧ IsFault e.value? (.missing "DATABASE_URL") := fun _ => required_eq_error_iff
  have hnumber : ∀ {name limit} default, (name, limit) ∈ numbers → ∀ cause,
      numberOr e name limit default = .error cause ↔
        cause = .notANumber name ∧ IsFault e.value? (.notANumber name) := by
    intro name limit default hmem cause
    rw [isFault_notANumber_iff hmem, numberOr_eq_error_iff]
  refine bind_eq_error_iff_isFirst hurl fun _ _ => bind_eq_error_iff_isFirst (hnumber 10 (by simp [numbers])) fun _ _ =>
    bind_eq_error_iff_isFirst (hnumber 60 (by simp [numbers])) fun _ _ =>
    bind_eq_error_iff_isFirst (hnumber 1500 (by simp [numbers])) fun _ _ =>
    bind_eq_error_iff_isFirst (hnumber 30 (by simp [numbers])) fun _ _ => iff_of_false nofun not_isFirst_nil

/-- There are settings if there is no fault. -/
theorem exists_read_eq_ok_iff : (∃ s, read e = .ok s) ↔ ∀ fault ∈ faults, ¬IsFault e.value? fault := by
  have hfirst : (∃ cause, read e = .error cause) ↔ ∃ fault ∈ faults, IsFault e.value? fault := by
    simp only [read_eq_error_iff, exists_isFirst_iff]
  rw [← not_iff_not]
  push Not
  rw [← hfirst]
  cases read e <;> simp

/-- Nothing is wrong if there is an address and each number that a variable is to hold is below its bound. -/
theorem forall_not_isFault_iff : (∀ fault ∈ faults, ¬IsFault v fault) ↔
    (∃ url, v "DATABASE_URL" = some url) ∧
      ∀ number ∈ numbers, ∀ text, v number.1 = some text → ∃ n < number.2, Spells text n := by
  rw [faults, List.forall_mem_cons, List.forall_mem_map]
  apply and_congr
  · exact Option.ne_none_iff_exists'
  · refine forall₂_congr fun number hnumber => ?_
    rw [isFault_notANumber_iff hnumber]
    push Not
    rfl

theorem filter_ne_empty_eq_iff {own key : Option String} :
    own = key.filter (· ≠ "") ↔ ∀ text, own = some text ↔ key = some text ∧ text ≠ "" := by
  rw [Option.ext_iff]
  simp only [Option.filter_eq_some_iff, decide_eq_true_eq]

/-- The settings that are read are those that the variables give. -/
theorem read_eq_ok_iff_gives : read e = .ok s ↔ Gives e.value? s := by
  -- the bounds are those of the widths in which the numbers are kept, so that none of them is cut off
  have hconnections : ∀ n, numberOr e "DATABASE_MAX_CONNECTIONS" (Nat.pow 2 32) 10 = .ok n ↔
      SpellsOr e.value? "DATABASE_MAX_CONNECTIONS" 10 n ∧ n < UInt32.size :=
    fun n => numberOr_eq_ok_iff_spellsOr (by decide)
  have hperiod : ∀ name default n, default < UInt64.size → (numberOr e name (Nat.pow 2 64) default = .ok n ↔
      SpellsOr e.value? name default n ∧ n < UInt64.size) :=
    fun _ _ n lt => numberOr_eq_ok_iff_spellsOr lt
  rw [read_eq_ok_iff]
  constructor
  · rintro ⟨url, connections, sweep, consumer, settlement, hurl, hcs, hsweep, hconsumer, hsettlement, rfl⟩
    obtain ⟨hcs, hcslt⟩ := (hconnections _).1 hcs
    obtain ⟨hsweep, hsweeplt⟩ := (hperiod _ _ _ (by decide)).1 hsweep
    obtain ⟨hconsumer, hconsumerlt⟩ := (hperiod _ _ _ (by decide)).1 hconsumer
    obtain ⟨hsettlement, hsettlementlt⟩ := (hperiod _ _ _ (by decide)).1 hsettlement
    exact {
      databaseUrl := required_eq_ok_iff.1 hurl
      maxConnections := by
        rw [UInt32.toNat_ofNat_of_lt' hcslt]
        exact hcs
      nominatimUrl := rfl
      yandexUrl := rfl
      yandexKey := filter_ne_empty_eq_iff.1 rfl
      sweepPeriod := ⟨sweep, hsweep, congrArg (· * 1000) (UInt64.toNat_ofNat_of_lt' hsweeplt)⟩
      consumerPeriod := by
        rw [consumerPeriod, UInt64.toNat_ofNat_of_lt' hconsumerlt]
        exact hconsumer
      settlementDelay := ⟨settlement, hsettlement, congrArg (· * 1000) (UInt64.toNat_ofNat_of_lt' hsettlementlt)⟩ }
  · intro h
    obtain ⟨sweep, hsweep, hsweepeq⟩ := h.sweepPeriod
    obtain ⟨settlement, hsettlement, hsettlementeq⟩ := h.settlementDelay
    obtain rfl := Nat.eq_of_mul_eq_mul_right (by decide) hsweepeq
    obtain rfl := Nat.eq_of_mul_eq_mul_right (by decide) hsettlementeq
    refine ⟨_, _, _, _, _, required_eq_ok_iff.2 h.databaseUrl,
      (hconnections _).2 ⟨h.maxConnections, s.maxConnections.toNat_lt⟩,
      (hperiod _ _ _ (by decide)).2 ⟨hsweep, s.sweepSeconds.toNat_lt⟩,
      (hperiod _ _ _ (by decide)).2 ⟨h.consumerPeriod, s.consumerMilliseconds.toNat_lt⟩,
      (hperiod _ _ _ (by decide)).2 ⟨hsettlement, s.settlementSeconds.toNat_lt⟩, ?_⟩
    have hnominatim : (e.value? "NOMINATIM_BASE_URL").getD Nominatim.defaultUrl = s.nominatimUrl := h.nominatimUrl.symm
    have hyandex : (e.value? "YANDEX_GEOCODER_URL").getD Yandex.defaultUrl = s.yandexUrl := h.yandexUrl.symm
    have hkey := filter_ne_empty_eq_iff.2 h.yandexKey
    rw [hnominatim, hyandex, ← hkey, UInt32.ofNat_toNat, UInt64.ofNat_toNat, UInt64.ofNat_toNat, consumerPeriod,
      UInt64.ofNat_toNat]

variable {content : String}

theorem load?_eq_none_iff : load? e content = none ↔ (e.withFile content).isImpossible = true := by
  rw [load?]
  split
  · rename_i h
    exact iff_of_true rfl h
  · rename_i h
    exact iff_of_false (Option.some_ne_none _) h

theorem eq_read_of_load? {settings : Except SettingsError Settings} (h : load? e content = some settings) :
    settings = read (e.withFile content) := by
  rw [load?] at h
  split at h
  · cases h
  · injection h with h
    exact h.symm

end Settings

/-- A variable has the text that it is set to, or else that of the first assignment to it in the file. There are
settings if the database has an address and each variable for a number that has a text spells one below its bound; they
are what the variables give, or the default of each. Otherwise the message names the first variable that is wrong,
whatever the variables behind it hold. So it is unless the file gives a variable a value that holds a NUL; only then is
there neither, as the application breaks down. -/
theorem settings_decided (entries : List (String × VariableValue)) (content : String) :
    let e := Environment.withFile ⟨entries, []⟩ content
    (∀ name value, e.value? name = some value ↔ Environment.Holds entries e.assignments name value) ∧
    (∀ as, (∀ a ∈ as, AssignmentFile.IsPlain a) → content = AssignmentFile.plainText as → e.assignments = as) ∧
    ((∃ s, Settings.read e = .ok s) ↔ (∃ url, e.value? "DATABASE_URL" = some url) ∧
      ∀ number ∈ Settings.numbers, ∀ text, e.value? number.1 = some text →
        ∃ n < number.2, Settings.Spells text n) ∧
    (∀ s, Settings.read e = .ok s ↔ Settings.Gives e.value? s) ∧
    (∀ cause, Settings.read e = .error cause ↔ IsFirst (Settings.IsFault e.value?) Settings.faults cause) ∧
    Settings.faults.map SettingsError.message =
      ["DATABASE_URL must be set", "DATABASE_MAX_CONNECTIONS must be a valid number",
        "COORDINATES_SWEEP_PERIOD_SECS must be a valid number",
        "COORDINATES_CONSUMER_INTERVAL_MS must be a valid number", "SETTLEMENT_DELAY_SECS must be a valid number"] ∧
    (Settings.load? ⟨entries, []⟩ content = none ↔ ∃ name value, (∀ own, entries.lookup name ≠ some (.text own)) ∧
      IsFirst (fun a => a.1 = name) e.assignments (name, value) ∧ '\x00' ∈ value.toList) ∧
    ∀ settings, Settings.load? ⟨entries, []⟩ content = some settings → settings = Settings.read e := by
  intro e
  have hentries : e.entries = entries := Environment.entries_withFile ⟨entries, []⟩ content
  refine ⟨fun name value => ?_, ?_, Settings.exists_read_eq_ok_iff.trans Settings.forall_not_isFault_iff,
    fun s => Settings.read_eq_ok_iff_gives, fun cause => Settings.read_eq_error_iff, rfl, ?_, fun settings hload => ?_⟩
  · rw [Environment.value?_eq_some_iff_holds, hentries]
  · rintro as hplain rfl
    exact congrArg Environment.assignments (Environment.withFile_plainText hplain ⟨entries, []⟩)
  · rw [Settings.load?_eq_none_iff, Environment.isImpossible_iff, Environment.entries_withFile]
  · exact Settings.eq_read_of_load? hload

/-- A delay that is one too much is refused, behind a number with blanks, a plus sign and zeros that is not. -/
theorem settings_decided_delay :
    Settings.read (Environment.withFile ⟨[("DATABASE_MAX_CONNECTIONS", .text " +007 ")], []⟩
      (AssignmentFile.plainText [("DATABASE_URL", "postgres:one"), ("DATABASE_URL", "postgres:two"),
        ("SETTLEMENT_DELAY_SECS", "18446744073709551616")])) = .error (.notANumber "SETTLEMENT_DELAY_SECS") := by
  obtain ⟨-, -, -, -, herror, -⟩ := settings_decided [("DATABASE_MAX_CONNECTIONS", .text " +007 ")]
    (AssignmentFile.plainText [("DATABASE_URL", "postgres:one"), ("DATABASE_URL", "postgres:two"),
      ("SETTLEMENT_DELAY_SECS", "18446744073709551616")])
  rw [Environment.withFile_plainText (by decide +kernel)] at herror ⊢
  exact (herror _).2 ⟨by decide +kernel, [.missing "DATABASE_URL", .notANumber "DATABASE_MAX_CONNECTIONS",
    .notANumber "COORDINATES_SWEEP_PERIOD_SECS", .notANumber "COORDINATES_CONSUMER_INTERVAL_MS"], [], rfl,
    by decide +kernel⟩

end Matchday

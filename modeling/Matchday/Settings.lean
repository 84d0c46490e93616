import Matchday.Geocoding.Request
import Matchday.Number.Decimal
import Matchday.Settings.File

/-!
The settings of the application, from named variables. Every setting but the database's address has
a default, and a number that cannot be read is refused instead of being replaced by its default. Of
several wrong variables the first is reported, in a fixed order. A file of assignments is put into the
variables first; if it gives one of them a value that it cannot have, the application breaks down.
-/

namespace Matchday
set_option autoImplicit false

/-- Why there are no settings. -/
inductive SettingsError where
  | missing (name : String)
  | notANumber (name : String)
deriving DecidableEq, Repr

/-- The wording of each cause. -/
def SettingsError.message : SettingsError → String
  | missing name => name ++ " must be set"
  | notANumber name => name ++ " must be a valid number"

/-- The settings. -/
structure Settings where
  databaseUrl : String
  maxConnections : UInt32
  nominatimUrl : String
  yandexUrl : String
  yandexKey : Option String
  sweepSeconds : UInt64
  consumerMilliseconds : UInt64
  settlementSeconds : UInt64
deriving DecidableEq, Repr

namespace Settings

/-- A number below some limit: digits, with blanks around them and a plus sign in front of them if
wanted. -/
def number? (limit : Nat) (text : String) : Option Nat :=
  let cs := Text.trim text.toList
  let cs := if cs.head? = some '+' then cs.tail else cs
  match Decimal.takeDigits cs with
  | (d :: ds, []) =>
    if Decimal.ofDigits (d :: ds) < limit then some (Decimal.ofDigits (d :: ds)) else none
  | _ => none

/-- The number that a variable holds, or a default if the variable does not count. -/
def numberOr (e : Environment) (name : String) (limit default : Nat) : Except SettingsError Nat :=
  match e.value? name with
  | none => .ok default
  | some text =>
    match number? limit text with
    | some n => .ok n
    | none => .error (.notANumber name)

/-- The text that a variable holds. -/
def required (e : Environment) (name : String) : Except SettingsError String :=
  match e.value? name with
  | some text => .ok text
  | none => .error (.missing name)

/-- The settings that variables give. -/
def read (e : Environment) : Except SettingsError Settings := do
  let databaseUrl ← required e "DATABASE_URL"
  let maxConnections ← numberOr e "DATABASE_MAX_CONNECTIONS" (Nat.pow 2 32) 10
  let sweepSeconds ← numberOr e "COORDINATES_SWEEP_PERIOD_SECS" (Nat.pow 2 64) 60
  let consumerMilliseconds ← numberOr e "COORDINATES_CONSUMER_INTERVAL_MS" (Nat.pow 2 64) 1500
  let settlementSeconds ← numberOr e "SETTLEMENT_DELAY_SECS" (Nat.pow 2 64) 30
  return {
    databaseUrl
    maxConnections := .ofNat maxConnections
    nominatimUrl := (e.value? "NOMINATIM_BASE_URL").getD Nominatim.defaultUrl
    yandexUrl := (e.value? "YANDEX_GEOCODER_URL").getD Yandex.defaultUrl
    yandexKey := (e.value? "YANDEX_API_KEY").filter (· ≠ "")
    sweepSeconds := .ofNat sweepSeconds
    consumerMilliseconds := .ofNat consumerMilliseconds
    settlementSeconds := .ofNat settlementSeconds }

/-- The settings that variables give together with a file of assignments; none if the application
breaks down over the file. -/
def load? (e : Environment) (content : String) : Option (Except SettingsError Settings) :=
  if (e.withFile content).isImpossible then none else some (read (e.withFile content))

/-- How often events are swept, in milliseconds. -/
def sweepPeriod (s : Settings) : Nat := s.sweepSeconds.toNat * 1000

/-- How often the queue is worked on, in milliseconds. -/
def consumerPeriod (s : Settings) : Nat := s.consumerMilliseconds.toNat

/-- How long a settlement waits, in milliseconds. -/
def settlementDelay (s : Settings) : Nat := s.settlementSeconds.toNat * 1000

end Settings

end Matchday

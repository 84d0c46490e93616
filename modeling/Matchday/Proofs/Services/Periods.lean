import Matchday.Application
import Matchday.Proofs.Services.Ticking
import Matchday.Proofs.Settings.Numbers
import Matchday.Settings.File

/-!
The workers of an application that was started with the settings that variables give. Any period that can
be read is accepted; with a period of zero a worker breaks down when it begins, and with any other it has
one round after another until it is told to stop.

Main statement: `Application.workers_tick`.
-/

namespace Matchday
set_option autoImplicit false

/-! ## Periods -/

/-- The variable that holds the period of a worker. -/
def WorkerKind.variable : WorkerKind → String
  | sweep => "COORDINATES_SWEEP_PERIOD_SECS"
  | consumer => "COORDINATES_CONSUMER_INTERVAL_MS"

namespace Settings

/-- How often a worker has a round, in milliseconds. -/
def period (s : Settings) : WorkerKind → Nat
  | .sweep => s.sweepPeriod
  | .consumer => s.consumerPeriod

variable {e : Environment}

/-- A period is zero if its variable says so. -/
theorem period_eq_zero_iff {s : Settings} (accepted : read e = .ok s) (kind : WorkerKind) :
    s.period kind = 0 ↔ (e.value? kind.variable).any spellsZero = true := by
  obtain ⟨url, connections, sweep, consumer, settlement, -, -, hsweep, hconsumer, -, rfl⟩ :=
    read_eq_ok_iff.1 accepted
  cases kind with
  | sweep =>
    have hlt : sweep < 2 ^ 64 := numberOr_lt hsweep (by decide)
    rw [WorkerKind.variable, ← numberOr_eq_zero_iff hsweep (by decide) (by decide)]
    show (UInt64.ofNat sweep).toNat * 1000 = 0 ↔ sweep = 0
    rw [UInt64.toNat_ofNat_of_lt' hlt, Nat.mul_eq_zero]
    exact or_iff_left (by decide)
  | consumer =>
    have hlt : consumer < 2 ^ 64 := numberOr_lt hconsumer (by decide)
    rw [WorkerKind.variable, ← numberOr_eq_zero_iff hconsumer (by decide) (by decide)]
    show (UInt64.ofNat consumer).toNat = 0 ↔ consumer = 0
    rw [UInt64.toNat_ofNat_of_lt' hlt]

end Settings

/-! ## The application -/

namespace Application

open Machine

/-- The workers that an application begins with. -/
theorem employs_start {s : Settings} {m : Machine} (named : m.Named) {kind : WorkerKind} {n : Nat}
    (h : (kind, n) ∈ [WorkerKind.sweep, .consumer].zip (start s m).2) :
    (start s m).1.Employs (.call n) (.create kind (s.period kind) n) := by
  have hperiod : s.period kind = kind.choose s.sweepPeriod s.consumerPeriod := by cases kind <;> rfl
  rw [hperiod]
  exact employs_startWorkers named h

/-- The workers of an application with settings that were accepted. One with a period of zero, which is one
whose variable spells zero, breaks down by its first step and has no round. One with any other period never
breaks down, and ends only if it was told to stop. Until then it comes to its next round by its own steps, and
if time passes only while it waits, and answers come within some time, it begins at least one round in every
stretch of time that is longer than its period and the time that a round takes. -/
theorem workers_tick (e : Environment) (content : String) (s : Settings)
    (accepted : Settings.read (e.withFile content) = .ok s) (calendar : Instant) (events : EventStore)
    (payments : PaymentStore) (before earlier later : List Action) (latency : Nat) :
    let started := start s ((build s calendar events payments).run before)
    let m := started.1.run earlier
    let m' := m.run later
    ∀ kind n, (kind, n) ∈ [WorkerKind.sweep, .consumer].zip started.2 →
      (s.period kind = 0 ↔ ((e.withFile content).value? kind.variable).any Settings.spellsZero = true) ∧
      (s.period kind = 0 → m.trace (rounds (.call n)) later = [] ∧
        ∀ goOn, (m.act (.step (.call n) goOn)).endings [n] =
          [(kind, .panicked n (some "`period` must be non-zero."))]) ∧
      (s.period kind ≠ 0 →
        (m.endings [n] = [] ∨ m.endings [n] = [(kind, .stopped)] ∧ m.isCancelled [n] = true) ∧
        (m.isCancelled [n] = false → ∃ more, (∀ a ∈ more, a.isOf (.call n) = true) ∧
          m.always (heeds (.call n)) more = true ∧ m.trace (rounds (.call n)) more ≠ []) ∧
        (m'.isCancelled [n] = false → started.1.always (serves kind latency) (earlier ++ later) = true →
          m.always (heeds (.call n)) later = true →
          ∀ k, m.now + k * max (s.period kind) (kind.roundTime latency) < m'.now →
            k ≤ (m.trace (rounds (.call n)) later).length)) := by
  intro started m m' kind n hn
  have hbegins : started.1.Employs (.call n) (.create kind (s.period kind) n) :=
    employs_start (named_run _ before) hn
  obtain ⟨w, hw, hkind, hperiod, htask, -⟩ := hbegins.run earlier
  refine ⟨Settings.period_eq_zero_iff accepted kind, fun zero => ⟨hw.rounds_of_zero (hperiod.trans zero) later,
    fun goOn => ?_⟩, fun positive => ⟨?_, fun untold => ?_, fun untold quick heeded k late => ?_⟩⟩
  · rw [hw.endings_of_zero (hperiod.trans zero) goOn, hkind, Worker.breakdown, htask]
    rfl
  · rw [hw.endings_eq, hw.isCancelled_eq, hkind]
    obtain hending | ⟨hending, told⟩ := hw.sound.ending?_cases (hperiod ▸ positive)
    · rw [hending]
      exact .inl rfl
    · rw [hending]
      exact .inr ⟨rfl, told⟩
  · exact hw.exists_round (hperiod ▸ positive) (hw.isCancelled_eq ▸ untold)
  · rw [always_append, Bool.and_eq_true] at quick
    obtain ⟨w₁, hw₁, hkind₁, hperiod₁, hnear⟩ :=
      hbegins.latest_run_le (Worker.latest_create _ _ _ _) quick.1
    have hspan : w₁.span latency = max (s.period kind) (kind.roundTime latency) := by
      rw [Worker.span, hkind₁, hperiod₁]
      rfl
    refine hw₁.le_length_rounds (hperiod₁ ▸ positive) hnear (hkind₁ ▸ quick.2) heeded
      (fun w' hw' => hw'.isCancelled_eq ▸ untold) (hspan ▸ late)

/-! ## An application without its stores -/

/-- Variables of which one besides the address of the database has a value. -/
def localVariables (name value : String) : Environment :=
  ⟨[("DATABASE_URL", .text "postgres://localhost/sportify"), (name, .text value)], []⟩

/-- Settings with the two periods. -/
def localSettings (sweepSeconds consumerMilliseconds : UInt64) : Settings where
  databaseUrl := "postgres://localhost/sportify"
  maxConnections := 10
  nominatimUrl := Nominatim.defaultUrl
  yandexUrl := Yandex.defaultUrl
  yandexKey := none
  sweepSeconds := sweepSeconds
  consumerMilliseconds := consumerMilliseconds
  settlementSeconds := 30

/-- The application with some settings and nothing in its stores, and its workers. -/
def localWorkers (s : Settings) : Machine × Crew := start s (build s .newYear .empty .empty)

/-- Zeros are accepted for either period, and the worker whose period it is breaks down by its first step. -/
theorem zero_period_panics :
    (∃ s, Settings.read ((localVariables "COORDINATES_SWEEP_PERIOD_SECS" "0").withFile "") = .ok s ∧
      s.sweepPeriod = 0 ∧
      ((localWorkers s).1.run [.step (.call 0) true, .step (.call 1) true]).endings (localWorkers s).2 =
        [(.sweep, .panicked 0 (some "`period` must be non-zero."))]) ∧
    ∃ s, Settings.read ((localVariables "COORDINATES_CONSUMER_INTERVAL_MS" "0").withFile "") = .ok s ∧
      s.consumerPeriod = 0 ∧
      ((localWorkers s).1.run [.step (.call 0) true, .step (.call 1) true]).endings (localWorkers s).2 =
        [(.consumer, .panicked 1 (some "`period` must be non-zero."))] :=
  ⟨⟨localSettings 0 1500, by decide, rfl, by decide⟩, localSettings 60 0, by decide, rfl, by decide⟩

/-- A worker begins, waits for its first tick, has a round in which there is nothing to do, and waits again. -/
def firstRound (n : Nat) : List Action :=
  .wait 20 :: List.replicate 3 (.step (.call n) true) ++ [.wait 20]

/-- With a period of twenty milliseconds the second worker has a round in the first forty. -/
theorem workers_tick_twenty :
    Settings.read ((localVariables "COORDINATES_CONSUMER_INTERVAL_MS" " +020 ").withFile "") =
      .ok (localSettings 60 20) ∧
    ((localWorkers (localSettings 60 20)).1.run [.step (.call 1) true]).trace (rounds (.call 1))
      (firstRound 1) = [20] ∧
    1 ≤ (((localWorkers (localSettings 60 20)).1.run [.step (.call 1) true]).trace (rounds (.call 1))
      (firstRound 1)).length := by
  have accepted : Settings.read
      ((localVariables "COORDINATES_CONSUMER_INTERVAL_MS" " +020 ").withFile "") =
        .ok (localSettings 60 20) := by decide
  obtain ⟨-, -, hticks⟩ := (workers_tick _ _ _ accepted .newYear .empty .empty []
    [.step (.call 1) true] (firstRound 1) 0 .consumer 1 (.tail _ (.head _))).2.2 (by decide)
  exact ⟨accepted, by decide, hticks (by decide) (by decide) (by decide) 1 (by decide)⟩

end Application

end Matchday

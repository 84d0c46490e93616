import Matchday.Locating.Pass
import Matchday.Locating.Sweep

/-!
What a lookup, a pass or a sweep comes to if nothing else happens until it is done. From its beginning this
is what the function does that does all at once, and no step changes it.

Main statements: `Pass.finish_step`, `Sweep.finish_step`.
-/

namespace Matchday
set_option autoImplicit false

/-! ## Lookups -/

theorem Geocoder.remarks_called (g : Geocoder) (other address : String) (caller : Caller) (a : Answer) :
    (g.called other caller).remarks address a = g.remarks address a := by
  cases a with
  | ok c => rfl
  | error e =>
    obtain ⟨name, source, latency, calls, requests⟩ := g
    cases source with
    | script answers => rfl
    | nominatim server exchanges => rfl
    | yandex server key exchanges => cases key <;> rfl

namespace Lookup

variable {address : String} {caller : Caller} {g : Geocoders}

/-- What is left of a lookup, done at once. -/
def finish (address : String) (caller : Caller) (g : Geocoders) :
    Lookup → Resolution × Geocoders × List LogEntry
  | starting => g.resolve address caller
  | primaryAsked (.ok c) _ => (.ok c, g, g.primary.remarks address (.ok c))
  | primaryAsked (.error e) _ =>
    (g.conclude e g.secondary.answer, g.callSecondary address caller,
      g.primary.remarks address (.error e) ++ g.concludingRemarks address g.secondary.answer)
  | secondaryAsked e answer _ => (g.conclude e answer, g, g.concludingRemarks address answer)
  | finished result => (result, g, [])

/-- No step changes what a lookup comes to. -/
theorem finish_step (l : Lookup) (now : Nat) : l.finish address caller g =
    let (l', g', entries) := l.step now address caller g
    ((l'.finish address caller g').1, (l'.finish address caller g').2.1,
      entries ++ (l'.finish address caller g').2.2) := by
  cases l with
  | starting =>
    simp only [finish, step, Geocoders.resolve]
    cases g.primary.answer with
    | ok c => rfl
    | error e =>
      simp only [Geocoders.callPrimary, Geocoder.remarks_called]
      rfl
  | primaryAsked answer timer =>
    cases answer with
    | ok c =>
      simp only [finish, step]
      rw [List.append_nil]
    | error e =>
      have hremarks : (g.callSecondary address caller).concludingRemarks address g.secondary.answer =
          g.concludingRemarks address g.secondary.answer :=
        congrArg (· ++ _) (g.secondary.remarks_called address address caller _)
      simp only [finish, step, hremarks]
      rfl
  | secondaryAsked e answer timer =>
    simp only [finish, step]
    rw [List.append_nil]
  | finished result => rfl

end Lookup

/-! ## Passes -/

namespace Backend

/-- What a pass does with its task once the lookup is done. -/
def conclude (b : Backend) (task : LookupTask) : Resolution → Option Processed × Backend
  | .error e =>
    let (outcome, b) := (b.noteLookupFailure task e).requeue task
    (some outcome, b)
  | .ok c =>
    match b.writePoint task c with
    | (false, b) =>
      let (outcome, b) := b.requeue task
      (some outcome, b)
    | (true, b) => (some (.resolved task.event c), b.untrack task)

/-- What is left of a lookup for some task, done at once, and then of the pass. -/
def concludeLookup (b : Backend) (task : LookupTask) (l : Lookup) : Option Processed × Backend :=
  let (result, geocoders, entries) := l.finish task.address .refresh b.geocoders
  ({ b with geocoders }.record entries).conclude task result

theorem record_record (b : Backend) (first second : List LogEntry) :
    (b.record first).record second = b.record (first ++ second) := by
  rw [record, record, record, List.append_assoc]

theorem concludeLookup_stepLookup (b : Backend) (task : LookupTask) (l : Lookup) :
    (b.stepLookup task.address .refresh l).2.concludeLookup task
      (b.stepLookup task.address .refresh l).1 = b.concludeLookup task l := by
  rw [concludeLookup, concludeLookup, l.finish_step b.now]
  simp only [stepLookup, ← record_record]
  rfl

theorem processNext_eq (b : Backend) : b.processNext =
    match b.takeTask? with
    | none => (none, b)
    | some (task, b) => b.concludeLookup task .starting := by
  rw [processNext]
  cases b.takeTask? with
  | none => rfl
  | some taken =>
    obtain ⟨task, b⟩ := taken
    simp only [lookUp, concludeLookup, Lookup.finish, conclude]
    cases (b.geocoders.resolve task.address .refresh).1 with
    | ok c => rfl
    | error e => rfl

/-- What a pass reports and makes of the state if there is a task: it puts the task back behind a lookup or a write
that fails, or the point is written and its event no longer tracked. -/
theorem processNext_cases {b : Backend} {task : LookupTask} {others : List LookupTask}
    (pending : b.queue.pending = task :: others) :
    let resolution := (b.geocoders.resolve task.address .refresh).1
    let outcome := b.processNext.1
    let b' := b.processNext.2
    b'.calendar = b.calendar ∧ b'.geocoders = (b.geocoders.resolve task.address .refresh).2.1 ∧
      (outcome = some (.requeued task.event task.failed.attempts) ∧
        b'.queue = { b.queue with pending := others ++ [task.failed] } ∧
        (resolution.isOk = false ∧ b'.events = b.events ∨ ∃ c e, resolution = .ok c ∧
          b.events.setCoordinates task.event c = (.error e, b'.events)) ∨
      ∃ c, outcome = some (.resolved task.event c) ∧
        b'.queue = { b.queue with pending := others, tracked := b.queue.tracked.erase task.event } ∧
        resolution = .ok c ∧ b.events.setCoordinates task.event c = (.ok (), b'.events)) := by
  have htake : b.takeTask? = some (task, { b with queue := { b.queue with pending := others } }) := by
    rw [takeTask?, LookupQueue.pop?, pending]
    rfl
  rcases hresolve : b.geocoders.resolve task.address .refresh with ⟨resolution, geocoders, entries⟩
  simp only [processNext, htake, lookUp, hresolve]
  cases resolution with
  | error e => exact ⟨rfl, rfl, .inl ⟨rfl, rfl, .inl ⟨rfl, rfl⟩⟩⟩
  | ok c =>
    rcases hwrite : b.events.setCoordinates task.event c with ⟨answer, events⟩
    cases answer with
    | error e =>
      simp only [writePoint, record, hwrite]
      exact ⟨rfl, rfl, .inl ⟨rfl, rfl, .inr ⟨c, e, rfl, hwrite⟩⟩⟩
    | ok done =>
      simp only [writePoint, record, hwrite]
      exact ⟨rfl, rfl, .inr ⟨c, rfl, rfl, rfl, hwrite⟩⟩

theorem processNext_of_nil {b : Backend} (h : b.queue.pending = []) : b.processNext = (none, b) := by
  rw [processNext, takeTask?, LookupQueue.pop?, h]
  rfl

/-- The state after some passes, each done at once. -/
def passes (b : Backend) : Nat → Backend
  | 0 => b
  | k + 1 => (b.passes k).processNext.2

theorem passes_succ (b : Backend) (k : Nat) : b.passes (k + 1) = b.processNext.2.passes k := by
  induction k with
  | zero => rfl
  | succ k ih => exact congrArg (fun b => b.processNext.2) ih

end Backend

namespace Pass

/-- What is left of a pass, done at once. -/
def finish (b : Backend) : Pass → Option Processed × Backend
  | starting => b.processNext
  | resolving task lookup => b.concludeLookup task lookup
  | writing task c => b.conclude task (.ok c)
  | untracking task c => (some (.resolved task.event c), b.untrack task)
  | requeueing task =>
    let (outcome, b) := b.requeue task
    (some outcome, b)
  | finished outcome => (outcome, b)

/-- No step changes what a pass comes to. -/
theorem finish_step (b : Backend) (p : Pass) : (p.step b).1.finish (p.step b).2 = p.finish b := by
  cases p with
  | starting =>
    rw [finish, Backend.processNext_eq, step]
    cases b.takeTask? with
    | none => rfl
    | some taken => rfl
  | resolving task lookup =>
    cases lookup with
    | finished result =>
      have hnothing : { b with geocoders := b.geocoders }.record [] = b := by
        rw [Backend.record, List.append_nil]
      cases result with
      | ok c =>
        rw [finish, Backend.concludeLookup]
        simp only [Lookup.finish, hnothing]
        rfl
      | error e =>
        rw [finish, Backend.concludeLookup]
        simp only [Lookup.finish, hnothing]
        rfl
    | starting => exact b.concludeLookup_stepLookup task .starting
    | primaryAsked answer timer => exact b.concludeLookup_stepLookup task (.primaryAsked answer timer)
    | secondaryAsked e answer timer =>
      exact b.concludeLookup_stepLookup task (.secondaryAsked e answer timer)
  | writing task c =>
    rw [step, finish, Backend.conclude]
    obtain ⟨written, b'⟩ := b.writePoint task c
    cases written <;> rfl
  | untracking task c | requeueing task | finished outcome => rfl

theorem finish_of_result? {b : Backend} {p : Pass} {outcome : Option Processed}
    (h : p.result? = some outcome) : p.finish b = (outcome, b) := by
  cases p with
  | finished other =>
    injection h with h
    rw [h]
    rfl
  | _ => cases h

end Pass

/-! ## Sweeps -/

namespace Sweep

/-- What is left of a sweep, done at once. -/
def finish (b : Backend) : Sweep → Except EventStoreError Nat × Backend
  | starting => b.sweep
  | observing missing queued =>
    let (rest, b) := b.observeAll missing
    (.ok (queued + rest), b)
  | finished result => (result, b)

/-- No step changes what a sweep comes to. -/
theorem finish_step (b : Backend) (s : Sweep) : (s.step b).1.finish (s.step b).2 = s.finish b := by
  cases s with
  | starting =>
    rw [step, finish, Backend.sweep]
    obtain ⟨answer, b'⟩ := b.loadMissing
    cases answer with
    | error e => rfl
    | ok missing => simp only [finish, Nat.zero_add]
  | observing missing queued =>
    cases missing with
    | nil => rfl
    | cons l ls =>
      simp only [step, finish, Backend.observeAll, Nat.add_assoc]
  | finished result => rfl

theorem finish_of_result? {b : Backend} {s : Sweep} {result : Except EventStoreError Nat}
    (h : s.result? = some result) : s.finish b = (result, b) := by
  cases s with
  | finished other =>
    injection h with h
    rw [h]
    rfl
  | _ => cases h

end Sweep

end Matchday

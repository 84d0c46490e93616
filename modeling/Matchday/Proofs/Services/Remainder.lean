import Matchday.Proofs.Locating.Coverage
import Matchday.Proofs.Services.Pace

/-!
What is left of a worker's round, done at once: the state after it, and for a sweep its answer. A step of a worker
changes neither, unless it begins a round; and none changes the clocks, the times of the stored events or how long
answers take.

Main statements: `Worker.Carries.finish`, `Worker.Carries.begins`, `Worker.Carries.lasts`.
-/

namespace Matchday
set_option autoImplicit false

/-! ## What steps leave as it is -/

theorem EventStore.times_findMissing (s : EventStore) (now : Instant) : (s.findMissing now).2.times = s.times := by
  obtain ⟨faults, h⟩ := s.findMissing_footprint now
  simp only [h, times]

theorem Lookup.isQuick_step (l : Lookup) (now latency : Nat) (address : String) (caller : Caller)
    (g : Geocoders) : (l.step now address caller g).2.1.isQuick latency = g.isQuick latency := by
  cases l with
  | primaryAsked answer timer => cases answer <;> rfl
  | _ => rfl

namespace Backend

/-- The clocks, the stored times and how long answers take are the same. -/
structure Lasts (b b' : Backend) : Prop where
  now : b'.now = b.now
  calendar : b'.calendar = b.calendar
  times : b'.events.times = b.events.times
  isQuick : ∀ latency, b'.geocoders.isQuick latency = b.geocoders.isQuick latency

theorem Lasts.refl (b : Backend) : b.Lasts b := ⟨rfl, rfl, rfl, fun _ => rfl⟩

theorem Lasts.stepLookup (b : Backend) (address : String) (caller : Caller) (l : Lookup) :
    b.Lasts (b.stepLookup address caller l).2 :=
  ⟨rfl, rfl, rfl, fun latency => l.isQuick_step b.now latency address caller b.geocoders⟩

theorem Lasts.writePoint (b : Backend) (task : LookupTask) (c : Coordinates) :
    b.Lasts (b.writePoint task c).2 := by
  obtain ⟨log, h⟩ := b.writePoint_footprint task c
  rw [h]
  exact ⟨rfl, rfl, (b.events.setCoordinates_keeps task.event c).1, fun _ => rfl⟩

theorem Lasts.loadMissing (b : Backend) : b.Lasts b.loadMissing.2 :=
  ⟨rfl, rfl, b.events.times_findMissing b.calendar, fun _ => rfl⟩

end Backend

theorem Sweep.step_lasts (b : Backend) (s : Sweep) : b.Lasts (s.step b).2 := by
  cases s with
  | starting =>
    have hload := Backend.Lasts.loadMissing b
    rw [step]
    split
    all_goals
      rename_i h
      rw [h] at hload
      exact hload
  | observing missing queued =>
    cases missing with
    | nil => exact .refl b
    | cons l ls => exact ⟨rfl, rfl, rfl, fun _ => rfl⟩
  | finished result => exact .refl b

theorem Pass.step_lasts (b : Backend) (p : Pass) : b.Lasts (p.step b).2 := by
  cases p with
  | starting =>
    rw [step, Backend.takeTask?]
    cases b.queue.pop? with
    | none => exact .refl b
    | some taken => exact ⟨rfl, rfl, rfl, fun _ => rfl⟩
  | resolving task lookup =>
    cases lookup with
    | finished result => cases result <;> exact ⟨rfl, rfl, rfl, fun _ => rfl⟩
    | starting => exact .stepLookup b task.address .refresh .starting
    | primaryAsked answer timer => exact .stepLookup b task.address .refresh (.primaryAsked answer timer)
    | secondaryAsked e answer timer =>
      exact .stepLookup b task.address .refresh (.secondaryAsked e answer timer)
  | writing task c =>
    have hwrite := Backend.Lasts.writePoint b task c
    rw [step]
    split
    all_goals
      rename_i h
      rw [h] at hwrite
      exact hwrite
  | untracking task c | requeueing task => exact ⟨rfl, rfl, rfl, fun _ => rfl⟩
  | finished outcome => exact .refl b

theorem Round.step_lasts (b : Backend) (r : Round) : b.Lasts (r.step b).2 := by
  cases r with
  | sweep stage => exact stage.step_lasts b
  | pass stage => exact stage.step_lasts b

/-! ## What is left of a round -/

namespace Round

/-- What is left of a round, done at once. -/
def finish (b : Backend) : Round → Backend
  | sweep stage => (stage.finish b).2
  | pass stage => (stage.finish b).2

/-- What a sweep answers once it is done. -/
def answer? (b : Backend) : Round → Option (Except EventStoreError Nat)
  | sweep stage => some (stage.finish b).1
  | pass _ => none

/-- What a sweep that is done has answered. -/
def result? : Round → Option (Except EventStoreError Nat)
  | sweep stage => stage.result?
  | pass _ => none

def locations : Round → List EventLocation
  | sweep stage => stage.locations
  | pass _ => []

variable {b b' : Backend} {r : Round}

theorem finish_step (b : Backend) (r : Round) : (r.step b).1.finish (r.step b).2 = r.finish b := by
  cases r with
  | sweep stage => exact congrArg Prod.snd (stage.finish_step b)
  | pass stage => exact congrArg Prod.snd (stage.finish_step b)

theorem answer?_step (b : Backend) (r : Round) : (r.step b).1.answer? (r.step b).2 = r.answer? b := by
  cases r with
  | sweep stage => exact congrArg (fun done => some done.1) (stage.finish_step b)
  | pass stage => rfl

theorem finish_of_isFinished (h : r.isFinished = true) : r.finish b = b ∧ r.answer? b = r.result? := by
  cases r with
  | sweep stage =>
    obtain ⟨result, hresult⟩ := Option.isSome_iff_exists.1 h
    simp only [finish, answer?, Round.result?, Sweep.finish_of_result? hresult, hresult, and_self]
  | pass stage =>
    obtain ⟨outcome, houtcome⟩ := Option.isSome_iff_exists.1 h
    simp only [finish, answer?, Round.result?, Pass.finish_of_result? houtcome, and_self]

theorem result?_of_unfinished (h : r.isFinished = false) : r.result? = none := by
  cases r with
  | sweep stage => exact Option.not_isSome_iff_eq_none.1 (ne_true_of_eq_false h)
  | pass stage => rfl

theorem finish_alike (h : b.Alike b') (agrees : b.events.agrees b.calendar b'.calendar = true)
    (stored : ∀ l ∈ r.locations, ∃ p ∈ b.events.times, p.1 = l.recheckAfter) :
    r.answer? b' = r.answer? b ∧ (r.finish b).Alike (r.finish b') := by
  cases r with
  | sweep stage =>
    obtain ⟨hanswer, halike⟩ := Sweep.finish_alike h agrees stored
    exact ⟨congrArg some hanswer, halike⟩
  | pass stage => exact ⟨rfl, h.finish_pass stage⟩

theorem locations_step {l : EventLocation} (mem : l ∈ (r.step b).1.locations) :
    l ∈ r.locations ∨ ∃ p ∈ b.events.times, p.1 = l.recheckAfter := by
  cases r with
  | sweep stage =>
    cases stage with
    | starting =>
      right
      simp only [step, Sweep.step] at mem
      split at mem
      · cases mem
      · rename_i missing b' hload
        apply EventStore.times_of_findMissing (congrArg Prod.fst hload) mem
    | observing missing queued =>
      left
      cases missing with
      | nil => cases mem
      | cons first rest => exact List.mem_cons_of_mem _ mem
    | finished result => cases mem
  | pass stage => cases mem

end Round

namespace Worker

/-- What is left of a worker's round, done at once. -/
def finish (b : Backend) (w : Worker) : Backend :=
  match w.stage with
  | .busy _ round => round.finish b
  | _ => b

def answer? (b : Backend) (w : Worker) : Option (Except EventStoreError Nat) :=
  match w.stage with
  | .busy _ round => round.answer? b
  | _ => none

def result? (w : Worker) : Option (Except EventStoreError Nat) :=
  match w.stage with
  | .busy _ round => round.result?
  | _ => none

def locations (w : Worker) : List EventLocation :=
  match w.stage with
  | .busy _ round => round.locations
  | _ => []

variable {w : Worker} {b b' : Backend} {stage : WorkerStage}

theorem finish_of_idle (h : w.isBusy = false) : w.finish b = b ∧ w.answer? b = none := by
  obtain ⟨kind, period, isCancelled, stage, task⟩ := w
  cases stage with
  | busy next round => cases h
  | _ => exact ⟨rfl, rfl⟩

theorem finish_alike (h : b.Alike b') (agrees : b.events.agrees b.calendar b'.calendar = true)
    (stored : ∀ l ∈ w.locations, ∃ p ∈ b.events.times, p.1 = l.recheckAfter) :
    w.answer? b' = w.answer? b ∧ (w.finish b).Alike (w.finish b') := by
  obtain ⟨kind, period, isCancelled, stage, task⟩ := w
  cases stage with
  | busy next round => exact Round.finish_alike h agrees stored
  | _ => exact ⟨rfl, h⟩

theorem Carries.lasts (h : w.Carries b w.stage stage b') : b.Lasts b' := by
  obtain ⟨kind, period, isCancelled, before, task⟩ := w
  cases h with
  | begun | rested => exact ⟨rfl, rfl, rfl, fun _ => rfl⟩
  | ticked timer => exact .refl b
  | worked next round unfinished => exact round.step_lasts b

theorem Carries.locations (h : w.Carries b w.stage stage b') {l : EventLocation}
    (mem : l ∈ (w.become stage).locations) :
    l ∈ w.locations ∨ ∃ p ∈ b.events.times, p.1 = l.recheckAfter := by
  obtain ⟨kind, period, isCancelled, before, task⟩ := w
  cases h with
  | begun | rested => cases mem
  | ticked timer => cases kind <;> cases mem
  | worked next round unfinished => exact Round.locations_step mem

/-- A step that begins no round changes nothing of what the round comes to. -/
theorem Carries.finish (h : w.Carries b w.stage stage b') (going : w.isWaiting = false) :
    (w.finish b).Alike ((w.become stage).finish b') ∧
      (w.answer? b).toList = w.result?.toList ++ ((w.become stage).answer? b').toList := by
  obtain ⟨kind, period, isCancelled, before, task⟩ := w
  cases h with
  | begun => exact ⟨⟨rfl, rfl, rfl⟩, rfl⟩
  | ticked timer => cases going
  | worked next round unfinished =>
    have hfinish := round.finish_step b
    have hanswer := round.answer?_step b
    have hnone := Round.result?_of_unfinished unfinished
    simp only [Worker.finish, answer?, result?, become, hfinish, hanswer, hnone, Option.toList_none,
      List.nil_append, and_true]
    exact .refl _
  | rested next round finished =>
    obtain ⟨hfinish, hanswer⟩ := Round.finish_of_isFinished (b := b) finished
    simp only [Worker.finish, answer?, result?, become, hfinish, hanswer, Option.toList_none,
      List.append_nil, and_true]
    exact ⟨rfl, rfl, rfl⟩

/-- A step of a worker that waits begins its round. -/
theorem Carries.begins (h : w.Carries b w.stage stage b') (waits : w.isWaiting = true) :
    (w.become stage).finish b' = (Round.ofKind w.kind).finish b ∧
      (w.become stage).answer? b' = (Round.ofKind w.kind).answer? b ∧ w.result? = none := by
  obtain ⟨kind, period, isCancelled, before, task⟩ := w
  cases h with
  | ticked timer => exact ⟨rfl, rfl, rfl⟩
  | _ => cases waits

end Worker

end Matchday

import Matchday.Proofs.Geocoding.Bounds
import Matchday.Proofs.Locating.Completion
import Matchday.Proofs.Locating.Looking
import Matchday.Proofs.Concurrent.Lives

/-!
Which points are written. A pass over the queue calls the store with the point that a lookup came to and with no
other; if both geocoders ask servers, that point is on the map. A lookup that comes to no point, and a write that
fails, put the task at the end of the queue.

The invariant says this of everything that a lookup or a pass has in hand (`Pass.InBounds`), so it holds in every
run, with any number of passes and workers side by side (`Machine.inBounds_run`).

Main statement: `Machine.placed_valid`.
-/

namespace Matchday
set_option autoImplicit false

/-! ## Lookups and passes -/

/-- The answers that a lookup has in hand are failures or points on the map. -/
def Lookup.InBounds : Lookup → Prop
  | starting => True
  | primaryAsked answer _ | secondaryAsked _ answer _ => OnlyValid answer
  | finished result => OnlyValid result

theorem Backend.stepLookup_online {b : Backend} (online : b.geocoders.Online) (address : String) (caller : Caller)
    (l : Lookup) : (b.stepLookup address caller l).2.geocoders.Online := by
  cases l with
  | starting => exact online.callPrimary address caller
  | primaryAsked answer timer =>
    cases answer with
    | ok c => exact online
    | error e => exact online.callSecondary address caller
  | secondaryAsked e answer timer | finished result => exact online

theorem Lookup.InBounds.step {l : Lookup} {g : Geocoders} (h : l.InBounds) (online : g.Online) (now : Nat)
    (address : String) (caller : Caller) : (l.step now address caller g).1.InBounds := by
  cases l with
  | starting => exact online.primary.answer
  | primaryAsked answer timer =>
    cases answer with
    | ok c =>
      intro point heq
      cases heq
      exact h c rfl
    | error e => exact online.secondary.answer
  | secondaryAsked e answer timer => exact Geocoders.onlyValid_conclude h
  | finished result => exact h

namespace Pass

/-- The answers and points that a pass has in hand, or came to, are on the map. -/
def InBounds : Pass → Prop
  | resolving _ lookup => lookup.InBounds
  | writing _ c | untracking _ c | finished (some (.resolved _ c)) => c.Valid
  | starting | requeueing _ | finished none | finished (some (.requeued _ _)) => True

/-- All that the next step of a pass may do if its points are on the map. The store is called with such a point or
not at all, and whatever else a lookup comes to ends at the end of the queue. -/
inductive Proceeds (b b' : Backend) : Pass → Pass → Prop where
  | idle (empty : b.queue.pending = []) (same : b' = b) : Proceeds b b' starting (finished none)
  | taken (task : LookupTask) (others : List LookupTask) (pending : b.queue.pending = task :: others)
      (queue : b'.queue = { b.queue with pending := others }) (store : b'.events = b.events) :
      Proceeds b b' starting (resolving task .starting)
  | asked (task : LookupTask) (lookup next : Lookup) (unfinished : lookup.result? = none)
      (answers : next = (lookup.step b.now task.address .refresh b.geocoders).1)
      (queue : b'.queue = b.queue) (store : b'.events = b.events) :
      Proceeds b b' (resolving task lookup) (resolving task next)
  | found (task : LookupTask) (c : Coordinates) (valid : c.Valid) (same : b' = b) :
      Proceeds b b' (resolving task (.finished (.ok c))) (writing task c)
  | missed (task : LookupTask) (e : ResolveError) (queue : b'.queue = b.queue) (store : b'.events = b.events) :
      Proceeds b b' (resolving task (.finished (.error e))) (requeueing task)
  | written (task : LookupTask) (c : Coordinates) (valid : c.Valid) (queue : b'.queue = b.queue)
      (store : b.events.setCoordinates task.event c = (.ok (), b'.events)) :
      Proceeds b b' (writing task c) (untracking task c)
  | refused (task : LookupTask) (c : Coordinates) (e : EventStoreError) (valid : c.Valid)
      (queue : b'.queue = b.queue) (store : b.events.setCoordinates task.event c = (.error e, b'.events)) :
      Proceeds b b' (writing task c) (requeueing task)
  | left (task : LookupTask) (c : Coordinates) (queue : b'.queue = b.queue.untrack task.event)
      (store : b'.events = b.events) :
      Proceeds b b' (untracking task c) (finished (some (.resolved task.event c)))
  | requeued (task : LookupTask) (store : b'.events = b.events)
      (queue : b'.queue = { b.queue with
        pending := b.queue.pending ++ [{ task with attempts := task.attempts + 1 }] }) :
      Proceeds b b' (requeueing task) (finished (some (.requeued task.event (task.attempts + 1))))

variable {b : Backend} {p : Pass}

theorem InBounds.proceeds (h : p.InBounds) (unfinished : p.result? = none) :
    Proceeds b (p.step b).2 p (p.step b).1 := by
  cases p with
  | starting =>
    cases hpending : b.queue.pending with
    | nil =>
      have htake : b.takeTask? = none := by simp [Backend.takeTask?, LookupQueue.pop?, hpending]
      simp only [step, htake]
      exact .idle hpending rfl
    | cons task others =>
      have htake : b.takeTask? = some (task, { b with queue := { b.queue with pending := others } }) := by
        simp [Backend.takeTask?, LookupQueue.pop?, hpending]
      simp only [step, htake]
      exact .taken task others hpending rfl rfl
  | resolving task lookup =>
    cases lookup with
    | finished result =>
      cases result with
      | ok c => exact .found task c (h c rfl) rfl
      | error e => exact .missed task e rfl rfl
    | starting | primaryAsked answer timer | secondaryAsked e answer timer => exact .asked task _ _ rfl rfl rfl rfl
  | writing task c =>
    rcases hset : b.events.setCoordinates task.event c with ⟨answer, events⟩
    cases answer with
    | ok done =>
      simp only [step, Backend.writePoint, hset]
      exact .written task c h rfl hset
    | error e =>
      simp only [step, Backend.writePoint, hset]
      exact .refused task c e h rfl hset
  | untracking task c => exact .left task c rfl rfl
  | requeueing task => exact .requeued task rfl rfl
  | finished outcome => cases unfinished

theorem InBounds.step (h : p.InBounds) (online : b.geocoders.Online) :
    (p.step b).1.InBounds ∧ (p.step b).2.geocoders.Online := by
  cases p with
  | starting =>
    rw [Pass.step, Backend.takeTask?]
    cases b.queue.pop? <;> exact ⟨trivial, online⟩
  | resolving task lookup =>
    have hlookup : lookup.InBounds := h
    cases lookup with
    | finished result =>
      cases result with
      | ok c => exact ⟨h c rfl, online⟩
      | error e => exact ⟨trivial, online⟩
    | starting =>
      refine ⟨hlookup.step online b.now task.address .refresh, ?_⟩
      exact Backend.stepLookup_online online task.address .refresh .starting
    | primaryAsked answer timer =>
      refine ⟨hlookup.step online b.now task.address .refresh, ?_⟩
      exact Backend.stepLookup_online online task.address .refresh (.primaryAsked answer timer)
    | secondaryAsked e answer timer =>
      refine ⟨hlookup.step online b.now task.address .refresh, ?_⟩
      exact Backend.stepLookup_online online task.address .refresh (.secondaryAsked e answer timer)
  | writing task c =>
    rcases hset : b.events.setCoordinates task.event c with ⟨answer, events⟩
    cases answer with
    | ok done =>
      simp only [Pass.step, Backend.writePoint, hset]
      exact ⟨h, online⟩
    | error e =>
      simp only [Pass.step, Backend.writePoint, hset]
      exact ⟨trivial, online⟩
  | untracking task c => exact ⟨h, online⟩
  | requeueing task => exact ⟨trivial, online⟩
  | finished outcome => exact ⟨h, online⟩

/-- What a step adds to the points that were written. -/
theorem Proceeds.writes {b' : Backend} {p' : Pass} (h : Proceeds b b' p p') :
    ∃ new, b'.events.writes = b.events.writes ++ new ∧ ∀ w ∈ new, w.2.Valid := by
  have hnothing : b'.events = b.events →
      ∃ new, b'.events.writes = b.events.writes ++ new ∧ ∀ w ∈ new, w.2.Valid := by
    intro store
    exact ⟨[], by rw [store, List.append_nil], by simp⟩
  cases h with
  | idle _ same | found _ _ _ same => exact hnothing (by rw [same])
  | taken _ _ _ _ store | asked _ _ _ _ _ _ store | missed _ _ _ store | left _ _ _ store | requeued _ store _ =>
    exact hnothing store
  | written task c valid queue store =>
    exact ⟨[(task.event, c)], by rw [EventStore.setCoordinates_written store], by simpa using valid⟩
  | refused task c e valid queue store =>
    obtain ⟨faults, hkept⟩ := EventStore.setCoordinates_refused store
    exact ⟨[], by rw [hkept, List.append_nil], by simp⟩

end Pass

/-! ## Passes that are done at once -/

/-- What a whole pass comes to if nothing else happens meanwhile: no task, a point on the map that is written, such
a point that the store refuses, or no point. The last two put the task at the end of the queue. -/
inductive Backend.Handles (b b' : Backend) : Option Processed → Prop where
  | idle (empty : b.queue.pending = []) (same : b' = b) : Handles b b' none
  | resolved (task : LookupTask) (others : List LookupTask) (c : Coordinates) (valid : c.Valid)
      (pending : b.queue.pending = task :: others)
      (lookup : (b.geocoders.resolve task.address .refresh).1 = .ok c)
      (store : b.events.setCoordinates task.event c = (.ok (), b'.events))
      (queue : b'.queue = ⟨others, b.queue.tracked.erase task.event⟩) :
      Handles b b' (some (.resolved task.event c))
  | refused (task : LookupTask) (others : List LookupTask) (c : Coordinates) (e : EventStoreError) (valid : c.Valid)
      (pending : b.queue.pending = task :: others)
      (lookup : (b.geocoders.resolve task.address .refresh).1 = .ok c)
      (store : b.events.setCoordinates task.event c = (.error e, b'.events))
      (queue : b'.queue = ⟨others ++ [{ task with attempts := task.attempts + 1 }], b.queue.tracked⟩) :
      Handles b b' (some (.requeued task.event (task.attempts + 1)))
  | missed (task : LookupTask) (others : List LookupTask) (e : ResolveError)
      (pending : b.queue.pending = task :: others)
      (lookup : (b.geocoders.resolve task.address .refresh).1 = .error e) (store : b'.events = b.events)
      (queue : b'.queue = ⟨others ++ [{ task with attempts := task.attempts + 1 }], b.queue.tracked⟩) :
      Handles b b' (some (.requeued task.event (task.attempts + 1)))

namespace Backend

variable {b : Backend}

theorem processNext_handles (online : b.geocoders.Online) :
    b.Handles b.processNext.2 b.processNext.1 ∧ b.processNext.2.geocoders.Online := by
  cases hpending : b.queue.pending with
  | nil =>
    rw [processNext_of_nil hpending]
    exact ⟨.idle hpending rfl, online⟩
  | cons task others =>
    have htake : b.takeTask? = some (task, { b with queue := { b.queue with pending := others } }) := by
      simp [takeTask?, LookupQueue.pop?, hpending]
    obtain ⟨hvalid, hnext⟩ := online.resolve task.address .refresh
    rcases hresolve : b.geocoders.resolve task.address .refresh with ⟨resolution, geocoders, entries⟩
    rw [hresolve] at hvalid hnext
    simp only [processNext, htake, lookUp, hresolve]
    cases resolution with
    | error e => exact ⟨.missed task others e hpending (by rw [hresolve]) rfl rfl, hnext⟩
    | ok c =>
      have hlookup : (b.geocoders.resolve task.address .refresh).1 = .ok c := by rw [hresolve]
      rcases hset : b.events.setCoordinates task.event c with ⟨answer, events⟩
      cases answer with
      | error e =>
        simp only [writePoint, record, hset]
        exact ⟨.refused task others c e (hvalid c rfl) hpending hlookup hset rfl, hnext⟩
      | ok done =>
        simp only [writePoint, record, hset]
        exact ⟨.resolved task others c (hvalid c rfl) hpending hlookup hset rfl, hnext⟩

theorem passes_handle (online : b.geocoders.Online) (n : Nat) : (b.passes n).geocoders.Online ∧
    (b.passes n).Handles (b.passes (n + 1)) (b.passes n).processNext.1 := by
  induction n with
  | zero => exact ⟨online, (processNext_handles online).1⟩
  | succ n ih =>
    have hnext := (processNext_handles ih.1).2
    exact ⟨hnext, (processNext_handles hnext).1⟩

theorem change_online (online : b.geocoders.Online) (c : Change) : (b.change c).geocoders.Online := by
  cases c with
  | extendPrimary answers =>
    refine ⟨?_, online.secondary⟩
    show (b.geocoders.primary.extend answers).source.Online
    rw [Geocoder.extend_of_online online.primary]
    exact online.primary
  | extendSecondary answers =>
    refine ⟨online.primary, ?_⟩
    show (b.geocoders.secondary.extend answers).source.Online
    rw [Geocoder.extend_of_online online.secondary]
    exact online.secondary
  | delayPrimary latency | delaySecondary latency => exact ⟨online.primary, online.secondary⟩
  | _ => exact online

end Backend

/-! ## Tasks -/

theorem Worker.step_cases (w : Worker) (b : Backend) (goOn : Bool) :
    ((Task.worker (w.step b goOn).1).pass? = none ∨ (Task.worker (w.step b goOn).1).pass? = some .starting) ∧
      (w.step b goOn).2.geocoders = b.geocoders ∨
    ∃ p, (Task.worker w).pass? = some p ∧ (Task.worker (w.step b goOn).1).pass? = some (p.step b).1 ∧
      (w.step b goOn).2 = (p.step b).2 := by
  obtain ⟨kind, period, isCancelled, stage, task⟩ := w
  cases stage with
  | starting =>
    simp only [step, start]
    split <;> exact .inl ⟨.inl rfl, rfl⟩
  | waiting timer =>
    simp only [step]
    split
    · exact .inl ⟨.inl rfl, rfl⟩
    · cases kind
      · exact .inl ⟨.inl rfl, rfl⟩
      · exact .inl ⟨.inr rfl, rfl⟩
  | busy next round =>
    cases round with
    | sweep s =>
      obtain ⟨events, queue, hfoot⟩ := s.step_footprint b
      simp only [step]
      split
      · exact .inl ⟨.inl rfl, rfl⟩
      · exact .inl ⟨.inl rfl, by simp only [Round.step, hfoot]⟩
    | pass p =>
      simp only [step]
      split
      · exact .inl ⟨.inl rfl, rfl⟩
      · exact .inr ⟨p, rfl, rfl, rfl⟩
  | ended ending => exact .inl ⟨.inl rfl, rfl⟩

namespace Task

variable {b : Backend} {t : Task}

@[simp] theorem pass?_cancel (t : Task) : t.cancel.pass? = t.pass? := by
  cases t with
  | worker w =>
    obtain ⟨kind, period, isCancelled, stage, task⟩ := w
    cases stage with
    | busy next round => cases round <;> rfl
    | starting | waiting timer | ended ending => rfl
  | _ => rfl

theorem inBounds_of_call (c : Call) (now : Nat) : ∀ p ∈ (c.task now).pass?, p.InBounds := by
  intro p hp
  cases c with
  | pass =>
    cases hp
    trivial
  | _ => cases hp

/-- The step of a task that goes through a pass is the step of the pass, until the pass is done. -/
theorem step_of_pass? {p : Pass} (h : t.pass? = some p) (unfinished : p.result? = none) (goOn : Bool) :
    (t.step b goOn).1.pass? = some (p.step b).1 ∧ (t.step b goOn).2.1 = (p.step b).2 := by
  cases t with
  | pass stage =>
    cases h
    exact ⟨rfl, rfl⟩
  | worker w =>
    obtain ⟨kind, period, isCancelled, stage, task⟩ := w
    cases stage with
    | busy next round =>
      cases round with
      | pass stage =>
        cases h
        have hopen : (Round.pass p).isFinished = false := by simp [Round.isFinished, unfinished]
        simp only [step, Worker.step, hopen, Bool.false_eq_true, if_false]
        exact ⟨rfl, rfl⟩
      | sweep stage => cases h
    | starting | waiting timer | ended ending => cases h
  | _ => cases h

theorem writes_step_of_idle (idle : ∀ p ∈ t.pass?, p.result?.isSome = true) (goOn : Bool) :
    (t.step b goOn).2.1.events.writes = b.events.writes := by
  have hheld : t.held? = none := by
    rw [held?]
    cases hp : t.pass? with
    | none => rfl
    | some p =>
      have hdone := idle p hp
      cases p with
      | finished outcome => rfl
      | _ => cases hdone
  by_cases hmarking : t.isMarking = true
  · cases t with
    | mark event address recheckAfter answer => cases answer <;> rfl
    | observe location answer => cases answer <;> rfl
    | _ => cases hmarking
  · rw [Bool.not_eq_true] at hmarking
    have hlocates := t.step_locates b goOn hmarking
    rw [hheld] at hlocates
    cases hlocates with
    | rested _ _ store _ => exact store.2
    | looked _ _ _ _ store _ => exact store.2
    | placed task c _ _ holds => cases holds
    | untracked task _ _ holds => cases holds

theorem step_online (h : ∀ p ∈ t.pass?, p.InBounds) (online : b.geocoders.Online) (goOn : Bool) :
    (t.step b goOn).2.1.geocoders.Online := by
  cases t with
  | pass stage => exact (Pass.InBounds.step (h stage rfl) online).2
  | lookup address caller stage => exact b.stepLookup_online online address caller stage
  | worker w =>
    obtain ⟨-, hsame⟩ | ⟨p, hp, -, hstep⟩ := w.step_cases b goOn
    · show (w.step b goOn).2.geocoders.Online
      rw [hsame]
      exact online
    · show (w.step b goOn).2.geocoders.Online
      rw [hstep]
      exact (Pass.InBounds.step (h p hp) online).2
  | mark event address recheckAfter answer | observe location answer => cases answer <;> exact online
  | query payment answer =>
    cases answer with
    | none =>
      simp only [step, Backend.query]
      split <;> exact online
    | some scheduled => exact online
  | sweep stage =>
    obtain ⟨events, queue, hfoot⟩ := stage.step_footprint b
    simpa only [step, hfoot] using online
  | reading event stage =>
    obtain ⟨events, queue, hfoot⟩ := stage.step_footprint b event
    simpa only [step, hfoot] using online
  | subscription wish lag stage =>
    obtain ⟨events, log, hfoot⟩ := stage.step_footprint b wish lag
    simpa only [step, hfoot] using online
  | status payment stage =>
    obtain ⟨payments, schedule, log, hfoot⟩ := stage.step_footprint b payment
    simpa only [step, hfoot] using online
  | settlement payment stage =>
    obtain ⟨events, payments, schedule, log, hfoot⟩ := stage.step_footprint b payment goOn
    simpa only [step, hfoot] using online
  | shutdown mode stage =>
    obtain ⟨schedule, log, hfoot⟩ := stage.step_footprint b mode
    simpa only [step, hfoot] using online
  | closing crew mode stage => exact online

theorem step_inBounds (h : ∀ p ∈ t.pass?, p.InBounds) (online : b.geocoders.Online) (goOn : Bool) :
    ∀ p ∈ (t.step b goOn).1.pass?, p.InBounds := by
  intro p hp
  cases t with
  | pass stage =>
    cases hp
    exact (Pass.InBounds.step (h stage rfl) online).1
  | worker w =>
    obtain ⟨hnone | hstart, -⟩ | ⟨q, hq, hnext, -⟩ := w.step_cases b goOn
    · rw [step, hnone] at hp
      cases hp
    · rw [step, hstart] at hp
      cases hp
      trivial
    · rw [step, hnext] at hp
      cases hp
      exact (Pass.InBounds.step (h q hq) online).1
  | mark event address recheckAfter answer => cases answer <;> cases hp
  | observe location answer => cases answer <;> cases hp
  | query payment answer => cases answer <;> cases hp
  | _ => cases hp

end Task

/-! ## Runs -/

namespace Machine

variable {m : Machine} {writes : List (EventId × Coordinates)}

/-- Both geocoders ask servers, what the passes have in hand is on the map, and so is all that was written since the
store held these writes. -/
structure InBounds (writes : List (EventId × Coordinates)) (m : Machine) : Prop where
  online : m.backend.geocoders.Online
  passes : ∀ e ∈ m.tasks, ∀ p ∈ e.2.pass?, p.InBounds
  written : ∃ new, m.backend.events.writes = writes ++ new ∧ ∀ w ∈ new, w.2.Valid

/-- What a turn of a pass does, whoever goes through it. -/
theorem InBounds.proceeds (h : m.InBounds writes) {id : TaskId} {t : Task} {p : Pass} (goOn : Bool)
    (ready : m.ready? id = some t) (pass : t.pass? = some p) (unfinished : p.result? = none) :
    ∃ t' p', (id, t') ∈ (m.act (.step id goOn)).tasks ∧ t'.pass? = some p' ∧
      p.Proceeds m.backend (m.act (.step id goOn)).backend p' := by
  obtain ⟨hnone, -⟩ | ⟨t', hready, hopen, hact⟩ | ⟨crew, mode, stage, hclosing⟩ := act_step m id goOn
  · rw [ready] at hnone
    cases hnone
  · rw [ready] at hready
    cases hready
    obtain ⟨hpass, hbackend⟩ := Task.step_of_pass? (b := m.backend) pass unfinished goOn
    refine ⟨(t.step m.backend goOn).1, (p.step m.backend).1, ?_, hpass, ?_⟩
    · rw [hact]
      exact mem_carried_self goOn ready
    · rw [hact, carried_backend, hbackend]
      exact (h.passes _ (mem_of_ready? ready) p pass).proceeds unfinished
  · rw [ready] at hclosing
    cases hclosing
    cases pass

theorem InBounds.carried (h : m.InBounds writes) {id : TaskId} {goOn : Bool} {t : Task}
    (ready : m.ready? id = some t) : (m.carried id goOn t).InBounds writes where
  online := by
    rw [carried_backend]
    exact Task.step_online (h.passes _ (mem_of_ready? ready)) h.online goOn
  passes := by
    intro e he
    obtain rfl | ⟨he, -⟩ | ⟨payment, -, -, rfl⟩ := mem_carried he
    · exact Task.step_inBounds (h.passes _ (mem_of_ready? ready)) h.online goOn
    · exact h.passes e he
    · intro p hp
      cases hp
  written := by
    obtain ⟨before, hbefore, hvalid⟩ := h.written
    rw [carried_backend]
    by_cases hidle : ∀ p ∈ t.pass?, p.result?.isSome = true
    · exact ⟨before, by rw [Task.writes_step_of_idle hidle, hbefore], hvalid⟩
    · simp only [not_forall, Bool.not_eq_true, Option.isSome_eq_false_iff, Option.isNone_iff_eq_none] at hidle
      obtain ⟨p, hp, hunfinished⟩ := hidle
      obtain ⟨-, hbackend⟩ := Task.step_of_pass? (b := m.backend) hp hunfinished goOn
      obtain ⟨new, hnew, hall⟩ := ((h.passes _ (mem_of_ready? ready) p hp).proceeds (b := m.backend) hunfinished).writes
      refine ⟨before ++ new, ?_, ?_⟩
      · rw [hbackend, hnew, hbefore, List.append_assoc]
      · intro w hw
        rcases List.mem_append.1 hw with hw | hw
        · exact hvalid w hw
        · exact hall w hw

theorem InBounds.act (h : m.InBounds writes) (a : Action) : (m.act a).InBounds writes := by
  have becomes := act_becomes m a
  generalize m.act a = m' at becomes ⊢
  cases becomes with
  | changed c =>
    refine ⟨Backend.change_online h.online c, h.passes, ?_⟩
    have hwrites : (m.backend.change c).events.writes = m.backend.events.writes := by cases c <;> rfl
    obtain ⟨new, hnew, hvalid⟩ := h.written
    exact ⟨new, hwrites.trans hnew, hvalid⟩
  | called c =>
    refine ⟨h.online, ?_, h.written⟩
    intro e he
    obtain he | rfl := mem_spawn.1 he
    · exact h.passes e he
    · exact Task.inBounds_of_call c m.now
  | cancelled crew =>
    refine ⟨h.online, ?_, h.written⟩
    intro e he
    obtain ⟨d, hd, -, htask⟩ := mem_cancel he
    obtain htask | htask := htask
    · rw [htask]
      exact h.passes d hd
    · rw [htask, Task.pass?_cancel]
      exact h.passes d hd
  | waited milliseconds => exact ⟨h.online, h.passes, h.written⟩
  | idle _ => exact h
  | carried ready _ => exact h.carried ready
  | closed ready closes =>
    refine ⟨h.online, ?_, h.written⟩
    intro e he
    obtain rfl | ⟨d, hd, -, -, htask⟩ := mem_closed he
    · intro p hp
      cases hp
    · obtain htask | htask := htask
      · rw [htask]
        exact h.passes d hd
      · rw [htask, Task.pass?_cancel]
        exact h.passes d hd

theorem inBounds_run (b : Backend) (online : b.geocoders.Online) (actions : List Action) :
    ((create b).run actions).InBounds b.events.writes := by
  refine run_invariant (I := InBounds b.events.writes) (fun _ a h => h.act a) ?_ actions
  exact ⟨online, by simp [create], [], (List.append_nil _).symm, by simp⟩

/-- Two geocoders that ask servers, in any run from any state. Every outcome of a request, every answer and every
lookup is a failure or a point on the map, which has two finite numbers. Wherever the run has come, passes that are
done at once from there handle their tasks with such points alone; a pass that is gone through turn by turn, with
anything in between, calls the store with such a point only; and what was written is made of them. -/
theorem placed_valid (b : Backend) (online : b.geocoders.Online) (actions : List Action) :
    let m := (create b).run actions
    (∀ p x, OnlyValid (Exchange.result p x)) ∧
      (∀ source : Source, source.Online → OnlyValid source.answer) ∧
      (∀ address caller, OnlyValid (m.backend.geocoders.resolve address caller).1) ∧
      (∀ n, (m.backend.passes n).Handles (m.backend.passes (n + 1)) (m.backend.passes n).processNext.1) ∧
      (∀ id goOn t p, m.ready? id = some t → t.pass? = some p → p.result? = none →
        ∃ t' p', (id, t') ∈ (m.act (.step id goOn)).tasks ∧ t'.pass? = some p' ∧
          p.Proceeds m.backend (m.act (.step id goOn)).backend p') ∧
      ∃ written, m.backend.events.writes = b.events.writes ++ written ∧ ∀ w ∈ written, w.2.Valid := by
  intro m
  have hbounds : m.InBounds b.events.writes := inBounds_run b online actions
  refine ⟨Exchange.onlyValid_result, fun _ h => h.answer, ?_, ?_, ?_, hbounds.written⟩
  · intro address caller
    exact (hbounds.online.resolve address caller).1
  · intro n
    exact (Backend.passes_handle hbounds.online n).2
  · intro id goOn t p ready pass unfinished
    exact hbounds.proceeds goOn ready pass unfinished

/-! ### An answer without a number -/

/-- The server answers twice: first with no number for the latitude, then with a point. -/
def uncertain : Backend :=
  let answers : List Exchange := [
    .answered 200 "[\x7b\"lat\":\"NaN\",\"lon\":\"37.5\"\x7d]" true,
    .answered 200 "[\x7b\"lat\":\"55.75\",\"lon\":\"37.5\"\x7d]" true]
  (Backend.create .newYear (EventStore.empty.insert .small) .empty
    ⟨.nominatim "" answers, .yandex "" none []⟩ 0).sweep.2

/-- Two passes with a wait for each answer. -/
def twoPasses : List Action :=
  .call .pass :: List.replicate 7 (.step (.call 0) true) ++
    .call .pass :: List.replicate 7 (.step (.call 1) true)

/-- The task goes back into the queue, and the second pass writes the point. -/
theorem placed_valid_uncertain :
    uncertain.geocoders.Online ∧ ((create uncertain).run twoPasses).backend.events.writes.length = 1 ∧
      (∀ w ∈ ((create uncertain).run twoPasses).backend.events.writes, w.2.Valid) ∧
      uncertain.processNext.1 = some (.requeued (.repeated 1) 1) ∧
      uncertain.Handles (uncertain.passes 1) uncertain.processNext.1 := by
  have honline : uncertain.geocoders.Online := ⟨trivial, trivial⟩
  obtain ⟨-, -, -, -, -, written, hwrites, hvalid⟩ := placed_valid uncertain honline twoPasses
  obtain ⟨-, -, -, hhandles, -⟩ := placed_valid uncertain honline []
  refine ⟨honline, by decide +kernel, ?_, by decide +kernel, hhandles 0⟩
  rw [hwrites]
  exact hvalid

end Machine

end Matchday

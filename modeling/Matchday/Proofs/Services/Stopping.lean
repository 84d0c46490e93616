import Matchday.Proofs.Services.Ticking

/-!
Workers that were told to stop. A round in progress is completed. A worker whose round took so long that
its next tick has come as well may see either first, and so may have another round, any number of times;
but for these it has at most one further round. It can always return without another one, and by the time
that so many rounds take it has.

Main statement: `Machine.workers_stop`.
-/

namespace Matchday
set_option autoImplicit false

/-! ## Rounds in progress -/

/-- The rounds that one comes to, step by step, in whatever state each step finds the others. -/
inductive Round.Leads (round : Round) : Round → Prop where
  | refl : Leads round round
  | step {r : Round} (b : Backend) (leads : Leads round r) (unfinished : r.isFinished = false) :
      Leads round (r.step b).1

def Worker.round? (w : Worker) : Option Round :=
  match w.stage with
  | .busy _ round => some round
  | _ => none

def Task.round? : Task → Option Round
  | worker w => w.round?
  | _ => none

/-! ## Ticks that have come -/

/-- Whether a worker waits for a tick that has come. -/
def Worker.isOverdue (now : Nat) (w : Worker) : Bool :=
  match w.stage with
  | .waiting timer => timer.isDue now
  | _ => false

def Task.isOverdue (now : Nat) : Task → Bool
  | worker w => w.isOverdue now
  | _ => false

namespace Machine

/-- The round that a worker is in. -/
def round? (id : TaskId) (m : Machine) : Option Round := (m.task? id).bind Task.round?

def isOverdue (id : TaskId) (m : Machine) : Bool := (m.task? id).any (Task.isOverdue m.now)

/-- The time at which a round of a worker ends behind its next tick. -/
def overruns (id : TaskId) (m : Machine) (a : Action) : List Nat :=
  if m.isBusy id = true ∧ (m.act a).isOverdue id = true then [m.now] else []

/-- Whether time passes only while nothing interrupts a task. -/
def answers (id : TaskId) (m : Machine) : Action → Bool
  | .wait _ => (m.task? id).all fun t => !t.isInterrupted m.backend
  | _ => true

end Machine

/-! ## Workers that were told to stop -/

namespace Worker

variable {b : Backend} {w : Worker} {goOn : Bool} {latency now : Nat}

/-- Whether a worker that was told to stop may begin a round before it ends one. -/
def mayTick (now : Nat) (w : Worker) : Bool :=
  match w.stage with
  | .starting => true
  | .waiting timer => timer.isDue now
  | .busy _ _ | .ended _ => false

/-- The time at which a worker that was told to stop has ended at the latest, if each geocoder answers
within some time and no round takes longer than to the next tick. -/
def leaves (latency now : Nat) (w : Worker) : Nat :=
  match w.stage with
  | .starting => now + w.kind.roundTime latency
  | .waiting timer => if timer.isDue now then now + w.kind.roundTime latency else now
  | .busy _ round => round.latest latency now
  | .ended _ => now

theorem isBusy_of_mayTick (h : w.mayTick now = true) : w.isBusy = false := by
  obtain ⟨kind, period, isCancelled, stage, task⟩ := w
  cases stage with
  | busy next round => cases h
  | _ => rfl

/-- A step begins a round only where one may begin, and one may begin then only if a round has ended behind
its next tick. -/
theorem mayTick_step (told : w.isCancelled = true) :
    (!w.isBusy && (w.step b goOn).1.isBusy).toNat + ((w.step b goOn).1.mayTick b.now).toNat ≤
      (w.isBusy && (w.step b goOn).1.isOverdue b.now).toNat + (w.mayTick b.now).toNat := by
  obtain ⟨stage, heq, hgoes⟩ := w.step_goes b goOn
  rw [heq]
  obtain ⟨kind, period, isCancelled, before, task⟩ := w
  cases hgoes with
  | broken zero => exact Nat.zero_le 1
  | begun positive => exact (Nat.zero_add _).trans_le (Bool.toNat_le _)
  | stopped timer told' => exact Nat.zero_le _
  | ticked timer going =>
    have hdue : timer.isDue b.now = true := going.resolve_left (ne_false_of_eq_true told)
    show 1 ≤ 0 + (timer.isDue b.now).toNat
    rw [hdue]
    exact Nat.le_refl 1
  | worked next round unfinished | stayed ending => exact Nat.le_refl 0
  | rested next round finished =>
    show 0 + (Timer.isDue ⟨next⟩ b.now).toNat ≤ (Timer.isDue ⟨next⟩ b.now).toNat + 0
    rw [Nat.zero_add]
    exact Nat.le_refl _

theorem now_le_leaves : now ≤ w.leaves latency now := by
  obtain ⟨kind, period, isCancelled, stage, task⟩ := w
  cases stage with
  | starting => exact Nat.le_add_right _ _
  | waiting timer =>
    simp only [leaves]
    split
    · exact Nat.le_add_right _ _
    · exact Nat.le_refl _
  | busy next round => exact round.now_le_latest
  | ended ending => exact Nat.le_refl _

/-- A step puts off the end of a worker only if it ends a round behind its next tick, and then by one round. -/
theorem leaves_step (sound : w.IsSound) (told : w.isCancelled = true)
    (quick : w.kind.isQuick latency b.geocoders = true) :
    (w.step b goOn).1.leaves latency b.now ≤ w.leaves latency b.now +
      (w.isBusy && (w.step b goOn).1.isOverdue b.now).toNat * w.kind.roundTime latency := by
  obtain ⟨stage, heq, hgoes⟩ := w.step_goes b goOn
  rw [heq]
  obtain ⟨kind, period, isCancelled, before, task⟩ := w
  cases hgoes with
  | broken zero | stopped timer told' => exact now_le_leaves.trans (Nat.le_add_right _ _)
  | begun positive =>
    simp only [leaves, become]
    split <;> omega
  | ticked timer going =>
    have hdue : timer.isDue b.now = true := going.resolve_left (ne_false_of_eq_true told)
    simp only [leaves, become, hdue, if_true, Round.latest_ofKind]
    exact Nat.le_add_right _ _
  | worked next round unfinished =>
    have hquick : round.kind.isQuick latency b.geocoders = true := sound.2 ▸ quick
    exact (Round.latest_step hquick).trans (Nat.le_add_right _ _)
  | rested next round finished =>
    have hnow : b.now ≤ round.latest latency b.now := round.now_le_latest
    simp only [leaves, become, isBusy, isOverdue, Bool.true_and]
    cases Timer.isDue ⟨next⟩ b.now with
    | true =>
      rw [if_pos rfl, Bool.toNat_true, Nat.one_mul]
      exact Nat.add_le_add_right hnow _
    | false => exact hnow.trans (Nat.le_add_right _ _)
  | stayed ending => exact Nat.le_add_right _ _

theorem leaves_of_idle (idle : w.isBusy = false) :
    w.leaves latency now ≤ now + w.kind.roundTime latency := by
  obtain ⟨kind, period, isCancelled, stage, task⟩ := w
  cases stage with
  | starting => exact Nat.le_refl _
  | waiting timer =>
    simp only [leaves]
    split
    · exact Nat.le_refl _
    · exact Nat.le_add_right _ _
  | busy next round => cases idle
  | ended ending => exact Nat.le_add_right _ _

/-- Told or not, a worker is never further from the end of its round than a round takes. -/
theorem leaves_step_near (sound : w.IsSound) (quick : w.kind.isQuick latency b.geocoders = true)
    (near : w.leaves latency b.now ≤ b.now + w.kind.roundTime latency) :
    (w.step b goOn).1.leaves latency b.now ≤ b.now + w.kind.roundTime latency := by
  obtain ⟨stage, heq, hgoes⟩ := w.step_goes b goOn
  rw [heq]
  obtain ⟨kind, period, isCancelled, before, task⟩ := w
  cases hgoes with
  | ticked timer going => exact (Round.latest_ofKind latency b.now kind).le
  | worked next round unfinished =>
    have hquick : round.kind.isQuick latency b.geocoders = true := sound.2 ▸ quick
    exact (Round.latest_step hquick).trans near
  | broken | begun | stopped | rested | stayed => exact leaves_of_idle rfl

theorem leaves_add (milliseconds : Nat) (near : w.leaves latency now ≤ now + w.kind.roundTime latency) :
    w.leaves latency (now + milliseconds) ≤ now + milliseconds + w.kind.roundTime latency := by
  obtain ⟨kind, period, isCancelled, stage, task⟩ := w
  cases stage with
  | busy next round =>
    have hadd := (round.latest_add milliseconds).trans (Nat.add_le_add_right near milliseconds)
    rwa [Nat.add_right_comm] at hadd
  | _ => exact leaves_of_idle rfl

/-- What sees that it was told to stop begins no round. -/
theorem isBusy_step_false (told : w.isCancelled = true) (idle : w.isBusy = false) :
    (w.step b false).1.isBusy = false := by
  obtain ⟨kind, period, isCancelled, stage, task⟩ := w
  obtain rfl : isCancelled = true := told
  cases stage with
  | starting =>
    show isBusy ((create kind period task).become _) = false
    split <;> rfl
  | waiting timer | ended ending => rfl
  | busy next round => cases idle

theorem ending?_step_false (told : w.isCancelled = true) (waits : w.isWaiting = true) :
    (w.step b false).1.ending? = some .stopped := by
  obtain ⟨kind, period, isCancelled, stage, task⟩ := w
  obtain rfl : isCancelled = true := told
  cases stage with
  | waiting timer => rfl
  | _ => cases waits

end Worker

namespace Machine

variable {m : Machine} {id : TaskId} {w : Worker} {latency : Nat}

theorem Employs.round?_eq (h : m.Employs id w) : m.round? id = w.round? := by
  rw [round?, h.task?_eq]
  rfl

theorem Employs.isOverdue_eq (h : m.Employs id w) : m.isOverdue id = w.isOverdue m.now := by
  rw [isOverdue, h.task?_eq]
  rfl

theorem length_rounds {a : Action} {w' : Worker} (h : m.Employs id w) (h' : (m.act a).Employs id w') :
    (m.rounds id a).length = (!w.isBusy && w'.isBusy).toNat := by
  rw [rounds_eq h h']
  cases w.isBusy <;> cases w'.isBusy <;> rfl

theorem length_overruns {a : Action} {w' : Worker} (h : m.Employs id w) (h' : (m.act a).Employs id w') :
    (m.overruns id a).length = (w.isBusy && w'.isOverdue (m.act a).now).toNat := by
  rw [overruns, h.isBusy_eq, h'.isOverdue_eq]
  cases w.isBusy <;> cases w'.isOverdue (m.act a).now <;> rfl

/-! ## Rounds in progress -/

/-- A round that is not done is not left, whatever happens. -/
theorem Employs.round_act (h : m.Employs id w) {round : Round} (busy : w.round? = some round)
    (unfinished : round.isFinished = false) (a : Action) :
    ∃ w', (m.act a).Employs id w' ∧
      (w'.round? = some round ∨ w'.round? = some (round.step m.backend).1) := by
  obtain ⟨w', hw', htreats⟩ := h.act a
  refine ⟨w', hw', ?_⟩
  cases htreats with
  | waited milliseconds | left timeless | told timeless => exact .inl busy
  | stepped goOn ready =>
    obtain ⟨stage, heq, hgoes⟩ := w.step_goes m.backend goOn
    rw [heq]
    obtain ⟨kind, period, isCancelled, before, task⟩ := w
    cases hgoes with
    | worked next r unfinished' =>
      injection busy with busy
      rw [← busy]
      exact .inr rfl
    | rested next r finished =>
      injection busy with busy
      rw [← busy, finished] at unfinished
      cases unfinished
    | _ => cases busy

/-- A round in progress goes on, or was done. -/
theorem Employs.round_run (h : m.Employs id w) {round : Round} (busy : w.round? = some round)
    (later : List Action) :
    (∃ w' r, (m.run later).Employs id w' ∧ w'.round? = some r ∧ round.Leads r) ∨
      ∃ first rest r, later = first ++ rest ∧ (m.run first).round? id = some r ∧ round.Leads r ∧
        r.isFinished = true := by
  induction later using List.reverseRecOn with
  | nil => exact .inl ⟨w, round, h, busy, .refl⟩
  | append_singleton later a ih =>
    obtain ⟨w₁, r, hw₁, hr, hleads⟩ | ⟨first, rest, r, heq, hr, hleads, hfinished⟩ := ih
    · cases hfinished : r.isFinished with
      | true => exact .inr ⟨later, [a], r, rfl, hw₁.round?_eq.trans hr, hleads, hfinished⟩
      | false =>
        rw [run_concat]
        obtain ⟨w', hw', hsame | hstep⟩ := hw₁.round_act hr hfinished a
        · exact .inl ⟨w', r, hw', hsame, hleads⟩
        · exact .inl ⟨w', _, hw', hstep, .step _ hleads hfinished⟩
    · exact .inr ⟨first, rest ++ [a], r, by rw [heq, List.append_assoc], hr, hleads, hfinished⟩

/-! ## Further rounds -/

/-- No action begins a further round where none may begin, and one may begin again only behind a round that
took longer than to the next tick. -/
theorem Employs.mayTick_act (h : m.Employs id w) {a : Action} {w' : Worker}
    (h' : (m.act a).Employs id w') (treats : m.Treats id w a w') (told : w.isCancelled = true)
    (answered : m.answers id a = true) :
    (m.rounds id a).length + (w'.mayTick (m.act a).now).toNat ≤
      (m.overruns id a).length + (w.mayTick m.now).toNat := by
  rw [length_rounds h h', length_overruns h h']
  have hsame : ∀ busy : Bool, (!busy && busy).toNat = 0 := fun busy => by cases busy <;> rfl
  cases treats with
  | waited milliseconds =>
    rw [hsame, Nat.zero_add]
    rw [answers, h.task?_eq, Option.all_some, Bool.not_eq_true'] at answered
    obtain ⟨kind, period, isCancelled, stage, task⟩ := w
    obtain rfl : isCancelled = true := told
    cases stage with
    | waiting timer => cases answered
    | _ => exact Nat.le_add_left _ _
  | left timeless =>
    rw [now_act timeless, hsame, Nat.zero_add]
    exact Nat.le_add_left _ _
  | told timeless =>
    rw [now_act timeless]
    show (!w.isBusy && w.isBusy).toNat + _ ≤ _
    rw [hsame, Nat.zero_add]
    exact Nat.le_add_left _ _
  | stepped goOn ready =>
    rw [now_act fun _ => Action.noConfusion]
    exact Worker.mayTick_step told

/-- A worker that was told to stop begins one more round than it has rounds that take too long, at most. -/
theorem Employs.mayTick_run (h : m.Employs id w) (told : w.isCancelled = true) {later : List Action}
    (answered : m.always (answers id) later = true) :
    ∃ w', (m.run later).Employs id w' ∧ w'.isCancelled = true ∧
      (m.trace (rounds id) later).length + (w'.mayTick (m.run later).now).toNat ≤
        (m.trace (overruns id) later).length + (w.mayTick m.now).toNat := by
  induction later using List.reverseRecOn with
  | nil => exact ⟨w, h, told, Nat.le_refl _⟩
  | append_singleton later a ih =>
    rw [always_concat, Bool.and_eq_true] at answered
    obtain ⟨w₁, hw₁, htold, hle⟩ := ih answered.1
    obtain ⟨w', hw', htreats⟩ := hw₁.act a
    have hact := hw₁.mayTick_act hw' htreats htold answered.2
    rw [run_concat, trace_concat, trace_concat, List.length_append, List.length_append]
    exact ⟨w', hw', htreats.kept.2.2 htold, by omega⟩

/-! ## Returning -/

/-- A worker that was told to stop can return by its own steps without another round. -/
theorem Employs.exists_return (h : m.Employs id w) (positive : w.period ≠ 0)
    (told : w.isCancelled = true) :
    ∃ more w', (∀ a ∈ more, a.isOf id = true) ∧ m.always (heeds id) more = true ∧
      m.trace (rounds id) more = [] ∧ (m.run more).Employs id w' ∧ w'.kind = w.kind ∧
      w'.ending? = some .stopped := by
  induction hrank : w.rank using WellFoundedLT.induction generalizing m w with
  | ind rank ih =>
    obtain alive | ⟨hended, -⟩ := h.sound.ending?_cases positive
    · obtain ⟨more, b, hown, hheeded, hw, hquiet⟩ := h.exists_step alive false
      obtain ⟨stage, hstage, -⟩ := w.step_goes b false
      have hnone : ¬ (w.isBusy = false ∧ (w.step b false).1.isBusy = true) := fun hno =>
        Bool.false_ne_true ((Worker.isBusy_step_false told hno.1).symm.trans hno.2)
      rw [if_neg hnone] at hquiet
      cases hwaits : w.isWaiting with
      | true => exact ⟨more, _, hown, hheeded, hquiet, hw, hstage ▸ rfl, Worker.ending?_step_false told hwaits⟩
      | false =>
        have hlt : (w.step b false).1.rank < rank := hrank ▸ Worker.rank_step_lt positive alive hwaits
        obtain ⟨rest, w', hown', hheeded', hquiet', hw', hkind, hended⟩ :=
          ih _ hlt hw (hstage ▸ positive) (hstage ▸ told) rfl
        refine ⟨more ++ rest, w', List.forall_mem_append.2 ⟨hown, hown'⟩, ?_, ?_, ?_, ?_, hended⟩
        · rw [always_append, hheeded, hheeded']
          rfl
        · rw [trace_append, hquiet, hquiet']
          rfl
        · rw [run_append]
          exact hw'
        · rw [hkind, hstage]
          rfl
    · exact ⟨[], w, fun _ ha => absurd ha List.not_mem_nil, rfl, rfl, h, rfl, hended⟩

/-- An action puts off the end of a worker by no more than the rounds that end behind their next ticks. -/
theorem Employs.leaves_act_le (h : m.Employs id w) {a : Action} {w' : Worker}
    (h' : (m.act a).Employs id w') (treats : m.Treats id w a w') (told : w.isCancelled = true)
    (quick : m.serves w.kind latency a = true) (heeded : m.heeds id a = true)
    (alive : w'.ending? = none) : w'.leaves latency (m.act a).now ≤
      w.leaves latency m.now + (m.overruns id a).length * w.kind.roundTime latency := by
  rw [length_overruns h h']
  cases treats with
  | waited milliseconds =>
    obtain ⟨hfree, timer, htimer, hearly⟩ := h.exists_timer alive heeded
    obtain ⟨kind, period, isCancelled, stage, task⟩ := w
    obtain rfl : isCancelled = true := told
    cases stage with
    | waiting timer => cases hfree
    | busy next round => exact (Round.latest_of_wait htimer hearly).le.trans (Nat.le_add_right _ _)
    | _ => cases htimer
  | left timeless | told timeless =>
    rw [now_act timeless]
    exact Nat.le_add_right _ _
  | stepped goOn ready =>
    rw [now_act fun _ => Action.noConfusion]
    exact Worker.leaves_step h.sound told quick

theorem Employs.leaves_run_le (h : m.Employs id w) (told : w.isCancelled = true) {later : List Action}
    (quick : m.always (serves w.kind latency) later = true) (heeded : m.always (heeds id) later = true) :
    ∃ w', (m.run later).Employs id w' ∧ w'.isCancelled = true ∧ w'.kind = w.kind ∧
      w'.period = w.period ∧ (w'.ending? = none → w'.leaves latency (m.run later).now ≤
        w.leaves latency m.now + (m.trace (overruns id) later).length * w.kind.roundTime latency) := by
  induction later using List.reverseRecOn with
  | nil => exact ⟨w, h, told, rfl, rfl, fun _ => Nat.le_add_right _ _⟩
  | append_singleton later a ih =>
    rw [always_concat, Bool.and_eq_true] at quick heeded
    obtain ⟨w₁, hw₁, htold, hkind, hperiod, hle⟩ := ih quick.1 heeded.1
    obtain ⟨w', hw', htreats⟩ := hw₁.act a
    rw [run_concat, trace_concat, List.length_append, Nat.add_mul]
    refine ⟨w', hw', htreats.kept.2.2 htold, htreats.kept.1.trans hkind,
      htreats.kept.2.1.trans hperiod, fun alive => ?_⟩
    have hact := hw₁.leaves_act_le hw' htreats htold (hkind ▸ quick.2) heeded.2 alive
    rw [hkind] at hact
    exact hact.trans (by have hbefore := hle (htreats.alive alive); omega)

theorem Employs.leaves_run_near (h : m.Employs id w)
    (near : w.leaves latency m.now ≤ m.now + w.kind.roundTime latency) {later : List Action}
    (quick : m.always (serves w.kind latency) later = true) :
    ∃ w', (m.run later).Employs id w' ∧ w'.kind = w.kind ∧ w'.period = w.period ∧
      w'.leaves latency (m.run later).now ≤ (m.run later).now + w.kind.roundTime latency := by
  induction later using List.reverseRecOn with
  | nil => exact ⟨w, h, rfl, rfl, near⟩
  | append_singleton later a ih =>
    rw [always_concat, Bool.and_eq_true] at quick
    obtain ⟨w₁, hw₁, hkind, hperiod, hnear⟩ := ih quick.1
    obtain ⟨w', hw', htreats⟩ := hw₁.act a
    rw [run_concat]
    refine ⟨w', hw', htreats.kept.1.trans hkind, htreats.kept.2.1.trans hperiod, ?_⟩
    rw [← hkind] at hnear ⊢
    cases htreats with
    | waited milliseconds => exact Worker.leaves_add milliseconds hnear
    | left timeless | told timeless =>
      rw [now_act timeless]
      exact hnear
    | stepped goOn ready =>
      rw [now_act fun _ => Action.noConfusion]
      exact Worker.leaves_step_near hw₁.sound (hkind ▸ quick.2) hnear

/-! ## Any crew -/

/-- Workers with periods that are not zero, from a moment at which they have been told to stop. Each begins
one more round than it ends rounds behind their next ticks, at most, and none more if it is in a round; what it
sees of this it sees at once, while each step may take its time. A round in progress goes on until it is done.
Whatever has happened, the worker can return by its own steps without another round. If it is carried on
whenever it can be, and answers come within some time, then it has returned by the time that so many rounds
take. -/
theorem workers_stop (b : Backend) (sweepPeriod consumerPeriod : Nat)
    (positive : sweepPeriod ≠ 0 ∧ consumerPeriod ≠ 0) (before earlier later : List Action)
    (latency : Nat) :
    let started := ((create b).run before).startWorkers sweepPeriod consumerPeriod
    let m := started.1.run earlier
    let m' := m.run later
    ∀ kind n, (kind, n) ∈ [WorkerKind.sweep, .consumer].zip started.2 → m.isCancelled [n] = true →
      (m.always (answers (.call n)) later = true → (m.trace (rounds (.call n)) later).length ≤
        (m.trace (overruns (.call n)) later).length + (!m.isBusy (.call n)).toNat) ∧
      (∀ round, m.round? (.call n) = some round →
        (∃ r, m'.round? (.call n) = some r ∧ round.Leads r) ∨
        ∃ first rest r, later = first ++ rest ∧ (m.run first).round? (.call n) = some r ∧
          round.Leads r ∧ r.isFinished = true) ∧
      (∃ more, (∀ a ∈ more, a.isOf (.call n) = true) ∧ m'.always (heeds (.call n)) more = true ∧
        m'.trace (rounds (.call n)) more = [] ∧ (m'.run more).endings [n] = [(kind, .stopped)]) ∧
      (started.1.always (serves kind latency) (earlier ++ later) = true →
        m.always (heeds (.call n)) later = true →
        m.now + ((m.trace (overruns (.call n)) later).length + 1) * kind.roundTime latency < m'.now →
        m'.endings [n] = [(kind, .stopped)]) := by
  intro started m m' kind n hn told
  have hbegins : started.1.Employs (.call n) (.create kind (kind.choose sweepPeriod consumerPeriod) n) :=
    employs_startWorkers (named_run _ before) hn
  have hperiod : kind.choose sweepPeriod consumerPeriod ≠ 0 := by
    cases kind with
    | sweep => exact positive.1
    | consumer => exact positive.2
  obtain ⟨w, hw, hkind, hsame, -⟩ := hbegins.run earlier
  have htold : w.isCancelled = true := hw.isCancelled_eq ▸ told
  refine ⟨fun answered => ?_, fun round hround => ?_, ?_, fun quick heeded late => ?_⟩
  · obtain ⟨w', hw', -, hle⟩ := hw.mayTick_run htold answered
    have hfirst : (w.mayTick m.now).toNat ≤ (!w.isBusy).toNat := by
      cases hmay : w.mayTick m.now with
      | true => rw [Worker.isBusy_of_mayTick hmay]; exact Nat.le_refl 1
      | false => exact Nat.zero_le _
    rw [hw.isBusy_eq]
    exact (Nat.le_add_right _ _).trans (hle.trans (Nat.add_le_add_left hfirst _))
  · rw [hw.round?_eq] at hround
    obtain ⟨w', r, hw', hr, hleads⟩ | hdone := hw.round_run hround later
    · exact .inl ⟨r, hw'.round?_eq.trans hr, hleads⟩
    · exact .inr hdone
  · obtain ⟨w₁, hw₁, hkind₁, hperiod₁, -, htold₁⟩ := hw.run later
    obtain ⟨more, w', hown, hheeded, hquiet, hw', hkind', hended⟩ :=
      hw₁.exists_return (hperiod₁.trans hsame ▸ hperiod) (htold₁ htold)
    refine ⟨more, hown, hheeded, hquiet, ?_⟩
    rw [hw'.endings_eq, hended, hkind', hkind₁, hkind]
    rfl
  · rw [always_append, Bool.and_eq_true] at quick
    obtain ⟨w₁, hw₁, hkind₁, hperiod₁, hnear⟩ := hbegins.leaves_run_near (Worker.leaves_of_idle rfl) quick.1
    have htold₁ : w₁.isCancelled = true := hw₁.isCancelled_eq ▸ told
    have hquick : m.always (serves w₁.kind latency) later = true := by
      rw [hkind₁]
      exact quick.2
    obtain ⟨w', hw', -, hkind', hperiod', hle⟩ := hw₁.leaves_run_le htold₁ hquick heeded
    have hsound := hw'.sound.ending?_cases (hperiod'.trans hperiod₁ ▸ hperiod)
    rw [hw'.endings_eq, hkind', hkind₁]
    obtain alive | ⟨hended, -⟩ := hsound
    · have hnow : m'.now ≤ w'.leaves latency m'.now := Worker.now_le_leaves
      have hleaves := hle alive
      rw [hkind₁] at hleaves
      rw [Nat.add_mul, Nat.one_mul] at late
      change w₁.leaves latency m.now ≤ m.now + kind.roundTime latency at hnear
      change w'.leaves latency m'.now ≤ w₁.leaves latency m.now +
        (m.trace (overruns (.call n)) later).length * kind.roundTime latency at hleaves
      omega
    · rw [hended]
      rfl

/-! ## A slow lookup -/

/-- An event without its point, whose lookups fail, each geocoder after fifty milliseconds. -/
def slowBackend : Backend :=
  ((Backend.small (.insert .empty .small) [] 0).change (.delayPrimary 50)).change (.delaySecondary 50)

/-- A crew that has a round every ten milliseconds. -/
def slowCrew : Machine × Crew := (create slowBackend).startWorkers 1000 10

/-- The first worker sweeps, the other begins its first round, and both are told to stop. -/
def untilTold : List Action :=
  List.replicate 6 (.step (.call 0) true) ++ [.step (.call 1) true, .wait 10] ++
    List.replicate 3 (.step (.call 1) true) ++ [.cancel slowCrew.2]

/-- The first worker stops. The other ends its round and has another; its next tick has come when either
ends, and each time it sees that first. -/
def sinceTold : List Action :=
  .step (.call 0) true :: [.wait 50, .step (.call 1) true, .wait 50] ++
    List.replicate 7 (.step (.call 1) true) ++ [.wait 50, .step (.call 1) true, .wait 50] ++
    List.replicate 5 (.step (.call 1) true)

/-- Two further rounds begin after a worker was told to stop, though nothing that it waits for is kept from
it. -/
theorem two_rounds_since_told :
    (slowCrew.1.run untilTold).isCancelled slowCrew.2 = true ∧
      (slowCrew.1.run untilTold).always (heeds (.call 1)) sinceTold = true ∧
      (slowCrew.1.run untilTold).always (answers (.call 1)) sinceTold = true ∧
      (slowCrew.1.run untilTold).trace (rounds (.call 1)) sinceTold = [110, 210] := by
  decide

/-- The worker ends its round and sees that it was told to stop. -/
def homeward : List Action :=
  [.wait 50, .step (.call 1) true, .wait 50] ++ List.replicate 4 (.step (.call 1) true) ++
    [.step (.call 1) false, .wait 1000]

theorem workers_stop_slow :
    (1000 ≠ 0 ∧ 10 ≠ 0) ∧ (slowCrew.1.run untilTold).isCancelled [1] = true ∧
      (slowCrew.1.run untilTold).always (answers (.call 1)) sinceTold = true ∧
      ((slowCrew.1.run untilTold).trace (rounds (.call 1)) sinceTold).length ≤
        ((slowCrew.1.run untilTold).trace (overruns (.call 1)) sinceTold).length ∧
      ((slowCrew.1.run untilTold).run homeward).endings [1] = [(.consumer, .stopped)] := by
  have stops := fun later => workers_stop slowBackend 1000 10 (by decide) [] untilTold later 50 .consumer 1
    (.tail _ (.head _)) (by decide)
  obtain ⟨hrounds, -⟩ := stops sinceTold
  obtain ⟨-, -, -, hreturned⟩ := stops homeward
  exact ⟨by decide, by decide, by decide, (hrounds (by decide)).trans (by decide),
    hreturned (by decide) (by decide) (by decide)⟩

end Machine

end Matchday

import Matchday.Proofs.Settlement.Stages
import Matchday.Proofs.Store.Paid

/-!
What settlements leave in the stores, if nobody else writes a status or records a member. Of the tries to
write a status the first ones fail, as many as were set up to; the payments of the others are paid from
then on, and their members are recorded for the events. Each settlement knows what it has done so far
(`Settlement.Accounted`), so the stores can be read off the settlements once all have ended.

Main statement: `Machine.settled_books`.
-/

namespace Matchday
set_option autoImplicit false

/-! ## Changes that leave the books alone -/

/-- Whether a change adds no payment and no event, writes no status, and leaves alone which calls of a
settlement fail. -/
def Change.keepsBooks : Change → Bool
  | addEvent _ | addPayment _ | setStatus _ _ | failEvents .addPaid _ | failPayments .find _
  | failPayments .updateStatus _ => false
  | _ => true

/-- Whether nobody but settlements writes a status or records a member by an action. -/
def Action.keepsBooks : Action → Bool
  | change c => c.keepsBooks
  | _ => true

section Changes
variable {c : Change} (h : c.keepsBooks = true) (b : Backend)
include h

theorem Backend.change_payments : b.payments.Alike (b.change c).payments := by
  cases c with
  | failPayments call n =>
    cases call with
    | insert => exact ⟨rfl, rfl, rfl, rfl⟩
    | find | updateStatus => cases h
  | addPayment p | setStatus p status | addEvent e => cases h
  | _ => exact ⟨rfl, rfl, rfl, rfl⟩

theorem Backend.change_paid : b.events.SamePaid (b.change c).events := by
  cases c with
  | setCapacity | endEvent | deleteEvent | delayRecheck =>
    exact ⟨EventStore.paidLists_modify fun _ => rfl, id⟩
  | failEvents call n =>
    cases call with
    | addPaid => cases h
    | _ => exact ⟨rfl, id⟩
  | addPayment p | setStatus p status | addEvent e => cases h
  | _ => exact ⟨rfl, id⟩

end Changes

/-- The stores are open, and of the calls that settlements make only those fail that write a status. -/
structure Backend.Answers (b : Backend) : Prop where
  payments : b.payments.isClosed = false
  find : b.payments.faults.left .find = 0
  events : b.events.isRecording = true

/-- Whether a task is a settlement that was dropped. -/
def Task.isDropped : Task → Bool
  | settlement _ (.finished .abandoned) => true
  | _ => false

/-! ## Settlements and the store of payments -/

namespace Settlement

/-- What a settlement has found of the stored payment, and of whether its try to write the status was
successful. -/
def Accounted (stored : Option Payment) (written : Prop) : Settlement → Prop
  | starting | waiting _ | marking | finished .abandoned => True
  | reloading | finished .settled | finished (.failed (.record _)) => written
  | recording p => written ∧ ∃ q, stored = some q ∧ q.event = p.event ∧ q.member = p.member
  | finished (.failed (.mark _)) => ¬written
  | finished (.failed (.reload _)) => False
  | finished (.failed (.disappeared _)) => stored = none

theorem Goes.hasRecorded {b b' : Backend} {payment : PaymentId} {p : Payment} {s' : Settlement}
    (h : Goes b payment (recording p) s' b') : s'.hasRecorded = true := by
  cases h <;> rfl

end Settlement

namespace Machine

variable {m : Machine} {s : PaymentStore} {tried : List PaymentId}

/-- Nobody but settlements has written to the payments that were stored at first, and each settlement knows
what it has written. -/
structure Written (s : PaymentStore) (m : Machine) (tried : List PaymentId) : Prop where
  store : s.Marked tried m.backend.payments
  stages : ∀ id payment stage, (id, .settlement payment stage) ∈ m.tasks →
    stage.Accounted (s.get? payment) (payment ∈ s.written tried)

section Carried
variable {id : TaskId} {goOn : Bool} {t : Task}

/-- A settlement in any stage but one knows what it has written after its step, too. -/
theorem Written.goes (h : m.Written s tried) {payment : PaymentId} {before stage : Settlement}
    {after : Backend} (mem : (id, .settlement payment before) ∈ m.tasks) (ne : before ≠ .marking)
    (goes : before.Goes m.backend payment stage after) :
    stage.Accounted (s.get? payment) (payment ∈ s.written tried) := by
  have hbefore := h.stages id payment before mem
  have hstored := h.store.payments payment
  cases goes with
  | begun | dropped | woken => trivial
  | marked | unmarked => exact absurd rfl ne
  | reloaded p found =>
    rw [found] at hstored
    obtain ⟨q, hq, hp⟩ := Option.map_eq_some_iff.1 hstored.symm
    refine ⟨hbefore, q, hq, ?_⟩
    rw [← hp]
    split <;> exact ⟨rfl, rfl⟩
  | vanished lost =>
    rw [lost] at hstored
    exact Option.map_eq_none_iff.1 hstored.symm
  | unread e refuses =>
    rw [h.store.accepts_find] at refuses
    cases refuses
  | recorded p events added => exact hbefore.1
  | unrecorded p e events refused => exact hbefore.1
  | stayed outcome => exact hbefore

/-- A step that tries no status leaves the payments as they are. -/
theorem Written.silent (h : m.Written s tried) (named : m.Named) (ready : m.ready? id = some t)
    (silent : ∀ payment, t ≠ .settlement payment .marking) :
    (m.carried id goOn t).Written s tried where
  store := by
    rw [carried_backend]
    obtain hsame | ⟨payment, hfind⟩ := t.step_finds m.backend goOn silent
    · rw [hsame]
      exact h.store
    · rw [hfind, h.store.find]
      exact h.store
  stages := by
    intro other payment stage hmem
    obtain ⟨before, rfl, -, hgoes⟩ | ⟨hold, -⟩ | ⟨rfl, -, -⟩ := settlement_carried named ready hmem
    · refine h.goes (mem_of_ready? ready) ?_ hgoes
      rintro rfl
      exact silent payment rfl
    · exact h.stages other payment stage hold
    · trivial

/-- A settlement learns by its try whether it was one of the first. -/
theorem Written.tries (h : m.Written s tried) (attempted : m.Attempted tried) (named : m.Named)
    {payment : PaymentId} (ready : m.ready? id = some (.settlement payment .marking)) :
    (m.carried id goOn (.settlement payment .marking)).Written s (tried ++ [payment]) where
  store := by
    rw [carried_backend]
    show s.Marked _ (Settlement.mark m.backend payment).2.payments
    rw [Settlement.payments_mark]
    exact h.store.updateStatus payment
  stages := by
    intro other p stage hmem
    obtain ⟨before, ht, -, hgoes⟩ | ⟨hold, hne⟩ | ⟨rfl, -, -⟩ := settlement_carried named ready hmem
    · injection ht with hp hbefore
      rw [← hbefore, ← hp] at hgoes
      rw [← hp]
      generalize (m.carried id goOn (.settlement payment .marking)).backend = after at hgoes
      cases hgoes with
      | marked updates accepts =>
        exact PaymentStore.mem_written_concat.2 (.inr ⟨rfl, h.store.accepts_updateStatus.1 accepts⟩)
      | unmarked e refuses =>
        intro hw
        obtain hw | ⟨-, hle⟩ := PaymentStore.mem_written_concat.1 hw
        · have htried := PaymentStore.mem_tried_of_mem_written hw
          exact absurd ((attempted.marked id payment .marking (mem_of_ready? ready)).2 htried)
            (by decide)
        · rw [h.store.accepts_updateStatus.2 hle] at refuses
          cases refuses
    · have hiff : p ∈ s.written (tried ++ [payment]) ↔ p ∈ s.written tried := by
        rw [PaymentStore.mem_written_concat]
        exact or_iff_left fun hno => hne (congrArg some hno.1.symm)
      rw [hiff]
      exact h.stages other p stage hold
    · trivial

end Carried

theorem Written.act (h : m.Written s tried) (attempted : m.Attempted tried) (named : m.Named)
    {a : Action} (keeps : a.keepsBooks = true) :
    (m.act a).Written s (tried ++ m.attempts a) := by
  obtain ⟨id, goOn, t, rfl, hready, -, heq⟩ | calm := act_cases named a
  · rw [heq]
    by_cases hmarking : ∃ payment, t = .settlement payment .marking
    · obtain ⟨payment, rfl⟩ := hmarking
      have hattempts : m.attempts (.step id goOn) = [payment] := by
        rw [attempts, hready]
        rfl
      rw [hattempts]
      exact h.tries attempted named hready
    · have hattempts : m.attempts (.step id goOn) = [] :=
        List.eq_nil_iff_forall_not_mem.2 fun payment hp =>
          hmarking ⟨payment, (mem_attempts hready).1 hp⟩
      rw [hattempts, List.append_nil]
      exact h.silent named hready fun payment ht => hmarking ⟨payment, ht⟩
  · rw [attempts_of_calm calm, List.append_nil]
    refine ⟨?_, fun id payment stage hmem =>
      h.stages id payment stage (calm.settlement_iff.1 hmem)⟩
    obtain hsame | ⟨c, rfl, hchange⟩ := calm.payments
    · rw [hsame]
      exact h.store
    · rw [hchange]
      exact h.store.alike (Backend.change_payments keeps m.backend)

/-! ## Settlements and the store of events -/

/-- A member is that of a payment for an event, by what was stored at first, whose settlement has called for
the member to be recorded. -/
def Recorded (s : PaymentStore) (m : Machine) (event : EventId) (who : MemberId) : Prop :=
  ∃ id payment stage p, (id, .settlement payment stage) ∈ m.tasks ∧
    stage.hasRecorded = true ∧ s.get? payment = some p ∧ p.event = event ∧ p.member = who

/-- Nobody but settlements has recorded members for the events that were stored at first. -/
structure Booked (s : PaymentStore) (events : EventStore) (m : Machine) : Prop where
  records : m.backend.events.isRecording = true
  unknown : ∀ event, events.paid? event = none → m.backend.events.paid? event = none
  gains : ∀ event l, events.paid? event = some l →
    ∃ new, m.backend.events.paid? event = some (l ++ new) ∧ new.Nodup ∧
      ∀ who, who ∈ new ↔ who ∉ l ∧ m.Recorded s event who

variable {events : EventStore}

theorem Booked.rested (h : m.Booked s events) {m' : Machine}
    (same : m.backend.events.SamePaid m'.backend.events)
    (recorded : ∀ event who, m'.Recorded s event who ↔ m.Recorded s event who) :
    m'.Booked s events where
  records := same.records h.records
  unknown := by
    intro event hevent
    rw [EventStore.paid?_congr same.lists]
    exact h.unknown event hevent
  gains := by
    intro event l hl
    obtain ⟨new, hnew, hdistinct, hmem⟩ := h.gains event l hl
    rw [EventStore.paid?_congr same.lists]
    refine ⟨new, hnew, hdistinct, fun who => ?_⟩
    rw [hmem, recorded]

/-- One more member is recorded, unless listed already. -/
theorem Booked.add (h : m.Booked s events) {m' : Machine} (event : EventId) (who : MemberId)
    (added : m'.backend.events = (m.backend.events.addPaid event who).2)
    (recorded : ∀ e u, m'.Recorded s e u ↔ m.Recorded s e u ∨ e = event ∧ u = who) :
    m'.Booked s events := by
  obtain ⟨hrecords, hpaid⟩ := EventStore.addPaid_of_isRecording h.records event who
  rw [← added] at hrecords hpaid
  refine ⟨hrecords, fun e he => ?_, fun e l hl => ?_⟩
  · rw [hpaid, h.unknown e he]
    rfl
  · obtain ⟨new, hnew, hdistinct, hmem⟩ := h.gains e l hl
    rw [hpaid, hnew, Option.map_some]
    by_cases hadds : e = event ∧ who ∉ l ++ new
    · have hlisted : who ∉ l ∧ who ∉ new := by simpa using hadds.2
      refine ⟨new ++ [who], by rw [if_pos hadds, List.append_assoc], ?_, fun u => ?_⟩
      · refine List.nodup_append.2 ⟨hdistinct, List.nodup_singleton who, ?_⟩
        rintro u hu _ hwho rfl
        rw [List.mem_singleton.1 hwho] at hu
        exact hlisted.2 hu
      · rw [List.mem_append, hmem, recorded, List.mem_singleton]
        refine ⟨?_, fun ⟨hu, hor⟩ => hor.imp (And.intro hu) And.right⟩
        rintro (⟨hu, hr⟩ | rfl)
        · exact ⟨hu, .inl hr⟩
        · exact ⟨hlisted.1, .inr ⟨hadds.1, rfl⟩⟩
    · refine ⟨new, by rw [if_neg hadds], hdistinct, fun u => ?_⟩
      rw [hmem, recorded]
      refine ⟨fun ⟨hu, hr⟩ => ⟨hu, .inl hr⟩, ?_⟩
      rintro ⟨hu, hr | ⟨rfl, rfl⟩⟩
      · exact ⟨hu, hr⟩
      · have hlisted : u ∈ l ++ new := by
          by_contra hno
          exact hadds ⟨rfl, hno⟩
        obtain hlisted | hlisted := List.mem_append.1 hlisted
        · exact absurd hlisted hu
        · exact (hmem u).1 hlisted

section Carried
variable {id : TaskId} {goOn : Bool} {t : Task}

/-- A member is recorded from then on that a settlement was about to record. -/
theorem recorded_carried (goOn : Bool) (h : m.Written s tried) (named : m.Named) (ready : m.ready? id = some t)
    (event : EventId) (who : MemberId) : (m.carried id goOn t).Recorded s event who ↔
      m.Recorded s event who ∨
        ∃ payment p, t = .settlement payment (.recording p) ∧ event = p.event ∧ who = p.member := by
  constructor
  · rintro ⟨other, payment, stage, q, hmem, hdone, hq, hevent, hwho⟩
    obtain ⟨before, rfl, -, hgoes⟩ | ⟨hold, -⟩ | ⟨rfl, -, -⟩ := settlement_carried named ready hmem
    · generalize (m.carried id goOn (.settlement payment before)).backend = after at hgoes
      cases hgoes with
      | recorded p events _ | unrecorded p e events _ =>
        obtain ⟨-, q', hq', hevent', hwho'⟩ :=
          h.stages id payment (.recording p) (mem_of_ready? ready)
        rw [hq] at hq'
        injection hq' with heq
        rw [← heq] at hevent' hwho'
        exact .inr ⟨payment, p, rfl, hevent.symm.trans hevent', hwho.symm.trans hwho'⟩
      | stayed outcome => cases isFinished_of_ready? ready
      | _ => cases hdone
    · exact .inl ⟨other, payment, stage, q, hold, hdone, hq, hevent, hwho⟩
    · cases hdone
  · rintro (⟨other, payment, stage, q, hmem, hdone, hstored⟩ | ⟨payment, p, rfl, rfl, rfl⟩)
    · refine ⟨other, payment, stage, q, named.mem_carried_of_isFinished ready hmem ?_, hdone, hstored⟩
      cases stage with
      | finished outcome => rfl
      | _ => cases hdone
    · obtain ⟨-, q, hq, hevent, hwho⟩ := h.stages id payment (.recording p) (mem_of_ready? ready)
      have hself := mem_carried_self goOn ready
      have hdone := ((Settlement.recording p).step_goes m.backend payment goOn).hasRecorded
      exact ⟨id, payment, _, q, hself, hdone, hq, hevent, hwho⟩

theorem Booked.carried (h : m.Booked s events) (written : m.Written s tried) (named : m.Named)
    (ready : m.ready? id = some t) : (m.carried id goOn t).Booked s events := by
  have hrecorded := recorded_carried goOn written named ready
  by_cases hrecording : ∃ payment p, t = .settlement payment (.recording p)
  · obtain ⟨payment, p, rfl⟩ := hrecording
    refine h.add p.event p.member ?_ fun event who => ?_
    · rw [carried_backend]
      exact Settlement.events_recordPaid m.backend payment p
    · rw [hrecorded]
      refine or_congr_right ⟨?_, fun heq => ⟨payment, p, rfl, heq⟩⟩
      rintro ⟨_, q, ht, heq⟩
      injection ht with _ ht
      injection ht with ht
      rw [ht]
      exact heq
  · refine h.rested ?_ fun event who => ?_
    · rw [carried_backend]
      obtain ⟨k, hcalls⟩ | ⟨payment, p, ht, -⟩ := t.step_calls m.backend goOn
      · exact hcalls.samePaid
      · exact absurd ⟨payment, p, ht⟩ hrecording
    · rw [hrecorded]
      exact or_iff_left fun ⟨payment, p, ht, _⟩ => hrecording ⟨payment, p, ht⟩

end Carried

theorem Booked.act (h : m.Booked s events) (written : m.Written s tried) (named : m.Named) {a : Action}
    (keeps : a.keepsBooks = true) : (m.act a).Booked s events := by
  obtain ⟨id, goOn, t, rfl, hready, -, heq⟩ | calm := act_cases named a
  · rw [heq]
    exact h.carried written named hready
  · refine h.rested ?_ fun event who => ?_
    · obtain hsame | ⟨c, rfl, hchange⟩ := calm.events
      · rw [hsame]
        exact ⟨rfl, fun hrecords => hrecords⟩
      · rw [hchange]
        exact Backend.change_paid keeps m.backend
    · unfold Recorded
      simp only [calm.settlement_iff]

/-! ## Runs -/

theorem books_run {b : Backend} (answers : b.Answers) {actions : List Action}
    (keeps : ∀ a ∈ actions, a.keepsBooks = true) :
    ((create b).run actions).Written b.payments ((create b).trace attempts actions) ∧
      ((create b).run actions).Booked b.payments b.events := by
  induction actions using List.reverseRecOn with
  | nil =>
    refine ⟨⟨.create answers.payments answers.find, fun _ _ _ hmem => absurd hmem List.not_mem_nil⟩,
      answers.events, fun _ hevent => hevent, fun event l hl => ?_⟩
    refine ⟨[], by rw [List.append_nil]; exact hl, List.nodup_nil, fun who => ?_⟩
    refine iff_of_false List.not_mem_nil ?_
    rintro ⟨-, id, payment, stage, p, hmem, -⟩
    exact List.not_mem_nil hmem
  | append_singleton actions a ih =>
    obtain ⟨hwritten, hbooked⟩ := ih fun a ha => keeps a (List.mem_append_left _ ha)
    have hkeeps := keeps a (List.mem_append_right _ (List.mem_singleton_self a))
    have named := named_run b actions
    rw [run_concat, trace_concat]
    exact ⟨hwritten.act (attempted_run b actions) named hkeeps, hbooked.act hwritten named hkeeps⟩

/-- By a run nobody but settlements writes to the stores; at its end no settlement is under way, and none
was dropped. -/
structure Settles (start : Machine) (actions : List Action) : Prop where
  keeps : ∀ a ∈ actions, a.keepsBooks = true
  ended : (start.run actions).backend.schedule.inFlight = 0
  undropped : ∀ e ∈ (start.run actions).tasks, e.2.isDropped = false

section Settles
variable {b : Backend} {actions : List Action} {payment : PaymentId}

theorem Settles.outcome (h : (create b).Settles actions) (rests : b.schedule.inFlight = 0)
    {id : TaskId} {stage : Settlement}
    (mem : (id, .settlement payment stage) ∈ ((create b).run actions).tasks) :
    ∃ outcome, stage = .finished outcome ∧ outcome ≠ .abandoned := by
  obtain ⟨outcome, rfl⟩ := (counted_run b rests actions).outcome h.ended mem
  refine ⟨outcome, rfl, ?_⟩
  rintro rfl
  have hundropped := h.undropped _ mem
  cases hundropped

/-- The payments whose status was tried to be written are those that were submitted. -/
theorem Settles.mem_attempts_iff (h : (create b).Settles actions) (rests : b.schedule.inFlight = 0) :
    payment ∈ (create b).trace attempts actions ↔
      (create b).trace (accepts payment) actions ≠ [] := by
  have attempted := attempted_run b actions
  rw [accepts_ne_nil_iff]
  refine ⟨attempted.settles payment, ?_⟩
  rintro ⟨id, stage, hmem⟩
  obtain ⟨outcome, rfl, hne⟩ := h.outcome rests hmem
  refine (attempted.marked id payment _ hmem).1 ?_
  cases outcome with
  | abandoned => exact absurd rfl hne
  | settled | failed => rfl

theorem Settles.status?_eq (h : (create b).Settles actions) (answers : b.Answers) :
    ((create b).run actions).backend.payments.status? payment =
      if payment ∈ b.payments.written ((create b).trace attempts actions)
      then (b.payments.status? payment).map fun _ => .paid else b.payments.status? payment := by
  obtain ⟨written, -⟩ := books_run answers h.keeps
  rw [PaymentStore.status?, written.store.payments, PaymentStore.status?]
  split
  · simp only [Option.map_map]
    rfl
  · simp only [Option.map_id']

/-- The members that were recorded are those of the payments whose status was written. -/
theorem Settles.recorded_iff (h : (create b).Settles actions) (answers : b.Answers)
    (rests : b.schedule.inFlight = 0) (event : EventId) (who : MemberId) :
    ((create b).run actions).Recorded b.payments event who ↔
      ∃ payment ∈ b.payments.written ((create b).trace attempts actions),
        ∃ p, b.payments.get? payment = some p ∧ p.event = event ∧ p.member = who := by
  obtain ⟨written, -⟩ := books_run answers h.keeps
  constructor
  · rintro ⟨id, payment, stage, p, hmem, hdone, hp⟩
    refine ⟨payment, ?_, p, hp⟩
    have hstage := written.stages id payment stage hmem
    obtain ⟨outcome, rfl, -⟩ := h.outcome rests hmem
    cases outcome with
    | abandoned => cases hdone
    | settled => exact hstage
    | failed cause =>
      cases cause with
      | record e => exact hstage
      | _ => cases hdone
  · rintro ⟨payment, hw, p, hp⟩
    obtain ⟨id, stage, hmem⟩ :=
      (attempted_run b actions).settles payment (PaymentStore.mem_tried_of_mem_written hw)
    refine ⟨id, payment, stage, p, hmem, ?_, hp⟩
    have hstage := written.stages id payment stage hmem
    obtain ⟨outcome, rfl, hne⟩ := h.outcome rests hmem
    cases outcome with
    | abandoned => exact absurd rfl hne
    | settled => rfl
    | failed cause =>
      cases cause with
      | mark e => exact absurd hw hstage
      | reload e => exact hstage.elim
      | disappeared id =>
        have hnone : b.payments.get? payment = none := hstage
        rw [hp.1] at hnone
        cases hnone
      | record e => rfl

/-- The members that are recorded for an event at the end. -/
theorem Settles.mem_paidMembers (h : (create b).Settles actions) (answers : b.Answers)
    (rests : b.schedule.inFlight = 0) {event : EventId} {l : List MemberId}
    (kept : b.events.paid? event = some l) (who : MemberId) :
    who ∈ ((create b).run actions).backend.events.paidMembers event ↔
      who ∈ l ∨ ∃ payment ∈ b.payments.written ((create b).trace attempts actions),
        ∃ p, b.payments.get? payment = some p ∧ p.event = event ∧ p.member = who := by
  obtain ⟨-, booked⟩ := books_run answers h.keeps
  obtain ⟨new, hnew, -, hmem⟩ := booked.gains event l kept
  have hmembers : ((create b).run actions).backend.events.paidMembers event = l ++ new :=
    congrArg (·.getD []) hnew
  rw [hmembers, List.mem_append, hmem, h.recorded_iff answers rests]
  by_cases hlisted : who ∈ l <;> simp [hlisted]

end Settles

/-- After a run by which nobody but settlements writes to the stores, and at whose end none is under way and
none was dropped: the payments whose status was tried to be written are those that were submitted, each once.
A status is paid if it was tried to be written behind as many tries as were set up to fail, and the one it
was at first otherwise. The members recorded for an event are those of before, followed by the members of
the payments for it whose status was written, each once; no event is added. If no try was set up to fail,
runs that submit the same payments leave the same statuses and the same members. -/
theorem settled_books (calendar : Instant) (events : EventStore) (payments : PaymentStore)
    (geocoders : Geocoders) (delay : Nat)
    (answers : (Backend.create calendar events payments geocoders delay).Answers)
    (distinct : ∀ e ∈ events.events, e.paid.Nodup) (actions : List Action)
    (settles : (create (.create calendar events payments geocoders delay)).Settles actions) :
    let start := create (.create calendar events payments geocoders delay)
    let m := start.run actions
    let tried := start.trace attempts actions
    tried.Nodup ∧
    (∀ payment, payment ∈ tried ↔ start.trace (accepts payment) actions ≠ []) ∧
    (∀ payment, m.backend.payments.status? payment =
      if payment ∈ payments.written tried then (payments.status? payment).map fun _ => .paid
      else payments.status? payment) ∧
    (∀ event, events.paid? event = none → m.backend.events.paid? event = none) ∧
    (∀ event l, events.paid? event = some l →
      ∃ new, m.backend.events.paid? event = some (l ++ new) ∧ (l ++ new).Nodup ∧
        ∀ who, who ∈ new ↔ who ∉ l ∧ ∃ payment ∈ payments.written tried,
          ∃ p, payments.get? payment = some p ∧ p.event = event ∧ p.member = who) ∧
    (payments.faults.left .updateStatus = 0 → ∀ others, start.Settles others →
      (∀ payment, start.trace (accepts payment) others ≠ [] ↔
        start.trace (accepts payment) actions ≠ []) →
      (∀ payment, (start.run others).backend.payments.status? payment =
        m.backend.payments.status? payment) ∧
      ∀ event who, who ∈ (start.run others).backend.events.paidMembers event ↔
        who ∈ m.backend.events.paidMembers event) := by
  intro start m tried
  obtain ⟨-, booked⟩ := books_run answers settles.keeps
  refine ⟨(attempted_run _ actions).nodup, fun payment => settles.mem_attempts_iff rfl,
    fun payment => settles.status?_eq answers, booked.unknown, fun event l hl => ?_,
    fun unfailing others hothers same => ?_⟩
  · obtain ⟨new, hnew, hdistinct, hmem⟩ := booked.gains event l hl
    refine ⟨new, hnew, List.nodup_append.2 ⟨?_, hdistinct, ?_⟩, fun who => ?_⟩
    · obtain ⟨e, he, rfl⟩ := Option.map_eq_some_iff.1 hl
      exact distinct e (List.mem_of_find?_eq_some he)
    · rintro who hwho _ hother rfl
      exact ((hmem who).1 hother).1 hwho
    · rw [hmem, settles.recorded_iff answers rfl]
      rfl
  -- without failures what is written is what was tried, which is what was submitted
  have hwritten : ∀ payment, payment ∈ payments.written (start.trace attempts others) ↔
      payment ∈ payments.written tried := by
    intro payment
    rw [PaymentStore.written, PaymentStore.written, unfailing, List.drop_zero, List.drop_zero,
      hothers.mem_attempts_iff rfl, settles.mem_attempts_iff rfl]
    exact same payment
  refine ⟨fun payment => ?_, fun event who => ?_⟩
  · rw [hothers.status?_eq answers, settles.status?_eq answers]
    exact if_congr (hwritten payment) rfl rfl
  · cases hevent : events.paid? event with
    | none =>
      obtain ⟨-, others_booked⟩ := books_run answers hothers.keeps
      have hnone := booked.unknown event hevent
      have others_none := others_booked.unknown event hevent
      rw [EventStore.paid?, Option.map_eq_none_iff] at hnone others_none
      rw [EventStore.paidMembers, EventStore.paidMembers, hnone, others_none]
    | some l =>
      rw [hothers.mem_paidMembers answers rfl hevent, settles.mem_paidMembers answers rfl hevent]
      refine or_congr_right (exists_congr fun payment => and_congr_left' (hwritten payment))

/-! ## A write that fails -/

/-- Another payment. -/
def secondTicket : PaymentId := .repeated 2

/-- Two pending payments of one member for one event; the first try to write a status fails. -/
def twoTickets : PaymentStore :=
  { PaymentStore.empty with
      payments := [ticket, secondTicket].map fun p => .create p StoredEvent.small.id (.repeated 3) .pending }.fail
    .updateStatus 1

/-- A machine that keeps the two payments and their event. -/
def atTurnstile : Machine :=
  create (.create .newYear (.insert .empty .small) twoTickets
    ⟨.scripted "primary" [], .scripted "secondary" []⟩ 10)

/-- Both payments are asked about, and their settlements wait and are carried out one after the other. -/
def settlingBoth : List Action :=
  [.call (.query ticket), .call (.query secondTicket), .step (.call 0) true, .step (.call 1) true,
    .step (.settlement ticket) true, .step (.settlement secondTicket) true, .wait 10] ++
  List.replicate 2 (.step (.settlement ticket) true) ++
  List.replicate 4 (.step (.settlement secondTicket) true)

/-- The payment that came first stays pending, and the member is recorded for the other one. -/
theorem settled_books_second_ticket :
    atTurnstile.Settles settlingBoth ∧
      (atTurnstile.run settlingBoth).backend.payments.status? ticket = some .pending ∧
      (atTurnstile.run settlingBoth).backend.payments.status? secondTicket = some .paid ∧
      ∃ new, (atTurnstile.run settlingBoth).backend.events.paid? StoredEvent.small.id = some ([] ++ new) ∧
        .repeated 3 ∈ new := by
  have settles : atTurnstile.Settles settlingBoth := ⟨by decide, by decide, by decide⟩
  obtain ⟨-, -, hstatus, -, hpaid, -⟩ := settled_books .newYear (.insert .empty .small) twoTickets
    ⟨.scripted "primary" [], .scripted "secondary" []⟩ 10 ⟨rfl, rfl, rfl⟩ (by decide) settlingBoth
    settles
  obtain ⟨new, hnew, -, hmem⟩ := hpaid StoredEvent.small.id [] rfl
  refine ⟨settles, (hstatus ticket).trans (by decide), (hstatus secondTicket).trans (by decide), new,
    hnew, (hmem _).2 ⟨List.not_mem_nil, secondTicket, by decide, ?_⟩⟩
  exact ⟨.create secondTicket StoredEvent.small.id (.repeated 3) .pending, by decide, rfl, rfl⟩

end Machine

end Matchday

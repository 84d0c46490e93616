import Matchday.Backend

/-!
Settling a payment: after a delay its status becomes paid, it is read again, and its member is
recorded as paid for the event. A failure at one of these three ends the settlement; it is never
tried again. A settlement that still waits when the schedule is abandoned is dropped.
-/

namespace Matchday
set_option autoImplicit false

/-- How a settlement ends. -/
inductive SettlementOutcome where
  | abandoned
  | settled
  | failed (cause : SettleError)
deriving DecidableEq

/-- What is logged about the end of a settlement. -/
def SettlementOutcome.entries (payment : PaymentId) : SettlementOutcome → List LogEntry
  | abandoned => [.settlementAbandoned payment]
  | settled => []
  | failed e => [.settlementFailed payment e]

/-- How far a settlement has come. -/
inductive Settlement where
  | starting
  | waiting (timer : Timer)
  | marking
  | reloading
  | recording (payment : Payment)
  | finished (outcome : SettlementOutcome)

namespace Settlement

/-- What a settlement waits for. -/
def timer? : Settlement → Option Timer
  | waiting timer => some timer
  | _ => none

/-- The outcome of a settlement that has ended. -/
def result? : Settlement → Option SettlementOutcome
  | finished outcome => some outcome
  | _ => none

/-- A settlement ends. -/
def finish (b : Backend) (payment : PaymentId) (outcome : SettlementOutcome) :
    Settlement × Backend :=
  (finished outcome,
    { b with schedule := b.schedule.settled }.record (outcome.entries payment))

/-- Writes the status. -/
def mark (b : Backend) (payment : PaymentId) : Settlement × Backend :=
  match b.payments.updateStatus payment .paid with
  | (.ok (), payments) => (reloading, { b with payments })
  | (.error e, payments) => finish { b with payments } payment (.failed (.mark e))

/-- Reads the payment again. -/
def reload (b : Backend) (payment : PaymentId) : Settlement × Backend :=
  match b.payments.find payment with
  | (.ok (some p), payments) => (recording p, { b with payments })
  | (.ok none, payments) => finish { b with payments } payment (.failed (.disappeared payment))
  | (.error e, payments) => finish { b with payments } payment (.failed (.reload e))

/-- Records the member as paid. -/
def recordPaid (b : Backend) (payment : PaymentId) (p : Payment) : Settlement × Backend :=
  match b.events.addPaid p.event p.member with
  | (.ok (), events) => finish { b with events } payment .settled
  | (.error e, events) => finish { b with events } payment (.failed (.record e))

/-- The next step of a settlement. One that waits is dropped if the schedule is abandoned, unless
its time has come and the step is told to go on. -/
def step (b : Backend) (payment : PaymentId) (goOn : Bool) : Settlement → Settlement × Backend
  | starting => (waiting (.after b.now b.schedule.delay), b)
  | waiting timer =>
    if b.schedule.isAbandoned && !(goOn && timer.isDue b.now) then finish b payment .abandoned
    else (marking, b)
  | marking => mark b payment
  | reloading => reload b payment
  | recording p => recordPaid b payment p
  | finished outcome => (finished outcome, b)

end Settlement

end Matchday

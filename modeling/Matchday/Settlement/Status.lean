import Matchday.Backend

/-!
Questions about the status of a payment. The first question about a pending payment schedules its
settlement; the answer is the status as it was stored before that.
-/

namespace Matchday
set_option autoImplicit false

/-- The outcome of asking for a status: nothing if there is no such payment. -/
abbrev StatusAnswer := Except PaymentStoreError (Option PaymentStatus)

namespace Backend

/-- Schedules the settlement of a payment, unless it was asked about before or the schedule is
closed. The answer says whether a settlement is to begin. -/
def query (b : Backend) (payment : PaymentId) : Bool × Backend :=
  let entries := match b.schedule.decision payment with
    | .refused => [LogEntry.settlementRefused payment]
    | .repeated | .accepted => []
  (b.schedule.decision payment = .accepted,
    { b with schedule := b.schedule.queried payment }.record entries)

/-- The stored status of a payment. -/
def loadStatus (b : Backend) (payment : PaymentId) : StatusAnswer × Backend :=
  match b.payments.find payment with
  | (.ok p, payments) => (.ok (p.map Payment.status), { b with payments })
  | (.error e, payments) => (.error e, { b with payments })

/-- Looks at a status that was just read; the answer says whether a settlement is to begin. -/
def querySeen (b : Backend) (payment : PaymentId) : StatusAnswer → Bool × Backend
  | .ok (some .pending) => b.query payment
  | .ok _ | .error _ => (false, b)

end Backend

/-- How far a question about a status has come. -/
inductive StatusQuery where
  | starting
  | asking (answer : StatusAnswer)
  | finished (answer : StatusAnswer) (scheduled : Bool)

namespace StatusQuery

/-- The next step of a question, and whether a settlement is to begin by it. -/
def step (b : Backend) (payment : PaymentId) : StatusQuery → StatusQuery × Bool × Backend
  | starting =>
    let (answer, b) := b.loadStatus payment
    (asking answer, false, b)
  | asking answer =>
    let (scheduled, b) := b.querySeen payment answer
    (finished answer scheduled, scheduled, b)
  | finished answer scheduled => (finished answer scheduled, false, b)

/-- The answer to a question that is done. -/
def result? : StatusQuery → Option StatusAnswer
  | finished answer _ => some answer
  | _ => none

end StatusQuery

end Matchday

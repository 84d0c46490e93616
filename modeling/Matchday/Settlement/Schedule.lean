import Matchday.Id
import Matchday.Settlement.Error

/-!
Which payments were ever asked about, and how many settlements are under way. The first question
about a payment schedules its settlement, unless the schedule is closed; the payment is recorded
either way, and later questions do nothing.
-/

namespace Matchday
set_option autoImplicit false

/-- The recorded payments, in the order of their first questions, whether new settlements are
refused and waiting ones dropped, how long a settlement waits in milliseconds, and the number of
settlements that have not ended. -/
structure Schedule where
  scheduled : List PaymentId
  isClosed : Bool
  isAbandoned : Bool
  delay : Nat
  inFlight : Nat
deriving DecidableEq

/-- What a question about a payment leads to. -/
inductive Decision where
  | repeated
  | refused
  | accepted
deriving DecidableEq, Repr

namespace Schedule

/-- A schedule without payments. -/
def create (delay : Nat) : Schedule := ⟨[], false, false, delay, 0⟩

/-- Whether a payment was ever asked about. -/
def isScheduled (s : Schedule) (payment : PaymentId) : Bool := s.scheduled.contains payment

/-- What a question about a payment leads to now. -/
def decision (s : Schedule) (payment : PaymentId) : Decision :=
  if s.isScheduled payment then .repeated else if s.isClosed then .refused else .accepted

/-- The schedule after a question about a payment. -/
def queried (s : Schedule) (payment : PaymentId) : Schedule :=
  match s.decision payment with
  | .repeated => s
  | .refused => { s with scheduled := s.scheduled ++ [payment] }
  | .accepted => { s with scheduled := s.scheduled ++ [payment], inFlight := s.inFlight + 1 }

/-- A settlement has ended. -/
def settled (s : Schedule) : Schedule := { s with inFlight := s.inFlight - 1 }

/-- No settlement is accepted any more, and in one of the two ways waiting ones are dropped. -/
def close (s : Schedule) (mode : ShutdownMode) : Schedule :=
  { s with isClosed := true, isAbandoned := s.isAbandoned || mode = .abandon }

end Schedule

end Matchday

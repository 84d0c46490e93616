import Matchday.Id

/-!
Payments of members for events.
-/

namespace Matchday
set_option autoImplicit false

/-- How far a payment has come. -/
inductive PaymentStatus where
  | pending
  | paid
  | cancelled
deriving DecidableEq, Repr

/-- The name of a status. -/
def PaymentStatus.name : PaymentStatus → String
  | pending => "pending"
  | paid => "paid"
  | cancelled => "cancelled"

/-- The status with a name. -/
def PaymentStatus.ofName? (s : String) : Option PaymentStatus :=
  if s = "pending" then some pending
  else if s = "paid" then some paid
  else if s = "cancelled" then some cancelled
  else none

/-- A member's payment for taking part in an event; the amount is in the currency's minor units. -/
structure Payment where
  id : PaymentId
  event : EventId
  member : MemberId
  status : PaymentStatus
  amount : Int64
  confirmationUrl : Option String
deriving DecidableEq

namespace Payment

/-- A payment of the usual amount, with the page where it is confirmed. -/
def create (id : PaymentId) (event : EventId) (member : MemberId) (status : PaymentStatus) :
    Payment :=
  ⟨id, event, member, status, 50000, some ("https://pay.example/confirm/" ++ id.toText)⟩

/-- The payment in another status. -/
def withStatus (p : Payment) (status : PaymentStatus) : Payment := { p with status }

end Payment

end Matchday

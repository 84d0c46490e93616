import Matchday.Payment
import Matchday.Store.Error

/-!
The store of payments, which counts the successful writes of a status. Writing the status of an
unknown payment does nothing. A store whose connections are closed refuses every call.
-/

namespace Matchday
set_option autoImplicit false

/-- The store of payments. -/
structure PaymentStore where
  payments : List Payment
  updates : Nat
  faults : Faults PaymentCall
  isClosed : Bool

namespace PaymentStore

/-- A store without payments. -/
def empty : PaymentStore := ⟨[], 0, Faults.none, false⟩

/-- A store whose connections are closed. -/
def closed : PaymentStore := { empty with isClosed := true }

/-- The payment with an identifier. -/
def get? (s : PaymentStore) (id : PaymentId) : Option Payment :=
  s.payments.find? fun p => p.id = id

/-- Changes the payment with an identifier; none is created. -/
def modify (s : PaymentStore) (id : PaymentId) (f : Payment → Payment) : PaymentStore :=
  { s with payments := s.payments.map fun p => if p.id = id then f p else p }

/-- From now on so many calls of a kind fail. -/
def fail (s : PaymentStore) (c : PaymentCall) (n : Nat) : PaymentStore :=
  { s with faults := s.faults.set c n }

/-- A call on behalf of a payment: refused by a closed store, or failing because it was set up to;
otherwise it does its work. -/
def call {α : Type} (s : PaymentStore) (c : PaymentCall) (id : PaymentId)
    (status : Option PaymentStatus)
    (work : PaymentStore → Except PaymentStoreError α × PaymentStore) :
    Except PaymentStoreError α × PaymentStore :=
  if s.isClosed then (.error (.unavailable c id status), s)
  else if s.faults.pending c then (.error (.simulated c), { s with faults := s.faults.spend c })
  else work s

/-- A new payment, behind the others. -/
def insert (s : PaymentStore) (p : Payment) : Except PaymentStoreError Payment × PaymentStore :=
  s.call .insert p.id none fun s => (.ok p, { s with payments := s.payments ++ [p] })

/-- The payment with an identifier. -/
def find (s : PaymentStore) (id : PaymentId) :
    Except PaymentStoreError (Option Payment) × PaymentStore :=
  s.call .find id none fun s => (.ok (s.get? id), s)

/-- Writes the status of a payment. -/
def updateStatus (s : PaymentStore) (id : PaymentId) (status : PaymentStatus) :
    Except PaymentStoreError Unit × PaymentStore :=
  s.call .updateStatus id (some status) fun s =>
    if (s.get? id).isSome then
      (.ok (), { s.modify id (·.withStatus status) with updates := s.updates + 1 })
    else (.ok (), s)

/-- The stored status of a payment. -/
def status? (s : PaymentStore) (id : PaymentId) : Option PaymentStatus :=
  (s.get? id).map (·.status)

end PaymentStore

end Matchday

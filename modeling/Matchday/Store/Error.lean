import Matchday.Id
import Matchday.Payment

/-!
What is asked of the stores, and why they may fail: a call was set up to fail, the event is not
known, or the store's connections are closed.
-/

namespace Matchday
set_option autoImplicit false

/-- The calls of the store of events. -/
inductive EventCall where
  | findMissing
  | setCoordinates
  | findLocation
  | loadMembership
  | persistMembership
  | addPaid
deriving DecidableEq, Repr

/-- The calls of the store of payments. -/
inductive PaymentCall where
  | find
  | updateStatus
  | insert
deriving DecidableEq, Repr

/-- Why a call of the store of events fails. -/
inductive EventStoreError where
  | simulated (call : EventCall)
  | unknown (event : EventId)
  | unavailable (call : EventCall) (event : Option EventId)
deriving DecidableEq

/-- Why a call of the store of payments fails. -/
inductive PaymentStoreError where
  | simulated (call : PaymentCall)
  | unavailable (call : PaymentCall) (payment : PaymentId) (status : Option PaymentStatus)
deriving DecidableEq

/-- The wording of a failure that was set up. -/
def EventCall.simulatedText : EventCall → String
  | findMissing => "simulated load failure"
  | setCoordinates => "simulated write failure"
  | findLocation => "simulated find_location failure"
  | loadMembership => "simulated load_membership failure"
  | persistMembership => "simulated persist_membership failure"
  | addPaid => "simulated add_paid_user failure"

/-- The wording of a failure of the connections. -/
def EventCall.unavailableText : EventCall → String
  | findMissing => "Failed to load events missing coordinates"
  | setCoordinates => "Failed to set coordinates for event "
  | findLocation => "Failed to load event "
  | loadMembership => "Failed to load membership of event "
  | persistMembership => "Failed to persist membership of event "
  | addPaid => "Failed to add paid user to event "

/-- The wording of each cause. -/
def EventStoreError.message : EventStoreError → String
  | simulated call => call.simulatedText
  | unknown event => "event " ++ event.toText ++ " not found"
  | unavailable call event => call.unavailableText ++ (event.map Id.toText).getD ""

/-- The number of causes below a failure. -/
def EventStoreError.depth : EventStoreError → Nat
  | simulated _ | unknown _ => 0
  | unavailable _ _ => 1

/-- The wording of each cause. -/
def PaymentStoreError.message : PaymentStoreError → String
  | simulated .updateStatus => "simulated status write failure"
  | simulated .find => "simulated find_payment failure"
  | simulated .insert => "simulated insert failure"
  | unavailable .find p _ => "Failed to load payment " ++ p.toText
  | unavailable .updateStatus p s =>
    "Failed to set payment " ++ p.toText ++ " to " ++ (s.map PaymentStatus.name).getD ""
  | unavailable .insert p _ => "Failed to insert payment " ++ p.toText

/-- The number of causes below a failure. -/
def PaymentStoreError.depth : PaymentStoreError → Nat
  | simulated _ => 0
  | unavailable _ _ _ => 1

/-- How many coming calls of each kind fail. -/
structure Faults (call : Type) where
  left : call → Nat

namespace Faults
variable {call : Type} [DecidableEq call]

/-- No call fails. -/
def none : Faults call := ⟨fun _ => 0⟩

/-- From now on so many calls of a kind fail. -/
def set (f : Faults call) (c : call) (n : Nat) : Faults call :=
  ⟨fun d => if d = c then n else f.left d⟩

/-- Whether the next call of a kind fails. -/
def pending (f : Faults call) (c : call) : Bool := 0 < f.left c

/-- One call of a kind has been made. -/
def spend (f : Faults call) (c : call) : Faults call := f.set c (f.left c - 1)

end Faults

end Matchday

import Matchday.Geocoding.Answer
import Matchday.Geocoding.Request
import Matchday.Text.ByteOrderMark

/-!
What comes back for a request: nothing, because the server cannot be reached or hangs up, or an
answer with a status and a body that may break off. Every outcome but a complete answer without an
error status is a failure of its own.
-/

namespace Matchday
set_option autoImplicit false

/-- What happens to a request. -/
inductive Exchange where
  | unreachable
  | hungUp
  | answered (status : Nat) (body : String) (complete : Bool)
deriving DecidableEq, Repr

/-- Whether the request reached the server. -/
def Exchange.arrived : Exchange → Bool
  | unreachable => false
  | hungUp | answered _ _ _ => true

/-- A status that comes without a body. -/
def isBodyless (status : Nat) : Bool := status = 204 || status = 304

/-- The body of an answer, or why there is none. -/
def Exchange.body (p : Provider) : Exchange → Except GeocodeError String
  | unreachable | hungUp => .error (.unanswered p)
  | answered status body complete =>
    if 400 ≤ status ∧ status < 600 then .error (.errorStatus p)
    else if isBodyless status then .ok ""
    else if complete then .ok (Text.withoutMark body)
    else .error (.brokenOff p)

/-- The point that a provider's answer gives. -/
def Provider.answer : Provider → String → Except GeocodeError Coordinates
  | nominatim => Nominatim.answer
  | yandex => Yandex.answer

/-- The point that an exchange with a provider gives. -/
def Exchange.result (p : Provider) (x : Exchange) : Except GeocodeError Coordinates :=
  (x.body p).bind p.answer

end Matchday

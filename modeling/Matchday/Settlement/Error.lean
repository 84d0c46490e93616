import Matchday.Store.Error

/-!
How a settlement may fail: at the status, which is written first, when the payment is read again, or
when its member is recorded as paid.
-/

namespace Matchday
set_option autoImplicit false

/-- Why a settlement fails. -/
inductive SettleError where
  | mark (cause : PaymentStoreError)
  | reload (cause : PaymentStoreError)
  | disappeared (payment : PaymentId)
  | record (cause : EventStoreError)
deriving DecidableEq

/-- The wording of each cause. -/
def SettleError.message : SettleError → String
  | mark _ => "Failed to mark payment paid"
  | reload _ => "Failed to reload payment"
  | disappeared p => "payment " ++ p.toText ++ " disappeared before settlement"
  | record _ => "Failed to record paid user"

/-- What becomes of the settlements that are still waiting when the settling ends: each is carried
out in its time, or dropped. -/
inductive ShutdownMode where
  | drain
  | abandon
deriving DecidableEq, Repr

/-- The name of a way to end. -/
def ShutdownMode.name : ShutdownMode → String
  | drain => "Drain"
  | abandon => "Abandon"

end Matchday

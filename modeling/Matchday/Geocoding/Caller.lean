/-!
Who asks for a lookup. Providers tell the kinds of traffic apart by the agent that is named to them.
-/

namespace Matchday
set_option autoImplicit false

/-- A background refresh, or someone who searches. -/
inductive Caller where
  | refresh
  | find
deriving DecidableEq, Repr

/-- The agent named to a provider. -/
def Caller.userAgent : Caller → String
  | refresh => "SportifyApp/1.0"
  | find => "Move-life-App/1.0"

end Matchday

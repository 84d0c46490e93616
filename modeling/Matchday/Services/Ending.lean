import Matchday.Text.Quoted

/-!
How a background service may end.
-/

namespace Matchday
set_option autoImplicit false

/-- A service returns, fails with an error of its own, or breaks down. Of a breakdown the number of the task is known
that the service ran in, and what it said, if that is text. -/
inductive Ending where
  | stopped
  | failed (error : String)
  | panicked (task : Nat) (text? : Option String)
deriving DecidableEq, Repr

namespace Ending

/-- How a breakdown is reported. -/
def report (task : Nat) (text? : Option String) : String :=
  "task " ++ toString task ++ " panicked" ++
    (text?.map fun text => " with message " ++ Text.quoted text).getD ""

/-- The error of a service that did not return. -/
def error? : Ending → Option String
  | stopped => none
  | failed error => some error
  | panicked task text? => some (report task text?)

end Ending

end Matchday

/-!
Named variables. A variable counts if its value is text; assignments from a file stand in for the
variables that do not count, the first one for a name winning. No variable can be given a value that
holds a NUL.
-/

namespace Matchday
set_option autoImplicit false

/-- The value of a variable: text, or bytes that are none. -/
inductive VariableValue where
  | text (value : String)
  | bytes (value : List UInt8)
deriving DecidableEq, Repr

/-- The text of a value. -/
def VariableValue.text? : VariableValue → Option String
  | text value => some value
  | bytes _ => none

/-- Variables by name, and the assignments of a file that stand in for them. -/
structure Environment where
  entries : List (String × VariableValue)
  assignments : List (String × String)
deriving DecidableEq, Repr

namespace Environment

/-- The value of a variable that counts. -/
def value? (e : Environment) (name : String) : Option String :=
  ((e.entries.lookup name).bind VariableValue.text?).or (e.assignments.lookup name)

/-- One more assignment, behind the others. -/
def assign (e : Environment) (name value : String) : Environment :=
  { e with assignments := e.assignments ++ [(name, value)] }

/-- Whether an assignment stands in for its variable with a value that no variable can have, since it
holds a NUL. -/
def isImpossible (e : Environment) : Bool :=
  e.assignments.any fun a => ((e.entries.lookup a.1).bind VariableValue.text?).isNone &&
    (e.assignments.lookup a.1).any fun value => value.toList.contains '\x00'

end Environment

end Matchday

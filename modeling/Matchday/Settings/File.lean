import Matchday.Settings.Assignment
import Matchday.Settings.Environment
import Matchday.Settings.Lines
import Matchday.Text.ByteOrderMark

/-!
Reading a file of assignments into an environment. Lines are read in their order, up to the first
malformed one, which and all behind it count for nothing. A value may refer to variables and to the
assignments before it.
-/

namespace Matchday.Environment
set_option autoImplicit false

/-- The value that takes the place of a variable in a file. -/
def valueOf (e : Environment) (name : String) : String := (e.value? name).getD ""

/-- The environment with the assignments of some lines. -/
def readLines (e : Environment) : List (List Char) → Environment
  | [] => e
  | l :: ls =>
    let cs := Text.trim l
    if AssignmentFile.isVoid cs then e.readLines ls
    else match AssignmentFile.assignment? e.valueOf cs with
      | some (name, value) => (e.assign name value).readLines ls
      | none => e

/-- The environment with the assignments of a file; `isImpossible` says whether its variables can take them. -/
def withFile (e : Environment) (content : String) : Environment :=
  e.readLines (AssignmentFile.lines (Text.withoutMark content).toList)

end Matchday.Environment

/-!
The mark that some programs put in front of a text to show the order of its bytes. It is no part of
the text.
-/

namespace Matchday.Text
set_option autoImplicit false

/-- A text without the byte order mark at its start. -/
def withoutMark (text : String) : String :=
  if text.toList.head? = some '\ufeff' then String.ofList (text.toList.drop 1) else text

end Matchday.Text

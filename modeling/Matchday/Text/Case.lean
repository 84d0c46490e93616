/-!
Letter case for the fixed ASCII words that may be written in any case.
-/

namespace Matchday.Text
set_option autoImplicit false

/-- The lower-case form of an ASCII letter; other characters stay. -/
def lower (c : Char) : Char :=
  if 'A' ≤ c ∧ c ≤ 'Z' then Char.ofNat (c.toNat + 32) else c

end Matchday.Text

import LiveTex.Text.Basic

/-!
Numbers in hexadecimal, with letters of either case.
-/

namespace LiveTex.Text

def hexDigit? (c : Char) : Option Nat :=
  if c.isDigit then some (c.toNat - '0'.toNat)
  else if 'a' ≤ c && c ≤ 'f' then some (c.toNat - 'a'.toNat + 10)
  else if 'A' ≤ c && c ≤ 'F' then some (c.toNat - 'A'.toNat + 10)
  else none

/-- The number that a text of hexadecimal digits spells. -/
def hexValue? : Text → Option Nat
  | [] => none
  | t => (t.mapM hexDigit?).map (·.foldl (fun n d => 16 * n + d) 0)

end LiveTex.Text

import LiveTex.Property.Binary

/-!
The characters that a quoted text does not show as themselves.
-/

namespace LiveTex.Text

/-- Control and format characters, separators, private and unassigned code points, and the characters
that only extend the grapheme before them. -/
def hiddenChars : CharSet := Property.category ["C", "Z"] ∪ Property.graphemeExtend

/-- A character without a visible form of its own. The plain space has one. -/
def isHidden (c : Char) : Bool :=
  if c.toNat < 0x7f then c.toNat < 0x20 else hiddenChars.has c

end LiveTex.Text

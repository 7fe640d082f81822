import LiveTex.Property.Binary

/-!
The characters that words and names are made of.
-/

namespace LiveTex.Text

/-- Word characters: what is alphabetic, marks, decimal digits, connectors such as the underscore, and
the invisible joiners. -/
def wordChars : CharSet :=
  Property.alphabetic ∪ Property.category ["M", "Nd", "Pc"] ∪ Property.joinControl

/-- Decimal digits of every script. -/
def digits : CharSet := Property.category ["Nd"]

/-- Letters and numerals of every script. -/
def alphanumeric : CharSet := Property.alphabetic ∪ Property.category ["N"]

end LiveTex.Text

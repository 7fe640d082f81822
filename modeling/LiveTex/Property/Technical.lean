import LiveTex.CharSet.Table

/-!
Digits and signs with a technical use, and code points set aside.
-/

namespace LiveTex.Property

/-- Hexadecimal digits of ASCII. -/
def asciiHexDigit : CharSet := .ofRows
  ["30-39 41-46 61-66"]

/-- Hexadecimal digits, the wide forms included. -/
def hexDigit : CharSet := .ofRows
  ["30-39 41-46 61-66 ff10-ff19 ff21-ff26 ff41-ff46"]

/-- Mathematical signs that may stand in identifiers. -/
def idCompatMathContinue : CharSet := .ofRows
  ["b2-b3 b9 2070 2074-207e 2080-208e 2202 2207 221e 1d6c1 1d6db 1d6fb 1d715 1d735 1d74f 1d76f",
   "1d789 1d7a9 1d7c3"]

/-- Mathematical signs that may start identifiers. -/
def idCompatMathStart : CharSet := .ofRows
  ["2202 2207 221e 1d6c1 1d6db 1d6fb 1d715 1d735 1d74f 1d76f 1d789 1d7a9 1d7c3"]

/-- Signs that set the direction of text. -/
def bidiControl : CharSet := .ofRows
  ["61c 200e-200f 202a-202e 2066-2069"]

/-- Signs that join characters or keep them apart. -/
def joinControl : CharSet := .ofRows
  ["200c-200d"]

/-- Code points without a form of their own. -/
def defaultIgnorableCodePoint : CharSet := .ofRows
  ["ad 34f 61c 115f-1160 17b4-17b5 180b-180f 200b-200f 202a-202e 2060-206f 3164 fe00-fe0f feff",
   "ffa0 fff0-fff8 1bca0-1bca3 1d173-1d17a e0000-e0fff"]

/-- Characters that should no longer be used. -/
def deprecated : CharSet := .ofRows
  ["149 673 f77 f79 17a3-17a4 206a-206f 2329-232a e0001"]

/-- Code points that are kept free of characters. -/
def noncharacterCodePoint : CharSet := .ofRows
  ["fdd0-fdef fffe-ffff 1fffe-1ffff 2fffe-2ffff 3fffe-3ffff 4fffe-4ffff 5fffe-5ffff 6fffe-6ffff",
   "7fffe-7ffff 8fffe-8ffff 9fffe-9ffff afffe-affff bfffe-bffff cfffe-cffff dfffe-dffff",
   "efffe-effff ffffe-fffff 10fffe-10ffff"]

end LiveTex.Property

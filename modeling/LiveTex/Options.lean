import LiveTex.Span.Delimiters

/-!
The choices that hold for a whole document.
-/

namespace LiveTex

/-- What a piece of mathematics becomes in plain text. -/
inductive PlainText where
  /-- Its source, without delimiters. -/
  | source
  | nothing
  /-- The same text for every piece. -/
  | placeholder (text : Text)
  deriving Repr, DecidableEq

structure Options where
  /-- Whether results are computed. -/
  evaluation : Bool
  delimiters : Delimiters
  plainText : PlainText
  deriving Repr, DecidableEq

def Options.standard : Options := ⟨false, .dollar, .source⟩

end LiveTex

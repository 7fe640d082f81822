import LiveTex.Options
import LiveTex.Span.Scan

/-!
A piece of mathematics on its own, and the texts that stand for it.
-/

namespace LiveTex

structure Node where
  latex : Text
  /-- Whether the result is shown behind the mathematics. -/
  evaluate : Bool
  display : DisplayMode
  deriving Repr, DecidableEq

namespace Node

/-- What a new node holds. -/
def standard : Node := ⟨['x', '_', '1'], false, .inline⟩

def ofSpan (s : Span) : Node := ⟨s.latex, s.showResult, s.display⟩

/-- The source, or `x` in the place of an empty one. -/
def source (n : Node) : Text := if n.latex.isEmpty then ['x'] else n.latex

/-- What the node becomes in plain text. -/
def plainText (n : Node) : PlainText → Text
  | .source => n.source
  | .nothing => []
  | .placeholder t => t

/-- The source between its delimiters. -/
def delimited (n : Node) (d : Delimiters) : Text :=
  d.literal n.display .start ++ n.source ++ d.literal n.display .stop

/-- The text that is left when the last character of the closing delimiter is deleted. Here an empty
source stays empty. -/
def reopened (n : Node) (d : Delimiters) : Text :=
  d.literal n.display .start ++ n.latex ++ (d.literal n.display .stop).dropLast

end Node

end LiveTex

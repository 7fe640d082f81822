import LiveTex.Pattern.Occurrences
import LiveTex.Pattern.Reading
import LiveTex.Span.Delimiters
import LiveTex.Span.Dollar

/-!
Finding the mathematics in a text. Blocks are looked for first, and mathematics in a line only between
them.
-/

namespace LiveTex

/-- A piece of mathematics in a text: the bytes it takes up with its delimiters, and its source without
the `=` at the end that asks for the result. -/
structure Span where
  start : Nat
  stop : Nat
  latex : Text
  display : DisplayMode
  showResult : Bool
  deriving Repr, DecidableEq

/-- How blocks and mathematics in a line are found; either can be switched off. -/
structure Scanner where
  inline : Option Finder
  block : Option Finder

namespace Scanner

def dollar : Scanner where
  inline := some Dollar.inlines
  block := some fun _ t => Dollar.blocks t

/-- Finds the matches of a pattern. -/
def ofPattern (pattern : Text) : Except Pattern.Fault Finder := do
  let p ← Pattern.read pattern
  let program := p.program
  return fun _ t => Pattern.occurrences program t

/-- `\(…\)`, whose content neither is empty nor ends with a backslash. -/
def bracketInline : Text := "\\\\\\((.*?[^\\\\])\\\\\\)".toList

/-- `\[…\]`, whose content neither is empty nor ends with a backslash. -/
def bracketBlock : Text := "\\\\\\[(.*?[^\\\\])\\\\\\]".toList

/-- The scanner for a choice of delimiters. Only patterns that cannot be read make it fail. -/
def new : Delimiters → Except Pattern.Fault Scanner
  | .dollar => .ok dollar
  | .bracket => do
    let inline ← ofPattern bracketInline
    let block ← ofPattern bracketBlock
    return ⟨some inline, some block⟩
  | .custom d => do
    let inline ← d.inlinePattern.mapM ofPattern
    let block ← d.blockPattern.mapM ofPattern
    return ⟨inline, block⟩

/-- The source without the `=` at its end, and whether there was one. -/
def splitResult (t : Text) : Text × Bool :=
  if t.getLast? == some '=' then (t.dropLast, true) else (t, false)

/-- The span of an occurrence whose gap starts at byte `offset`. An empty source is passed over; blanks
around a source in a line do not belong to it. -/
def span? (display : DisplayMode) (offset : Nat) (o : Occurrence) : Option Span :=
  if o.latex.isEmpty then none
  else
    let start := offset + Text.bytes o.gap
    let latex := match display with
      | .inline => Text.trim o.latex
      | .block => o.latex
    let (latex, showResult) := splitResult latex
    some ⟨start, start + Text.bytes o.whole, latex, display, showResult⟩

/-- The spans of a row of occurrences from byte `offset` on. -/
def spans (display : DisplayMode) (offset : Nat) : List Occurrence → List Span
  | [] => []
  | o :: more =>
    (span? display offset o).toList ++
      spans display (offset + Text.bytes o.gap + Text.bytes o.whole) more

/-- The spans in a piece of text without blocks, which begins at byte `offset`. -/
def inlineSpans (s : Scanner) (offset : Nat) (before : Option Char) (t : Text) : List Span :=
  match s.inline with
  | none => []
  | some find => spans .inline offset (find before t).occurrences

/-- The spans in and between blocks, from byte `offset` on. -/
def around (s : Scanner) (offset : Nat) (before : Option Char) (rest : Text) :
    List Occurrence → List Span
  | [] => s.inlineSpans offset before rest
  | o :: more =>
    let stop := offset + Text.bytes o.gap + Text.bytes o.whole
    s.inlineSpans offset before o.gap ++ (span? .block offset o).toList ++
      s.around stop ((o.gap ++ o.whole).getLast?.or before) rest more

/-- The mathematics in a text, in order. -/
def scan (s : Scanner) (t : Text) : List Span :=
  let cut := match s.block with
    | none => Cut.none t
    | some find => find none t
  s.around 0 none cut.rest cut.occurrences

end Scanner

end LiveTex

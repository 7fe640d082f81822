import LiveTex.Sheet.Settling
import LiveTex.Span.Node

/-!
Evaluating the mathematics of a document. A session is opened for each piece in order, and the results are
read when all of them are open, so a result also reflects definitions further down.
-/

namespace LiveTex

/-- What is reported of a piece of mathematics: the bytes it takes up, its source with delimiters and
without, and its result. -/
structure Report where
  start : Nat
  stop : Nat
  source : Text
  latex : Text
  display : DisplayMode
  result : Text
  value : Option Float
  /-- Whether the result is shown behind the mathematics. -/
  visible : Bool
  deriving Repr

namespace Document

/-- A sheet with a session for each node. -/
def sheet (nodes : List Node) : World :=
  nodes.foldl (fun w n => (w.act (.openSession n.latex n.evaluate none)).1) (.new Ident.longStem)

/-- The report of a span, with its session if there is one. -/
def report (d : Delimiters) (span : Span) (session : Option Session) : Report where
  start := span.start
  stop := span.stop
  source := (Node.ofSpan span).delimited d
  latex := span.latex
  display := span.display
  result := (session.map (·.cell.text)).getD []
  value := session.bind (·.value)
  visible := (session.map (·.cell.visible)).getD false

/-- The reports of the spans, the first of which has the session with index `i`. -/
def reports (d : Delimiters) (w : World) (i : Nat) : List Span → List Report
  | [] => []
  | span :: rest => report d span (w.session? i) :: reports d w (i + 1) rest

/-- Evaluates a document. Without evaluation there are no sessions, and the results are empty. -/
def evaluate (text : Text) (options : Options) : Except Pattern.Fault (List Report) := do
  let scanner ← Scanner.new options.delimiters
  let spans := scanner.scan text
  let world := sheet (if options.evaluation then spans.map Node.ofSpan else [])
  return reports options.delimiters world 0 spans

/-- A line for each report: the source and the result. -/
def plainOutput (reports : List Report) : Text :=
  reports.flatMap fun r => r.source ++ ['\t'] ++ r.result ++ ['\n']

end Document

end LiveTex

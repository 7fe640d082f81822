import LiveTex.Document.Basic
import LiveTex.Json.Writing

/-!
Reports as JSON.
-/

namespace LiveTex

open Json

def DisplayMode.name : DisplayMode → Text
  | .inline => "inline".toList
  | .block => "block".toList

/-- A report as an item of an array. -/
def Report.json (r : Report) : Text :=
  objectText 1
    [("range".toList, objectText 2
      [("start".toList, Decimal.digits r.start), ("end".toList, Decimal.digits r.stop)]),
     ("source".toList, stringText r.source),
     ("latex".toList, stringText r.latex),
     ("display".toList, stringText r.display.name),
     ("result".toList, stringText r.result),
     ("value".toList, numberText r.value),
     ("visible".toList, boolText r.visible)]

namespace Document

/-- All reports, followed by a newline. -/
def jsonOutput (reports : List Report) : Text := arrayText 0 (reports.map Report.json) ++ ['\n']

/-- What the evaluation of a document writes. -/
def output (text : Text) (options : Options) (json : Bool) : Except Pattern.Fault Text := do
  let reports ← evaluate text options
  return if json then jsonOutput reports else plainOutput reports

end Document

end LiveTex

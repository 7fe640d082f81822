import LiveTex.Json.Reading
import LiveTex.Options

/-!
Options in a JSON text. A record is an object, in which unknown members do not matter and known ones stand
at most once, or an array with the fields in order; what is missing has its standard value. A choice
without content is a string, or an object from its name to null.
-/

namespace LiveTex

namespace Json

/-- The value of the field with that name, if there is one; a repeated field makes the object unfit. -/
def field? (members : List (Text × Json)) (name : Text) : Option (Option Json) :=
  match members.filter (·.1 = name) with
  | [] => some none
  | [(_, j)] => some (some j)
  | _ => none

/-- The values of the named fields of a record. -/
def record? (names : List Text) : Json → Option (List (Option Json))
  | .object members => do
    let members ← members.mapM fun (name, j) => name.map (·, j)
    names.mapM (field? members)
  | .array items =>
    if items.length ≤ names.length then
      some (items.map some ++ List.replicate (names.length - items.length) none)
    else none
  | _ => none

/-- A name that stands alone or has a value. -/
def variant? : Json → Option (Text × Option Json)
  | .string (some name) => some (name, none)
  | .object [(some name, j)] => some (name, some j)
  | _ => none

def bool? : Json → Option Bool
  | .bool b => some b
  | _ => none

def text? : Json → Option Text
  | .string t => t
  | _ => none

/-- A text or null. -/
def optionalText? : Json → Option (Option Text)
  | .null => some none
  | .string (some t) => some (some t)
  | _ => none

/-- A choice without content: nothing or null stands behind its name. -/
def isUnit : Option Json → Bool
  | none | some .null => true
  | _ => false

/-- The field read by `read`, or the standard value of a missing one. -/
def orElse {α : Type} (read : Json → Option α) (standard : α) : Option Json → Option α
  | none => some standard
  | some j => read j

end Json

open Json

/-- Custom delimiters from JSON. -/
def CustomDelimiters.ofJson? (j : Json) : Option CustomDelimiters := do
  let fields ← record? ["inline_regex".toList, "block_regex".toList, "inline_start".toList,
    "inline_end".toList, "block_start".toList, "block_end".toList] j
  match ← fields.mapM (orElse optionalText? none) with
  | [a, b, c, d, e, f] => some ⟨a, b, c, d, e, f⟩
  | _ => none

/-- Delimiters from JSON. -/
def Delimiters.ofJson? (j : Json) : Option Delimiters := do
  let (name, content) ← variant? j
  if name = "dollar".toList then if isUnit content then some .dollar else none
  else if name = "bracket".toList then if isUnit content then some .bracket else none
  else if name = "custom".toList then do
    return .custom (← CustomDelimiters.ofJson? (← content))
  else none

/-- The form of plain text from JSON. -/
def PlainText.ofJson? (j : Json) : Option PlainText := do
  let (name, content) ← variant? j
  if name = "raw_latex".toList then if isUnit content then some .source else none
  else if name = "none".toList then if isUnit content then some .nothing else none
  else if name = "placeholder".toList then do
    return .placeholder (← text? (← content))
  else none

namespace Options

/-- Options from JSON. -/
def ofJson? (j : Json) : Option Options := do
  match ← record? ["evaluation".toList, "delimiters".toList, "render_text_mode".toList] j with
  | [evaluation, delimiters, plainText] =>
    return ⟨← orElse bool? standard.evaluation evaluation,
      ← orElse Delimiters.ofJson? standard.delimiters delimiters,
      ← orElse PlainText.ofJson? standard.plainText plainText⟩
  | _ => none

/-- The options in a file's content, or the standard ones without a file. Evaluation is switched on in any
case; a text that holds no options gives none. -/
def load? (content : Option Text) : Option Options := do
  let options ← match content with
    | none => some standard
    | some t => (Json.read? t).bind ofJson?
  return { options with evaluation := true }

end Options

end LiveTex

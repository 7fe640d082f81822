import LiveTex.Name.Color
import LiveTex.Name.Zones

/-!
Canonical names. A variable can be typed in several ways, such as `x_1`, `x_{1}`, `{x_1}` or
`\color{red}x_{1}`; all of them come to one name. A whole expression is treated as a row of names.
-/

namespace LiveTex.Name

/-- How scripts are written. -/
inductive Spelling where
  /-- Every script stands in braces. -/
  | braced
  /-- A script that is one character or one command has none. -/
  | compact
  deriving Repr, DecidableEq

/-- One character, or one command name. -/
def isSingle : Text → Bool
  | [_] => true
  | '\\' :: t => t.all Char.isAlpha
  | _ => false

/-- A script behind its mark. -/
def script (mark : Char) (spelling : Spelling) (t : Text) : Text :=
  if spelling == .compact && isSingle t then mark :: t
  else mark :: '{' :: t ++ ['}']

/-- The script of a zone: without its enclosing braces, and nothing at all for an empty zone. -/
def zoneScript (mark : Char) (spelling : Spelling) (zone : Text) : Text :=
  match (unbraced? zone).getD zone with
  | [] => []
  | c :: t => script mark spelling (Text.trim (c :: t))

/-- A name put together again, the subscript first. -/
def Zones.name (z : Zones) (spelling : Spelling) : Text :=
  z.main ++ zoneScript '_' spelling z.sub ++ zoneScript '^' spelling z.sup

/-- The names of a text with single spaces between them. Only the first one is spelled as asked; the
others have their scripts in braces. -/
def names (spelling : Spelling) (t : Text) : Text :=
  let z := zones t
  if _h : z.trailing = [] then z.name spelling
  else z.name spelling ++ ' ' :: names .braced z.trailing
termination_by t.length
decreasing_by exact length_trailing_lt _h

/-- The name that a text comes to. -/
def spelled (spelling : Spelling) (t : Text) : Text := names spelling (uncolored (stripped t))

/-- The canonical name, with its scripts in braces. -/
def canonical (t : Text) : Text := spelled .braced t

/-- The two spellings that a variable is found under. -/
def aliases (t : Text) : List Text := [canonical t, spelled .compact t]

end LiveTex.Name

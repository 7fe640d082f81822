import LiveTex.Text.Basic

/-!
What marks mathematics in a text, and how a piece of it is written back.
-/

namespace LiveTex

/-- Mathematics in a line of text, or set off in a block. -/
inductive DisplayMode where
  | inline
  | block
  deriving Repr, DecidableEq

inductive Side where
  | start
  | stop
  deriving Repr, DecidableEq

/-- Search patterns, whose first group is the mathematics, and the delimiters to write. Without a pattern
a display mode is not looked for. -/
structure CustomDelimiters where
  inlinePattern : Option Text
  blockPattern : Option Text
  inlineStart : Option Text
  inlineStop : Option Text
  blockStart : Option Text
  blockStop : Option Text
  deriving Repr, DecidableEq

inductive Delimiters where
  /-- `$…$` in a line and `$$…$$` for a block. -/
  | dollar
  /-- `\(…\)` in a line and `\[…\]` for a block. -/
  | bracket
  | custom (delimiters : CustomDelimiters)
  deriving Repr, DecidableEq

/-- The dollar signs around a display mode. -/
def DisplayMode.dollars : DisplayMode → Text
  | .inline => ['$']
  | .block => ['$', '$']

/-- The delimiter that was chosen for a display mode and a side. -/
def CustomDelimiters.chosen? (d : CustomDelimiters) : DisplayMode → Side → Option Text
  | .inline, .start => d.inlineStart
  | .inline, .stop => d.inlineStop
  | .block, .start => d.blockStart
  | .block, .stop => d.blockStop

/-- The text that stands on a side of the mathematics. Custom delimiters that were not chosen are
dollars. -/
def Delimiters.literal (d : Delimiters) (mode : DisplayMode) (side : Side) : Text :=
  match d with
  | .dollar => mode.dollars
  | .bracket => match mode, side with
    | .inline, .start => ['\\', '(']
    | .inline, .stop => ['\\', ')']
    | .block, .start => ['\\', '[']
    | .block, .stop => ['\\', ']']
  | .custom d => (d.chosen? mode side).getD mode.dollars

end LiveTex

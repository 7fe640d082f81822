import LiveTex.Name.Canonical

/-!
What a line of mathematics says: an expression, and the name it is assigned to, if there is one. In
`a := b = c` the name is `a` and the expression is `c`.
-/

namespace LiveTex

/-- An expression in canonical spelling, and the left side of the assignment as it was typed. -/
structure Statement where
  expression : Text
  defines : Option Text
  deriving Repr, DecidableEq

namespace Statement

/-- The constant that stands for the command `\pi`. -/
def piText : Text := ['{', 'P', 'I', '}']

/-- The text with the constant in the place of every `\pi`, also where the command's name goes on. -/
def withPi : Text → Text
  | '\\' :: 'p' :: 'i' :: '{' :: '}' :: t => piText ++ withPi t
  | '\\' :: 'p' :: 'i' :: t => piText ++ withPi t
  | c :: t => c :: withPi t
  | [] => []

/-- The two sides of an assignment. The left side is the longest piece of the first line that blanks and
`:=` follow, and the blanks after `:=` belong to neither side. -/
def assignment? : Text → Option (Text × Text)
  | [] => none
  | c :: t =>
    let here := (Text.after? [':', '='] (Text.trimStart (c :: t))).map fun right =>
      ([], Text.trimStart right)
    if c = '\n' then here
    else match assignment? t with
      | some (left, right) => some (c :: left, right)
      | none => here

/-- The text after the last `=`; when nothing stands there, the text between the last two. -/
def rightSide (t : Text) : Text :=
  match (Text.pieces '=' t).reverse with
  | [] => []
  | [only] => only
  | last :: previous :: _ => if last = [] then previous else last

/-- The statement that a text makes. An assignment to nothing but blanks is an expression. -/
def read (source : Text) : Statement :=
  let t := Text.trim (withPi source)
  match assignment? t with
  | none => ⟨Name.canonical (rightSide t), none⟩
  | some (left, right) =>
    let name := Text.trim left
    ⟨Name.canonical (rightSide right), if name = [] then none else some name⟩

end Statement

end LiveTex

import LiveTex.Formula.Error
import LiveTex.Formula.Token

/-!
From the source of a formula to its tokens. White space, the spacing commands and the sizing commands
carry no arithmetic meaning and are passed over. Each item is as long as it can be.
-/

namespace LiveTex.Formula

/-- White space between tokens. -/
def isSpace (c : Char) : Bool := c == ' ' || c == '\t' || c == '\r' || c == '\n'

/-- The marks that make a spacing command after a backslash. -/
def isSpacingMark (c : Char) : Bool := c == ',' || c == ';' || c == ':' || c == '!' || c == ' '

/-- Commands made of letters that carry no arithmetic meaning. -/
def layoutCommands : List Text :=
  ["left".toList, "right".toList, "quad".toList, "qquad".toList]

/-- What stands at the head of the source. -/
inductive Item where
  | token (kind : Token.Kind)
  | layout
  /-- A character that begins nothing. -/
  | stray
  deriving Repr, DecidableEq

/-- The longest item at the head of the source, its text, and what follows it. -/
structure Head where
  item : Item
  taken : Text
  rest : Text
  deriving Repr, DecidableEq

/-- The fraction part of a number, if a point and at least one digit follow. -/
def fraction : Text → Text × Text
  | '.' :: d :: t =>
    if d.isDigit then ('.' :: d :: t.takeWhile Char.isDigit, t.dropWhile Char.isDigit)
    else ([], '.' :: d :: t)
  | t => ([], t)

/-- What follows a backslash. -/
def escape : Text → Head
  | [] => ⟨.stray, ['\\'], []⟩
  | d :: t =>
    if d.isAlpha then
      let name := d :: t.takeWhile Char.isAlpha
      let item := if name ∈ layoutCommands then .layout else .token .command
      ⟨item, '\\' :: name, t.dropWhile Char.isAlpha⟩
    else if isSpacingMark d then ⟨.layout, ['\\', d], t⟩
    else ⟨.stray, ['\\'], d :: t⟩

/-- The item that starts with `c`. -/
def head (c : Char) (t : Text) : Head :=
  if isSpace c then ⟨.layout, [c], t⟩
  else if c.isAlpha then
    ⟨.token .symbol, c :: t.takeWhile Char.isAlpha, t.dropWhile Char.isAlpha⟩
  else if c.isDigit then
    let (part, rest) := fraction (t.dropWhile Char.isDigit)
    ⟨.token .number, c :: t.takeWhile Char.isDigit ++ part, rest⟩
  else if c = '.' then
    let (part, rest) := fraction (c :: t)
    if part = [] then ⟨.stray, [c], t⟩ else ⟨.token .number, part, rest⟩
  else if c = '\\' then escape t
  else match Token.Kind.ofMark? c with
    | some kind => ⟨.token kind, [c], t⟩
    | none => ⟨.stray, [c], t⟩

theorem fraction_append (t : Text) : (fraction t).1 ++ (fraction t).2 = t := by
  unfold fraction
  split
  · split
    · simp [List.takeWhile_append_dropWhile]
    · rfl
  · rfl

theorem escape_append (t : Text) : (escape t).taken ++ (escape t).rest = '\\' :: t := by
  cases t with
  | nil => rfl
  | cons d t =>
    simp only [escape]
    split
    · simp [List.takeWhile_append_dropWhile]
    · split <;> rfl

/-- An item and what follows it make up the source. -/
theorem head_append (c : Char) (t : Text) : (head c t).taken ++ (head c t).rest = c :: t := by
  unfold head
  split
  · rfl
  split
  · simp [List.takeWhile_append_dropWhile]
  split
  · have h := fraction_append (t.dropWhile Char.isDigit)
    simp only [List.cons_append, List.append_assoc, h, List.takeWhile_append_dropWhile]
  split
  · simp only
    split
    · rfl
    · exact fraction_append (c :: t)
  split
  · next heq => subst heq; exact escape_append t
  · split <;> rfl

theorem escape_taken_ne_nil (t : Text) : (escape t).taken ≠ [] := by
  cases t with
  | nil => simp [escape]
  | cons d t => simp only [escape]; split <;> (try split) <;> simp

/-- No item is empty. -/
theorem head_taken_ne_nil (c : Char) (t : Text) : (head c t).taken ≠ [] := by
  unfold head
  split
  · simp
  split
  · simp
  split
  · simp
  split
  · simp only
    split
    · simp
    · assumption
  split
  · exact escape_taken_ne_nil t
  · split <;> simp

theorem length_rest_lt (c : Char) (t : Text) : (head c t).rest.length < (c :: t).length := by
  have happend := congrArg List.length (head_append c t)
  have hpos := List.length_pos_iff.mpr (head_taken_ne_nil c t)
  simp only [List.length_append] at happend
  omega

/-- The tokens of a source whose first character is at byte `offset`. -/
def tokenizeFrom (offset : Nat) : Text → Except Error (List Token)
  | [] => .ok []
  | c :: t =>
    let stop := offset + Text.bytes (head c t).taken
    match (head c t).item with
    | .stray => .error (.unexpectedChar (head c t).taken offset)
    | .layout => tokenizeFrom stop (head c t).rest
    | .token kind => (tokenizeFrom stop (head c t).rest).map (⟨kind, (head c t).taken, offset, stop⟩ :: ·)
termination_by t => t.length
decreasing_by all_goals exact length_rest_lt c t

/-- The tokens of a source, in order. -/
def tokenize (source : Text) : Except Error (List Token) := tokenizeFrom 0 source

end LiveTex.Formula

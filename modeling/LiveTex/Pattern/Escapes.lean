import LiveTex.Pattern.Classes
import LiveTex.Property.Query
import LiveTex.Text.Hexadecimal

/-!
Reading what stands behind a backslash. Each reader gives back the text behind what it reads.
-/

namespace LiveTex.Pattern

/-- One part of a pattern that an escape or a plain character stands for. -/
inductive Primitive where
  | char (c : Char)
  /-- A character written as one byte. -/
  | byte (c : Char)
  | set (s : CharSet)
  | anchor (a : Anchor)

/-- The character that a part stands for. Without Unicode no byte beyond ASCII is a character. -/
def Primitive.char? (flags : Flags) : Primitive → Except Fault (Option Char)
  | .char c => .ok (some c)
  | .byte c => if flags.unicode || c.toNat < 0x80 then .ok (some c) else .error .beyondAscii
  | _ => .ok none

def isMeta (c : Char) : Bool :=
  c ∈ ['\\', '.', '+', '*', '?', '(', ')', '|', '[', ']', '{', '}', '^', '$', '#', '&', '-', '~']

/-- ASCII characters that may stand behind a backslash without a meaning of their own. -/
def isEscapable (c : Char) : Bool :=
  isMeta c || c.toNat < 128 && !c.isAlphanum && c != '<' && c != '>'

/-- The character with a code point in hexadecimal. -/
def hexChar (digits : Text) : Except Fault Char :=
  match Text.hexValue? digits with
  | none => .error .hexadecimal
  | some n => if n.isValidChar then .ok (Char.ofNat n) else .error .hexadecimal

/-- A number of characters that mean something. -/
def takeMeant (flags : Flags) : (count : Nat) → Text → Option (Text × Text)
  | 0, t => some ([], t)
  | _ + 1, [] => none
  | count + 1, c :: t =>
    (takeMeant flags count (flags.skip t)).map fun (front, rest) => (c :: front, rest)

/-- A code point in braces or with a fixed number of digits. With two digits it is a byte. -/
def hexEscape (flags : Flags) (width : Nat) (t : Text) : Except Fault (Primitive × Text) :=
  match flags.skip t with
  | '{' :: t => match flags.cutAt '}' t with
    | some (digits, rest) => (hexChar digits).map fun c => (.char c, rest)
    | none => .error .hexadecimal
  | t => match takeMeant flags width t with
    | some (digits, rest) => (hexChar digits).map fun c => (if width = 2 then .byte c else .char c, rest)
    | none => .error .hexadecimal

/-- The characters that the text in the braces behind `\p` asks for, and whether it asks for all others.
A property and its value stand on the sides of an equals sign, a colon or an unequal sign. -/
def propertyQuery? (inside : Text) : Option (Bool × CharSet) :=
  match Text.cutAround "!=".toList inside with
  | some (property, value) => (Property.ofValue? property value).map (true, ·)
  | none =>
    match (Text.cutAt (· == ':') inside).or (Text.cutAt (· == '=') inside) with
    | some (property, value) => (Property.ofValue? property value).map (false, ·)
    | none => (Property.ofName? inside).map (false, ·)

/-- A property behind `\p` or its negation behind `\P`: one letter, or a query in braces. -/
def propertyEscape (flags : Flags) (negated : Bool) (t : Text) : Except Fault (Primitive × Text) := do
  if !flags.unicode then throw .beyondAscii
  let (inside, rest) ← match flags.skip t with
    | [] | '\\' :: _ => throw .escape
    | '{' :: t => match flags.cutAt '}' t with
      | some cut => pure cut
      | none => throw .escape
    | c :: t => pure ([c], t)
  match propertyQuery? inside with
  | none => throw .property
  | some (others, s) => return (.set (← flags.close (negated != others) s), rest)

/-- The anchors that have names. -/
def anchorNamed? (word : CharSet) (name : Text) : Option Anchor :=
  if name = "start".toList then some (.wordStart word)
  else if name = "end".toList then some (.wordEnd word)
  else if name = "start-half".toList then some (.wordStartHalf word)
  else if name = "end-half".toList then some (.wordEndHalf word)
  else none

/-- A kind of word boundary, in braces behind `\b`. Braces around no name are left for a count. -/
def boundary (flags : Flags) (t : Text) : Except Fault (Primitive × Text) :=
  match t with
  | '{' :: inside =>
    match flags.skip inside with
    | [] => .error .escape
    | c :: _ =>
      if c.isAlpha || c == '-' then
        match flags.cutAt '}' inside with
        | none => .error .escape
        | some (name, rest) => match anchorNamed? flags.word name with
          | some a => .ok (.anchor a, rest)
          | none => .error .escape
      else .ok (.anchor (.wordBoundary flags.word), t)
  | t => .ok (.anchor (.wordBoundary flags.word), t)

/-- What a backslash and the text after it stand for. -/
def escape (flags : Flags) (t : Text) : Except Fault (Primitive × Text) :=
  match t with
  | [] => .error .escape
  | c :: t =>
    if isEscapable c then .ok (.char c, t)
    else match c with
      | 'x' => hexEscape flags 2 t
      | 'u' => hexEscape flags 4 t
      | 'U' => hexEscape flags 8 t
      | 'p' => propertyEscape flags false t
      | 'P' => propertyEscape flags true t
      | 'a' => .ok (.char '\x07', t)
      | 'f' => .ok (.char '\x0c', t)
      | 't' => .ok (.char '\t', t)
      | 'n' => .ok (.char '\n', t)
      | 'r' => .ok (.char '\r', t)
      | 'v' => .ok (.char '\x0b', t)
      | 'A' => .ok (.anchor .textStart, t)
      | 'z' => .ok (.anchor .textEnd, t)
      | 'b' => boundary flags t
      | 'B' => .ok (.anchor (.noWordBoundary flags.word), t)
      | '<' => .ok (.anchor (.wordStart flags.word), t)
      | '>' => .ok (.anchor (.wordEnd flags.word), t)
      | c => (flags.letterClass c).map fun s => (.set s, t)

end LiveTex.Pattern

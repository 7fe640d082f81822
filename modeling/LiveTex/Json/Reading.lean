import LiveTex.Json.Value
import LiveTex.Text.Hexadecimal

/-!
Reading JSON, by the letter of the standard. A text that is not one JSON value has no reading.
-/

namespace LiveTex.Json

def isSpace (c : Char) : Bool := c == ' ' || c == '\n' || c == '\t' || c == '\r'

def skipSpace (t : Text) : Text := t.dropWhile isSpace

/-- The code unit that four hexadecimal digits spell. -/
def unit? (a b c d : Char) : Option Nat := Text.hexValue? [a, b, c, d]

def isHighSurrogate (n : Nat) : Bool := 0xd800 ≤ n && n < 0xdc00

def isLowSurrogate (n : Nat) : Bool := 0xdc00 ≤ n && n < 0xe000

/-- The character of two surrogates. -/
def paired (high low : Nat) : Char := Char.ofNat (0x10000 + (high - 0xd800) * 0x400 + (low - 0xdc00))

/-- The character of a short escape. -/
def shortEscape? : Char → Option Char
  | '"' => some '"'
  | '\\' => some '\\'
  | '/' => some '/'
  | 'b' => some '\x08'
  | 'f' => some '\x0c'
  | 'n' => some '\n'
  | 'r' => some '\r'
  | 't' => some '\t'
  | _ => none

/-- A character in front of the rest of a string. A high surrogate before it that found no partner
spoils the text. -/
def put (high : Option Nat) (c : Char) (rest : Option Text × Text) : Option Text × Text :=
  (if high.isSome then none else rest.1.map (c :: ·), rest.2)

/-- A string from behind its first quote: its text, if it spells one, and what follows it. -/
def string? (high : Option Nat) : Text → Option (Option Text × Text)
  | [] => none
  | '"' :: t => some (if high.isSome then none else some [], t)
  | '\\' :: 'u' :: a :: b :: c :: d :: t =>
    match unit? a b c d with
    | none => none
    | some n =>
      if isHighSurrogate n then (string? (some n) t).map fun r => (if high.isSome then none else r.1, r.2)
      else if isLowSurrogate n then
        match high with
        | some h => (string? none t).map (put none (paired h n))
        | none => (string? none t).map fun r => (none, r.2)
      else (string? none t).map (put high (Char.ofNat n))
  | '\\' :: e :: t =>
    match shortEscape? e with
    | none => none
    | some c => (string? none t).map (put high c)
  | c :: t => if c.toNat < 32 || c = '\\' then none else (string? none t).map (put high c)

/-- At least one digit. -/
def digits? (t : Text) : Option Text :=
  match t with
  | d :: t => if d.isDigit then some (t.dropWhile Char.isDigit) else none
  | [] => none

/-- What follows a number. A leading zero stands alone before the point. -/
def number? (t : Text) : Option Text := do
  let t := (Text.after? ['-'] t).getD t
  let t ← match t with
    | '0' :: t => if t.head?.any Char.isDigit then none else some t
    | t => digits? t
  let t ← match t with
    | '.' :: t => digits? t
    | t => some t
  match t with
  | 'e' :: t | 'E' :: t => match t with
    | '+' :: t | '-' :: t => digits? t
    | t => digits? t
  | t => some t

mutual

/-- The value at the head of a text, and what follows it. The fuel bounds the characters read. -/
def value? : (fuel : Nat) → Text → Option (Json × Text)
  | 0, _ => none
  | fuel + 1, t => match skipSpace t with
    | '"' :: t => (string? none t).map fun (s, t) => (.string s, t)
    | '[' :: t => match skipSpace t with
      | ']' :: t => some (.array [], t)
      | t => (items? fuel t).map fun (items, t) => (.array items, t)
    | '{' :: t => match skipSpace t with
      | '}' :: t => some (.object [], t)
      | t => (members? fuel t).map fun (members, t) => (.object members, t)
    | t =>
      match Text.after? "null".toList t, Text.after? "true".toList t, Text.after? "false".toList t with
      | some t, _, _ => some (.null, t)
      | none, some t, _ => some (.bool true, t)
      | none, none, some t => some (.bool false, t)
      | none, none, none => (number? t).map (.number, ·)

/-- The items of an array, up to its closing bracket. -/
def items? : (fuel : Nat) → Text → Option (List Json × Text)
  | 0, _ => none
  | fuel + 1, t => do
    let (item, t) ← value? fuel t
    match skipSpace t with
    | ']' :: t => return ([item], t)
    | ',' :: t => do
      let (items, t) ← items? fuel t
      return (item :: items, t)
    | _ => none

/-- The members of an object, up to its closing brace. -/
def members? : (fuel : Nat) → Text → Option (List (Option Text × Json) × Text)
  | 0, _ => none
  | fuel + 1, t => do
    let t ← Text.after? ['"'] (skipSpace t)
    let (name, t) ← string? none t
    let t ← Text.after? [':'] (skipSpace t)
    let (item, t) ← value? fuel t
    match skipSpace t with
    | '}' :: t => return ([(name, item)], t)
    | ',' :: t => do
      let (members, t) ← members? fuel t
      return ((name, item) :: members, t)
    | _ => none

end

/-- The value that a text spells. -/
def read? (t : Text) : Option Json := do
  let (j, rest) ← value? (2 * t.length + 1) t
  if (skipSpace rest).isEmpty then some j else none

end LiveTex.Json

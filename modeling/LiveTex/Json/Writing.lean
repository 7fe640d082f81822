import LiveTex.Decimal.Layout
import LiveTex.Decimal.Digits

/-!
Writing JSON over several lines, two spaces for each level.
-/

namespace LiveTex.Json

/-- A character inside a string. -/
def escaped (c : Char) : Text :=
  if c = '"' then ['\\', '"']
  else if c = '\\' then ['\\', '\\']
  else if c = '\x08' then ['\\', 'b']
  else if c = '\x0c' then ['\\', 'f']
  else if c = '\n' then ['\\', 'n']
  else if c = '\r' then ['\\', 'r']
  else if c = '\t' then ['\\', 't']
  else if c.toNat < 32 then ['\\', 'u'] ++ Decimal.padded 4 (Nat.toDigits 16 c.toNat)
  else [c]

def stringText (t : Text) : Text := ['"'] ++ t.flatMap escaped ++ ['"']

def boolText (b : Bool) : Text := if b then "true".toList else "false".toList

/-- Numbers: plainly from `10 ^ -5` up to below `10 ^ 16` and with one decimal at least, otherwise with a
signed exponent. -/
def numberStyle : Decimal.Style where
  plainFrom := some (-5)
  plainTo := some 15
  pointZero := true
  plusSign := true
  tie := .even

/-- A number; what JSON has no number for is null. -/
def numberText (x : Option Float) : Text :=
  match x.map Decimal.Class.of with
  | some (.finite negative mantissa exponent) => Decimal.layout numberStyle negative mantissa exponent
  | _ => "null".toList

/-- The spaces at the start of a line. -/
def margin (level : Nat) : Text := List.replicate (2 * level) ' '

/-- Items in brackets or braces, each on a line of its own one level further in. -/
def enclosed (left right : Char) (level : Nat) (items : List Text) : Text :=
  if items.isEmpty then [left, right]
  else
    [left, '\n'] ++ Text.join [',', '\n'] (items.map (margin (level + 1) ++ ·)) ++ ['\n'] ++
      margin level ++ [right]

def arrayText (level : Nat) (items : List Text) : Text := enclosed '[' ']' level items

def objectText (level : Nat) (members : List (Text × Text)) : Text :=
  enclosed '{' '}' level (members.map fun (name, value) => stringText name ++ [':', ' '] ++ value)

end LiveTex.Json

import LiveTex.Text.Hidden

/-!
Quoted text, as messages show it: between double quotes, with a backslash before quotes and backslashes,
short escapes for the usual controls, and code points in hexadecimal for what has no visible form.
-/

namespace LiveTex.Text

/-- One character as it stands between the quotes. -/
def quotedChar (c : Char) : Text :=
  if c = '"' then ['\\', '"']
  else if c = '\\' then ['\\', '\\']
  else if c = '\x00' then ['\\', '0']
  else if c = '\t' then ['\\', 't']
  else if c = '\n' then ['\\', 'n']
  else if c = '\r' then ['\\', 'r']
  else if isHidden c then "\\u\x7b".toList ++ Nat.toDigits 16 c.toNat ++ ['}']
  else [c]

/-- The text between double quotes. A single quote needs no escape. -/
def quoted (t : Text) : Text := ['"'] ++ t.flatMap quotedChar ++ ['"']

end LiveTex.Text

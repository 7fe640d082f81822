import LiveTex.Decimal.Digits

/-!
Identifiers of variables and of subscribers. An identifier of a variable is put into formulas in the place
of the variable's name, so it has to be a single symbol: ASCII letters, and no constant.
-/

namespace LiveTex

/-- The key of a stored variable. -/
abbrev Ident := Text

/-- The number of a subscriber. -/
abbrev Subscriber := Nat

namespace Ident

/-- The letter for a digit below 26. -/
def letter (digit : Nat) : Char := Char.ofNat ('a'.toNat + digit)

/-- A number in base 26, with letters for digits and the most significant one first. -/
def letters (n : Nat) : Text :=
  if n < 26 then [letter n] else letters (n / 26) ++ [letter (n % 26)]
termination_by n
decreasing_by omega

/-- The identifier with a running number, behind a stem that all of them share. -/
def numbered (stem : Text) (n : Nat) : Ident := stem ++ letters n

/-- The stem of the short identifiers `Va`, `Vb` and so on. -/
def shortStem : Text := ['V']

/-- A stem that no text contains by chance, for sheets whose variables are named by anyone. -/
def longStem : Text := "QxJvZkWqHtXbRzNgYdPfKwLmVcUsBjTaGoM".toList

end Ident

/-- A subscriber as it is displayed: sixteen hexadecimal digits. -/
def Subscriber.text (s : Subscriber) : Text := '#' :: Decimal.padded 16 (Nat.toDigits 16 s)

end LiveTex

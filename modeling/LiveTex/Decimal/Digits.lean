import LiveTex.Text.Basic

/-!
Decimal digits: a natural number as text and back.
-/

namespace LiveTex.Decimal

/-- The decimal digits of a natural number, without leading zeros. -/
def digits (n : Nat) : Text := Nat.toDigits 10 n

/-- The number that decimal digits spell; other characters do not occur. -/
def value (t : Text) : Nat := t.foldl (fun n c => 10 * n + (c.toNat - '0'.toNat)) 0

/-- As many zeros as asked for. -/
def zeros (n : Nat) : Text := List.replicate n '0'

/-- The digits with zeros in front, up to the given width. -/
def padded (width : Nat) (t : Text) : Text := zeros (width - t.length) ++ t

end LiveTex.Decimal

import LiveTex.CharSet.Basic

/-!
Blank characters are those with the Unicode property White_Space. Trimming removes them from the ends
of a text.
-/

namespace LiveTex.Text

/-- The characters with the property White_Space. -/
def whiteSpace : CharSet :=
  ⟨[(0x09, 0x0d), (0x20, 0x20), (0x85, 0x85), (0xa0, 0xa0), (0x1680, 0x1680), (0x2000, 0x200a),
    (0x2028, 0x2029), (0x202f, 0x202f), (0x205f, 0x205f), (0x3000, 0x3000)], rfl⟩

/-- A blank character: a space, a tabulator, a line end or one of their Unicode relatives. -/
def isBlank (c : Char) : Bool := whiteSpace.has c

/-- The text from its first character that is not blank. -/
def trimStart (t : Text) : Text := t.dropWhile isBlank

/-- The text up to its last character that is not blank. -/
def trimEnd : Text → Text
  | [] => []
  | c :: t => match trimEnd t with
    | [] => if isBlank c then [] else [c]
    | d :: rest => c :: d :: rest

/-- The text without the blank characters at its ends. -/
def trim (t : Text) : Text := trimEnd (trimStart t)

theorem length_trimStart_le (t : Text) : (trimStart t).length ≤ t.length := by
  simpa [trimStart] using (List.dropWhile_suffix isBlank).length_le

theorem length_trimEnd_le (t : Text) : (trimEnd t).length ≤ t.length := by
  induction t with
  | nil => simp [trimEnd]
  | cons c t ih =>
    simp only [trimEnd]
    split
    · split <;> simp
    · next heq => rw [heq] at ih; simpa using ih

theorem length_trim_le (t : Text) : (trim t).length ≤ t.length :=
  Nat.le_trans (length_trimEnd_le _) (length_trimStart_le t)

end LiveTex.Text

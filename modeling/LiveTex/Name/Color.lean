import LiveTex.Name.Braces

/-!
Color commands. `\color{red}` and `\textcolor{red}` say how a name looks and not which name it is, so
they are taken out wherever they stand.
-/

namespace LiveTex.Name

/-- A character of a color's name. -/
def isColorChar (c : Char) : Bool := c.isAlphanum || c == '_'

/-- What follows a color command and its braced color, when the text starts with them. -/
def afterColor? (command : Text) (t : Text) : Option Text :=
  match Text.after? (command ++ ['{']) t with
  | none => none
  | some t => match t.dropWhile isColorChar with
    | '}' :: rest => some rest
    | _ => none

theorem length_lt_of_afterColor? {command t rest : Text} (h : afterColor? command t = some rest) :
    rest.length + 2 ≤ t.length := by
  unfold afterColor? at h
  split at h
  · simp at h
  next inner hinner =>
    split at h
    · next tail htail =>
      cases h
      have hshort := Text.length_lt_of_after? hinner (by simp)
      have hdrop := (List.dropWhile_suffix (l := inner) isColorChar).length_le
      rw [htail] at hdrop
      simp only [List.length_cons] at hdrop
      omega
    · simp at h

/-- The text with a space for every color command. -/
def withSpaces (command : Text) : Text → Text
  | [] => []
  | c :: t =>
    match _h : afterColor? command (c :: t) with
    | some rest => ' ' :: withSpaces command rest
    | none => c :: withSpaces command t
termination_by t => t.length
decreasing_by
  · have := length_lt_of_afterColor? _h; simp only [List.length_cons] at *; omega
  · simp

/-- Whether the command stands anywhere in the text. -/
def mentions (command : Text) : Text → Bool
  | [] => false
  | c :: t => (afterColor? command (c :: t)).isSome || mentions command t

theorem length_withSpaces_le (command t : Text) : (withSpaces command t).length ≤ t.length := by
  induction t using withSpaces.induct command with
  | case1 => simp [withSpaces]
  | case2 c t rest h ih =>
    have := length_lt_of_afterColor? h
    rw [withSpaces, h]
    simp only [List.length_cons] at *
    omega
  | case3 c t h ih =>
    rw [withSpaces, h]
    simpa using ih

theorem length_withSpaces_lt {command t : Text} (h : mentions command t = true) :
    (withSpaces command t).length < t.length := by
  induction t using withSpaces.induct command with
  | case1 => simp [mentions] at h
  | case2 c t rest hafter ih =>
    have := length_lt_of_afterColor? hafter
    have := length_withSpaces_le command rest
    rw [withSpaces, hafter]
    simp only [List.length_cons] at *
    omega
  | case3 c t hafter ih =>
    rw [withSpaces, hafter]
    simp only [mentions, hafter, Option.isSome_none, Bool.false_or] at h
    simpa using ih h

def color : Text := "\\color".toList

def textcolor : Text := "\\textcolor".toList

/-- The text without color commands. Taking them out can bring enclosing braces to light, and those can
bring out new commands. -/
def uncolored (t : Text) : Text :=
  if _h : mentions color t = true then uncolored (stripped (withSpaces color t))
  else if _h : mentions textcolor t = true then uncolored (stripped (withSpaces textcolor t))
  else t
termination_by t.length
decreasing_by
  all_goals exact Nat.lt_of_le_of_lt (length_stripped_le _) (length_withSpaces_lt _h)

end LiveTex.Name

import LiveTex.Text.Blank

/-!
Braces around a whole text. A backslash escapes the character after it, so an escaped brace neither opens
nor closes.
-/

namespace LiveTex.Name

/-- The text before the brace that closes the group, if nothing follows that brace. So many groups are
open inside it. -/
def untilClosing (depth : Nat) : Text → Option Text
  | [] => none
  | c :: t =>
    if c = '\\' then
      match t with
      | [] => none
      | d :: t => (untilClosing depth t).map fun inner => c :: d :: inner
    else if c = '{' then (untilClosing (depth + 1) t).map (c :: ·)
    else if c = '}' then
      match depth with
      | 0 => if t = [] then some [] else none
      | depth + 1 => (untilClosing depth t).map (c :: ·)
    else (untilClosing depth t).map (c :: ·)

/-- The text between a leading brace and the brace that closes it, when that one ends the text. -/
def unbraced? : Text → Option Text
  | '{' :: t => untilClosing 0 t
  | _ => none

theorem eq_append_of_untilClosing {depth : Nat} {t inner : Text}
    (h : untilClosing depth t = some inner) : t = inner ++ ['}'] := by
  fun_induction untilClosing depth t generalizing inner with
  | case1 | case2 | case6 => simp at h
  | case5 => simp_all
  | case3 _ _ _ ih | case4 _ _ _ ih | case7 _ _ _ _ ih | case8 _ _ _ _ _ _ ih =>
    obtain ⟨inner, hinner, rfl⟩ := Option.map_eq_some_iff.mp h
    simp [← ih hinner]

theorem eq_braced_of_unbraced? {t inner : Text} (h : unbraced? t = some inner) :
    t = ['{'] ++ inner ++ ['}'] := by
  unfold unbraced? at h
  split at h
  · simp [← eq_append_of_untilClosing h]
  · simp at h

theorem length_lt_of_unbraced? {t inner : Text} (h : unbraced? t = some inner) :
    inner.length < t.length := by
  rw [eq_braced_of_unbraced? h]
  simp only [List.length_append, List.length_cons, List.length_nil]
  omega

/-- The text without blanks around it and without the braces that enclose it as a whole, however many
pairs there are. -/
def stripped (t : Text) : Text :=
  match _h : unbraced? (Text.trim t) with
  | none => Text.trim t
  | some inner => stripped inner
termination_by t.length
decreasing_by exact Nat.lt_of_lt_of_le (length_lt_of_unbraced? _h) (Text.length_trim_le t)

theorem length_stripped_le (t : Text) : (stripped t).length ≤ t.length := by
  induction t using stripped.induct with
  | case1 t h => rw [stripped, h]; exact Text.length_trim_le t
  | case2 t inner h ih =>
    rw [stripped, h]
    exact Nat.le_trans ih (Nat.le_trans (Nat.le_of_lt (length_lt_of_unbraced? h)) (Text.length_trim_le t))

end LiveTex.Name

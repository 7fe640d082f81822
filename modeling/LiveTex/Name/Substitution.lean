import LiveTex.Text.Basic

/-!
Putting a replacement in the place of a name wherever the name stands as a whole token: not next to an
ASCII letter on either side. The next occurrence is searched for from where the last one was dealt with.
-/

namespace LiveTex.Name

/-- The text before and after the first occurrence of `name`. -/
def firstOccurrence (name : Text) : Text → Option (Text × Text)
  | [] => if name = [] then some ([], []) else none
  | c :: t => match Text.after? name (c :: t) with
    | some after => some ([], after)
    | none => (firstOccurrence name t).map fun (before, after) => (c :: before, after)

theorem eq_append_of_firstOccurrence {name t before after : Text}
    (h : firstOccurrence name t = some (before, after)) : t = before ++ name ++ after := by
  induction t generalizing before with
  | nil =>
    simp only [firstOccurrence] at h
    split at h
    · next hname => cases h; simp [hname]
    · simp at h
  | cons c t ih =>
    simp only [firstOccurrence] at h
    split at h
    · next rest hrest => cases h; simpa using Text.after?_eq_some_iff.mp hrest
    · obtain ⟨⟨front, rest⟩, hfront, hpair⟩ := Option.map_eq_some_iff.mp h
      cases hpair
      simp [ih hfront]

/-- There is no ASCII letter. -/
def noLetter : Option Char → Bool
  | none => true
  | some c => !c.isAlpha

/-- The text with every whole-token occurrence of `first :: more` replaced, or nothing when there is
none. The character before the text is `previous`. -/
def replaceFrom (first : Char) (more replacement : Text) (previous : Option Char) (t : Text) :
    Option Text :=
  match _h : firstOccurrence (first :: more) t with
  | none => none
  | some (before, after) =>
    if noLetter (before.getLast?.or previous) && noLetter after.head? then
      let rest := replaceFrom first more replacement (first :: more).getLast? after
      some (before ++ replacement ++ rest.getD after)
    else
      let rest := replaceFrom first more replacement (some first) (more ++ after)
      rest.map fun rest => before ++ [first] ++ rest
termination_by t.length
decreasing_by
  all_goals
    rw [eq_append_of_firstOccurrence _h]
    simp only [List.length_append, List.length_cons]
    omega

/-- The text with every whole-token occurrence of the name replaced, or nothing when the text stays as
it is. An empty name occurs nowhere. -/
def replaceWhole? (t name replacement : Text) : Option Text :=
  match name with
  | [] => none
  | first :: more => replaceFrom first more replacement none t

/-- Replaces one name after the other. Each pair sees what the pairs before it have left. -/
def substitute (t : Text) (pairs : List (Text × Text)) : Text :=
  pairs.foldl (fun t (name, replacement) => (replaceWhole? t name replacement).getD t) t

end LiveTex.Name

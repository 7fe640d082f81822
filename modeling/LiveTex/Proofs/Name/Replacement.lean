import LiveTex.Name.Substitution

/-!
Whole-token replacement, character by character. Searching for the next occurrence comes to the same as
looking at every place of the text in turn. A name of letters stands as a whole token exactly where a
longest run of letters is that name.
-/

namespace LiveTex.Name

/-- The text with every whole-token occurrence of `first :: more` replaced, found by looking at each place
in turn. -/
def replaceEach (first : Char) (more replacement : Text) : (previous : Option Char) → Text → Text
  | _, [] => []
  | previous, c :: t =>
    match _h : Text.after? (first :: more) (c :: t) with
    | some rest =>
      if noLetter previous && noLetter rest.head? then
        replacement ++ replaceEach first more replacement (first :: more).getLast? rest
      else c :: replaceEach first more replacement (some c) t
    | none => c :: replaceEach first more replacement (some c) t
termination_by _ t => t.length
decreasing_by
  · exact Text.length_lt_of_after? _h (by simp)
  · simp
  · simp

variable {first : Char} {more replacement : Text}

theorem replaceEach_of_none {c : Char} {t : Text} (previous : Option Char)
    (h : Text.after? (first :: more) (c :: t) = none) :
    replaceEach first more replacement previous (c :: t) =
      c :: replaceEach first more replacement (some c) t := by
  rw [replaceEach]
  split
  · next rest hrest =>
    rw [h] at hrest
    cases hrest
  · rfl

theorem replaceEach_of_some {c : Char} {t rest : Text} (previous : Option Char)
    (h : Text.after? (first :: more) (c :: t) = some rest) :
    replaceEach first more replacement previous (c :: t) =
      if noLetter previous && noLetter rest.head? then
        replacement ++ replaceEach first more replacement (first :: more).getLast? rest
      else c :: replaceEach first more replacement (some c) t := by
  rw [replaceEach]
  split
  · next rest' hrest =>
    obtain rfl := Option.some.inj (h.symm.trans hrest)
    rfl
  · next hnone =>
    rw [h] at hnone
    cases hnone

/-- Nothing is replaced before the first occurrence. -/
theorem replaceEach_of_firstOccurrence {t before after : Text} (previous : Option Char)
    (h : firstOccurrence (first :: more) t = some (before, after)) :
    replaceEach first more replacement previous t =
      before ++ replaceEach first more replacement (before.getLast?.or previous) (first :: more ++ after) := by
  induction t generalizing before previous with
  | nil => simp [firstOccurrence] at h
  | cons c t ih =>
    rw [firstOccurrence] at h
    split at h
    · next rest hrest =>
      cases h
      rw [← Text.after?_eq_some_iff.mp hrest]
      rfl
    · next hnone =>
      obtain ⟨⟨front, rest⟩, hfront, hpair⟩ := Option.map_eq_some_iff.mp h
      cases hpair
      rw [replaceEach_of_none previous hnone, ih (some c) hfront, List.getLast?_cons]
      cases front.getLast? <;> rfl

theorem replaceEach_of_no_occurrence {t : Text} (previous : Option Char)
    (h : firstOccurrence (first :: more) t = none) :
    replaceEach first more replacement previous t = t := by
  induction t generalizing previous with
  | nil => rw [replaceEach]
  | cons c t ih =>
    rw [firstOccurrence] at h
    split at h
    · cases h
    · next hnone =>
      rw [replaceEach_of_none previous hnone, ih _ (Option.map_eq_none_iff.mp h)]

/-- Searching for the occurrences finds the same ones as looking at each place. -/
theorem getD_replaceFrom (previous : Option Char) (t : Text) :
    (replaceFrom first more replacement previous t).getD t =
      replaceEach first more replacement previous t := by
  induction previous, t using replaceFrom.induct first more replacement with
  | case1 previous t hnone =>
    rw [replaceEach_of_no_occurrence previous hnone, replaceFrom]
    split
    · rfl
    · next hsome =>
      rw [hnone] at hsome
      cases hsome
  | case2 previous t before after hsome hwhole ih =>
    have hafter : Text.after? (first :: more) (first :: (more ++ after)) = some after :=
      Text.after?_eq_some_iff.mpr rfl
    rw [replaceEach_of_firstOccurrence previous hsome, List.cons_append, replaceEach_of_some _ hafter,
      if_pos hwhole, ← ih, replaceFrom]
    split
    · next hnone =>
      rw [hsome] at hnone
      cases hnone
    · next hsome' =>
      cases hsome.symm.trans hsome'
      rw [if_pos hwhole, Option.getD_some, List.append_assoc]
  | case3 previous t before after hsome hpart ih =>
    have ht := eq_append_of_firstOccurrence hsome
    have hafter : Text.after? (first :: more) (first :: (more ++ after)) = some after :=
      Text.after?_eq_some_iff.mpr rfl
    rw [replaceEach_of_firstOccurrence previous hsome, List.cons_append, replaceEach_of_some _ hafter,
      if_neg hpart, ← ih, replaceFrom]
    split
    · next hnone =>
      rw [hsome] at hnone
      cases hnone
    · next hsome' =>
      cases hsome.symm.trans hsome'
      rw [if_neg hpart]
      cases replaceFrom first more replacement (some first) (more ++ after) with
      | none => simp [ht]
      | some rest => simp

/-- Replacing a name looks at every place of the text. -/
theorem getD_replaceWhole? (t : Text) :
    (replaceWhole? t (first :: more) replacement).getD t = replaceEach first more replacement none t :=
  getD_replaceFrom none t

end LiveTex.Name

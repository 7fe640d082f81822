import LiveTex.Proofs.Name.Standing

/-!
Whole-token replacement by places. Walking over the places of the text one by one, with every look at the text itself
and none at what was written so far, gives what the search for the next occurrence gives. The search leaves the text
alone exactly when the name stands at no place of it.
-/

namespace LiveTex.Name

/-- The name begins at a place of the text, and no letter is directly before or behind it there. -/
def StandsAt (name t : Text) (place : Nat) : Prop :=
  name <+: t.drop place ∧ noLetter (t.take place).getLast? = true ∧
    noLetter (t.drop (place + name.length)).head? = true

instance (name t : Text) (place : Nat) : Decidable (StandsAt name t place) :=
  inferInstanceAs (Decidable (name <+: t.drop place ∧ _ ∧ _))

/-- What a walk over the text from a place on writes. Where the name stands it writes the replacement and goes on behind
the name, and elsewhere it writes the character and goes on behind that. An empty name is passed over. -/
def walk (name replacement t : Text) (place : Nat) : Text :=
  if _h : place < t.length then
    if _h : name ≠ [] ∧ StandsAt name t place then replacement ++ walk name replacement t (place + name.length)
    else t[place] :: walk name replacement t (place + 1)
  else []
termination_by t.length - place
decreasing_by
  · have hname := List.length_pos_iff.mpr (And.left ‹_›)
    omega
  · omega

variable {name t front back : Text} {first : Char} {more replacement : Text}

theorem standsAt_append (name front back : Text) : StandsAt name (front ++ back) front.length ↔
    ∃ rest, Text.after? name back = some rest ∧ noLetter front.getLast? = true ∧ noLetter rest.head? = true := by
  unfold StandsAt
  rw [List.drop_left, List.take_left, ← List.drop_drop, List.drop_left]
  constructor
  · rintro ⟨⟨rest, rfl⟩, hfront, hrest⟩
    rw [List.drop_left] at hrest
    exact ⟨rest, Text.after?_eq_some_iff.mpr rfl, hfront, hrest⟩
  · rintro ⟨rest, hafter, hfront, hrest⟩
    obtain rfl := Text.after?_eq_some_iff.mp hafter
    rw [List.drop_left]
    exact ⟨List.prefix_append _ _, hfront, hrest⟩

/-- A name stands in a text when it stands at a place of it. -/
theorem stands_iff_exists_place : Stands name t ↔ ∃ place, StandsAt name t place := by
  constructor
  · rintro ⟨front, back, rfl, hfront, hback⟩
    refine ⟨front.length, ?_⟩
    rw [List.append_assoc, standsAt_append]
    exact ⟨back, Text.after?_eq_some_iff.mpr rfl, hfront, hback⟩
  · rintro ⟨place, ⟨back, hback⟩, hbefore, hbehind⟩
    rw [← List.drop_drop, ← hback, List.drop_left] at hbehind
    exact ⟨t.take place, back, by rw [List.append_assoc, hback, List.take_append_drop], hbefore, hbehind⟩

theorem walk_of_standsAt (h : StandsAt (first :: more) (front ++ back) front.length) :
    walk (first :: more) replacement (front ++ back) front.length =
      replacement ++ walk (first :: more) replacement (front ++ back) (front.length + (first :: more).length) := by
  obtain ⟨rest, hafter, -⟩ := (standsAt_append _ _ _).mp h
  obtain rfl := Text.after?_eq_some_iff.mp hafter
  rw [walk, dif_pos (by simp), dif_pos ⟨List.cons_ne_nil _ _, h⟩]

theorem walk_of_not_standsAt {c : Char} (h : ¬ (name ≠ [] ∧ StandsAt name (front ++ c :: back) front.length)) :
    walk name replacement (front ++ c :: back) front.length =
      c :: walk name replacement (front ++ [c] ++ back) (front ++ [c]).length := by
  rw [walk, dif_pos (by simp), dif_neg h]
  simp

/-- Walking over the rest of a text comes to the same as reading that rest, with the character before it in mind. -/
theorem walk_eq_replaceEach (front back : Text) : walk (first :: more) replacement (front ++ back) front.length =
    replaceEach first more replacement front.getLast? back := by
  induction hprevious : front.getLast?, back using replaceEach.induct first more generalizing front with
  | case1 previous => rw [walk, dif_neg (by simp), replaceEach]
  | case2 previous c t rest hafter hwhole ih =>
    subst hprevious
    obtain ⟨hfront, hrest⟩ := Bool.and_eq_true_iff.mp hwhole
    rw [walk_of_standsAt ((standsAt_append _ _ _).mpr ⟨rest, hafter, hfront, hrest⟩), replaceEach_of_some _ hafter,
      if_pos hwhole, ← ih (front ++ first :: more) (by simp [List.getLast?_append, List.getLast?_cons]),
      List.length_append,
      Text.after?_eq_some_iff.mp hafter, List.append_assoc]
  | case3 previous c t rest hafter hpart ih =>
    subst hprevious
    have hnot : ¬ StandsAt (first :: more) (front ++ c :: t) front.length := by
      rw [standsAt_append]
      rintro ⟨rest', hafter', hfront, hrest⟩
      cases hafter.symm.trans hafter'
      exact hpart (Bool.and_eq_true_iff.mpr ⟨hfront, hrest⟩)
    rw [walk_of_not_standsAt (fun h => hnot h.2), replaceEach_of_some _ hafter, if_neg hpart, ih (front ++ [c]) (by simp)]
  | case4 previous c t hnone ih =>
    have hnot : ¬ StandsAt (first :: more) (front ++ c :: t) front.length := by
      rw [standsAt_append]
      rintro ⟨rest, hafter, -⟩
      cases hnone.symm.trans hafter
    rw [walk_of_not_standsAt (fun h => hnot h.2), replaceEach_of_none _ hnone, ih (front ++ [c]) (by simp)]

/-- An empty name is looked for nowhere. -/
theorem walk_nil (replacement front back : Text) : walk [] replacement (front ++ back) front.length = back := by
  induction back generalizing front with
  | nil => rw [walk, dif_neg (by simp)]
  | cons c back ih => rw [walk_of_not_standsAt (fun h => h.1 rfl), ih]

/-- Before the first occurrence of a name there is no other. -/
theorem exists_firstOccurrence (first : Char) (more front back : Text) : ∃ before after,
    firstOccurrence (first :: more) (front ++ first :: more ++ back) = some (before, after) ∧ before <+: front := by
  induction front with
  | nil =>
    have hafter : Text.after? (first :: more) (first :: (more ++ back)) = some back := Text.after?_eq_some_iff.mpr rfl
    exact ⟨[], back, by simp [firstOccurrence, hafter], List.prefix_rfl⟩
  | cons c front ih =>
    obtain ⟨before, after, hfirst, hprefix⟩ := ih
    rw [List.cons_append, List.cons_append, firstOccurrence]
    split
    · next rest hrest => exact ⟨[], rest, rfl, List.nil_prefix⟩
    · exact ⟨c :: before, after, by rw [hfirst]; rfl, List.cons_prefix_cons.mpr ⟨rfl, hprefix⟩⟩

/-- The search leaves a text alone when the name stands nowhere in it, seen together with the character before. -/
theorem replaceFrom_eq_none_iff (previous : Option Char) (t : Text) :
    replaceFrom first more replacement previous t = none ↔ ∀ front back, t = front ++ first :: more ++ back →
      ¬ (noLetter (front.getLast?.or previous) = true ∧ noLetter back.head? = true) := by
  induction previous, t using replaceFrom.induct first more replacement with
  | case1 previous t hnone =>
    refine iff_of_true ?_ ?_
    · rw [replaceFrom]
      split
      · rfl
      · next hsome => cases hnone.symm.trans hsome
    · rintro front back rfl
      obtain ⟨before, after, hsome, -⟩ := exists_firstOccurrence first more front back
      cases hnone.symm.trans hsome
  | case2 previous t before after hsome hwhole ih =>
    refine iff_of_false ?_ fun h => h before after (eq_append_of_firstOccurrence hsome) (Bool.and_eq_true_iff.mp hwhole)
    rw [replaceFrom]
    split
    · next hnone => cases hnone.symm.trans hsome
    · next hsome' =>
      cases hsome.symm.trans hsome'
      rw [if_pos hwhole]
      exact Option.some_ne_none _
  | case3 previous t before after hsome hpart ih =>
    have ht := eq_append_of_firstOccurrence hsome
    have hrest : replaceFrom first more replacement previous t = none ↔
        replaceFrom first more replacement (some first) (more ++ after) = none := by
      rw [replaceFrom]
      split
      · next hnone => cases hnone.symm.trans hsome
      · next hsome' =>
        cases hsome.symm.trans hsome'
        rw [if_neg hpart, Option.map_eq_none_iff]
    have hlast (u : Text) : (before ++ first :: u).getLast?.or previous = u.getLast?.or (some first) := by
      rw [List.getLast?_append, List.getLast?_cons]
      cases u.getLast? <;> rfl
    rw [hrest, ih]
    constructor
    · rintro h front back rfl
      obtain ⟨before', after', hsome', skipped, rfl⟩ := exists_firstOccurrence first more front back
      cases hsome.symm.trans hsome'
      cases skipped with
      | nil =>
        -- This is the occurrence that was found, and it touches a letter.
        simp only [List.append_nil, List.append_assoc, List.append_cancel_left_eq] at ht ⊢
        subst ht
        exact fun hwhole => hpart (Bool.and_eq_true_iff.mpr hwhole)
      | cons d skipped =>
        simp only [List.append_assoc, List.cons_append, List.append_cancel_left_eq, List.cons.injEq] at ht
        obtain ⟨rfl, ht⟩ := ht
        rw [hlast]
        exact h skipped back (by rw [← ht]; simp)
    · intro h front back hsplit
      have hwhole := h (before ++ first :: front) back (by rw [ht]; simp [hsplit])
      rwa [hlast] at hwhole

/-- A text is handed back untouched when the name is empty or stands nowhere. -/
theorem replaceWhole?_eq_none_iff : replaceWhole? t name replacement = none ↔ name = [] ∨ ¬ Stands name t := by
  cases name with
  | nil => exact iff_of_true rfl (.inl rfl)
  | cons first more =>
    rw [replaceWhole?, replaceFrom_eq_none_iff, Stands]
    simp

/-- Replacing a name gives what the walk over the places of the text writes. The text is handed back untouched exactly
when the name is empty or stands at no place. -/
theorem replaceWhole?_walks (t name replacement : Text) :
    (replaceWhole? t name replacement).getD t = walk name replacement t 0 ∧
      (replaceWhole? t name replacement = none ↔ name = [] ∨ ∀ place, ¬ StandsAt name t place) := by
  constructor
  · cases name with
    | nil => exact (walk_nil replacement [] t).symm
    | cons first more =>
      rw [getD_replaceWhole?]
      exact (walk_eq_replaceEach [] t).symm
  · rw [replaceWhole?_eq_none_iff, stands_iff_exists_place, not_exists]

example : replaceWhole? "ba,aa,éa".toList ['a'] ['Q'] = some "ba,aa,éQ".toList := by decide +kernel

end LiveTex.Name

import LiveTex.Proofs.Name.Balance

/-!
Wrappers around a text with balanced braces. They make no difference to its spellings, and the loops that take them off
come to an end.
-/

namespace LiveTex.Name

variable {command t : Text}

/-- A color command whose brace is open leaves the braces unbalanced. -/
theorem not_opensColor_of_balanced (hcommand : command ∈ colorCommands) (h : Balanced (unescaped t)) :
    ¬ OpensColor command t := by
  rintro ⟨front, w, rfl, hw⟩
  obtain ⟨name, rfl⟩ := exists_concat_of_mem_colorCommands hcommand
  have hquiet : ∀ c ∈ w, isQuiet c = true := fun c hc => isQuiet_of_isColorChar (hw c hc)
  have hnone (c : Char) (hc : isQuiet c = false) : c ∉ w := by
    intro hmem
    rw [hquiet c hmem] at hc
    cases hc
  -- The brace stands behind a letter, so no escape takes it away.
  obtain ⟨front', hfront⟩ := exists_unescaped_append_cons (c := 'r') (by decide) (front ++ name) ('{' :: w)
  rw [unescaped_cons (by decide), unescaped_eq_self (hnone '\\' (by decide))] at hfront
  have hsplit : front ++ (name ++ ['r'] ++ '{' :: w) = front ++ name ++ 'r' :: '{' :: w := by simp
  rw [hsplit, hfront] at h
  have hle := h.1 front' (List.prefix_append ..)
  have heq := h.2
  simp only [List.count_append, List.count_cons, List.count_eq_zero_of_not_mem (hnone '{' (by decide)),
    List.count_eq_zero_of_not_mem (hnone '}' (by decide)), beq_iff_eq, Char.reduceEq, ↓reduceIte] at heq
  omega

/-- Nothing behind a text with balanced braces makes a color command of its end. -/
theorem withSpaces_append_of_balanced (hcommand : command ∈ colorCommands) (h : Balanced (unescaped t))
    (hnone : mentions command t = false) {rest : Text} (hrest : Ends rest) :
    withSpaces command (t ++ rest) = t ++ withSpaces command rest := by
  rw [withSpaces_append_of_ends hcommand hrest fun _ => not_opensColor_of_balanced hcommand h,
    withSpaces_of_not_mentions hnone]

theorem clear_of_balanced (h : Balanced (unescaped t)) (hend : endsInEscape t = false)
    (hcolor : ∀ command ∈ colorCommands, mentions command t = false) : Clear t where
  passed := passed_of_balanced h hend
  keeps := fun command hcommand _ hrest => withSpaces_append_of_balanced hcommand h (hcolor command hcommand) hrest

/-- The loop that goes on with `next` comes from `t` to `u` in `n` rounds and stops there. -/
inductive Stops (next : Text → Option Text) : Nat → Text → Text → Prop
  | done {t : Text} (h : next t = none) : Stops next 0 t t
  | round {n : Nat} {t t' u : Text} (h : next t = some t') (hrest : Stops next n t' u) : Stops next (n + 1) t u

/-- A round of the loop that takes off braces. -/
def peeled? (t : Text) : Option Text := (unbraced? t).map Text.trim

/-- A round of the loop that takes out color commands, all of the first kind that is there. -/
def bleached? (t : Text) : Option Text :=
  (colorCommands.find? fun command => mentions command t).map fun command => stripped (withSpaces command t)

/-- Every round takes off two braces. -/
theorem exists_stops_stripped (t : Text) :
    ∃ n, 2 * n + (stripped t).length ≤ t.length ∧ Stops peeled? n (Text.trim t) (stripped t) := by
  induction t using stripped.induct with
  | case1 t h =>
    rw [stripped_of_none h]
    exact ⟨0, by simpa using Text.length_trim_le t, .done (by rw [peeled?, h]; rfl)⟩
  | case2 t inner h ih =>
    obtain ⟨n, hn, hstops⟩ := ih
    rw [stripped_of_unbraced? h]
    refine ⟨n + 1, ?_, .round (by rw [peeled?, h]; rfl) hstops⟩
    have hbraces := congrArg List.length (eq_braced_of_unbraced? h)
    have hle := Text.length_trim_le t
    simp only [List.length_append, List.length_cons, List.length_nil] at hbraces
    omega

/-- Every round makes the text shorter, since a color command is longer than the space written for it. -/
theorem exists_stops_uncolored (t : Text) :
    ∃ n, n + (uncolored t).length ≤ t.length ∧ Stops bleached? n t (uncolored t) := by
  induction t using uncolored.induct with
  | case1 t hcolor ih =>
    obtain ⟨n, hn, hstops⟩ := ih
    rw [uncolored, dif_pos hcolor]
    refine ⟨n + 1, ?_, .round (by simp [bleached?, colorCommands, hcolor]) hstops⟩
    have hshort := length_withSpaces_lt hcolor
    have hle := length_stripped_le (withSpaces color t)
    omega
  | case2 t hcolor htextcolor ih =>
    obtain ⟨n, hn, hstops⟩ := ih
    rw [uncolored, dif_neg hcolor, dif_pos htextcolor]
    refine ⟨n + 1, ?_, .round (by simp [bleached?, colorCommands, hcolor, htextcolor]) hstops⟩
    have hshort := length_withSpaces_lt htextcolor
    have hle := length_stripped_le (withSpaces textcolor t)
    omega
  | case3 t hcolor htextcolor =>
    rw [uncolored, dif_neg hcolor, dif_neg htextcolor]
    exact ⟨0, by simp, .done (by simp [bleached?, colorCommands, hcolor, htextcolor])⟩

/-- A text whose braces are balanced without its escapes keeps both spellings in any number of braces, blanks and color
commands. The two loops stop, with no more rounds than the wrapped text has characters, and what they leave is read as
a row of names. -/
theorem wrappers_keep_spellings {w : Text} (hbalanced : Balanced (unescaped t)) (hend : endsInEscape t = false)
    (hcolor : ∀ command ∈ colorCommands, mentions command t = false) (hw : Wrapped colorCommands t w) :
    (∀ spelling, spelled spelling w = spelled spelling t) ∧
      ∃ m n bare core, m + n ≤ w.length ∧ Stops peeled? m (Text.trim w) bare ∧ Stops bleached? n bare core ∧
        ∀ spelling, spelled spelling w = names spelling core := by
  refine ⟨hw.spelled_eq_spelled (clear_of_balanced hbalanced hend hcolor), ?_⟩
  obtain ⟨m, hm, hpeel⟩ := exists_stops_stripped w
  obtain ⟨n, hn, hbleach⟩ := exists_stops_uncolored (stripped w)
  exact ⟨m, n, stripped w, uncolored (stripped w), by omega, hpeel, hbleach, fun _ => rfl⟩

theorem wrappers_keep_spellings_of_escapes :
    let t : Text := "\\\x7bx_\x7ba\x7d\\ ".toList
    let w : Text := "\x7b \\textcolor\x7bred\x7d\x7b\\color\x7bb_1\x7d\\\x7bx_\x7ba\x7d\\ \x7d \x7d".toList
    Balanced (unescaped t) ∧ endsInEscape t = false ∧ (∀ command ∈ colorCommands, mentions command t = false) ∧
      Wrapped colorCommands t w ∧ ∀ spelling, spelled spelling w = spelled spelling t := by
  intro t w
  have hbalanced : Balanced (unescaped t) := by decide +kernel
  have hend : endsInEscape t = false := by decide +kernel
  have hcolor : ∀ command ∈ colorCommands, mentions command t = false := by decide
  have hinner : Wrapped colorCommands t ('{' :: (color ++ '{' :: "b_1".toList ++ '}' :: t) ++ ['}']) :=
    .braces (.colored (.head _) (List.all_eq_true.mp (by decide)) .core)
  have hcolored := Wrapped.colored (.tail _ (.head _) : textcolor ∈ colorCommands)
    (List.all_eq_true.mp (by decide) : ∀ c ∈ "red".toList, isColorChar c = true) hinner
  have hblank : Text.AllBlank [' '] := List.all_eq_true.mp (by decide)
  have hw : Wrapped colorCommands t w := (hcolored.blanks hblank hblank).braces
  exact ⟨hbalanced, hend, hcolor, hw, (wrappers_keep_spellings hbalanced hend hcolor hw).1⟩

end LiveTex.Name

import LiveTex.Proofs.Name.Escapes
import LiveTex.Proofs.Name.Wrapping
import Mathlib.Data.List.Infix

/-!
Balanced braces. A text without backslashes whose braces are balanced can be cut off in one way only, and taking off
its outer braces leaves such a text. A text with backslashes can be taken out of its braces when its braces are balanced
without its escapes.
-/

namespace LiveTex.Name

/-- No front of the text closes more braces than it opens, and in the end all of them are closed. -/
def Balanced (t : Text) : Prop :=
  (∀ front, front <+: t → front.count '}' ≤ front.count '{') ∧ t.count '{' = t.count '}'

instance : DecidablePred Balanced := fun t =>
  decidable_of_iff ((∀ front ∈ t.inits, front.count '}' ≤ front.count '{') ∧ t.count '{' = t.count '}')
    (by simp only [Balanced, List.mem_inits])

/-- A name without backslashes whose braces are balanced. -/
def IsTidy (name : Text) : Prop := '\\' ∉ name ∧ Balanced name

instance : DecidablePred IsTidy := fun name => inferInstanceAs (Decidable ('\\' ∉ name ∧ Balanced name))

/-- The text has no backslashes, it closes all braces that it opens and `depth` that are open before it, and none of
the marks stands outside braces. -/
inductive Tidy (marks : List Char) : Nat → Text → Prop where
  | nil : Tidy marks 0 []
  | opens {depth : Nat} {t : Text} (h : Tidy marks (depth + 1) t) : Tidy marks depth ('{' :: t)
  | closes {depth : Nat} {t : Text} (h : Tidy marks depth t) : Tidy marks (depth + 1) ('}' :: t)
  | quiet {depth : Nat} {c : Char} {t : Text} (hc : isQuiet c = true) (hmark : depth = 0 → c ∉ marks)
      (h : Tidy marks depth t) : Tidy marks depth (c :: t)

/-- Where a tidy text cannot go on: at its end, before one of the marks, and before a brace that closes nothing. -/
def Bars (marks : List Char) (rest : Text) : Prop := ∀ c ∈ rest.head?, c = '}' ∨ c ∈ marks

theorem bars_cons {marks : List Char} {c : Char} {t : Text} (h : c = '}' ∨ c ∈ marks) : Bars marks (c :: t) := by
  intro d hd
  rw [List.head?_cons, Option.mem_some_iff] at hd
  exact hd ▸ h

theorem forall_prefix_cons {P : Text → Prop} {c : Char} {t : Text} :
    (∀ front, front <+: c :: t → P front) ↔ P [] ∧ ∀ front, front <+: t → P (c :: front) := by
  simp only [List.prefix_cons_iff, forall_eq_or_imp, forall_exists_index, and_imp]
  exact and_congr_right fun _ => ⟨fun h front => h _ front rfl, fun h _ front heq => heq ▸ h front⟩

namespace Tidy

variable {marks : List Char} {depth : Nat} {c : Char} {s s' t r r' : Text}

theorem of_counts (hbackslash : '\\' ∉ t)
    (hfront : ∀ front, front <+: t → front.count '}' ≤ depth + front.count '{')
    (hall : depth + t.count '{' = t.count '}') : Tidy [] depth t := by
  induction t generalizing depth with
  | nil =>
    obtain rfl : depth = 0 := by simpa using hall
    exact .nil
  | cons c t ih =>
    rw [List.mem_cons, not_or] at hbackslash
    obtain ⟨-, hmore⟩ := forall_prefix_cons.mp hfront
    by_cases hopen : c = '{'
    · subst hopen
      refine .opens (ih hbackslash.2 (fun front hprefix => ?_) ?_)
      · have hcount := hmore front hprefix
        simp only [List.count_cons, beq_iff_eq, Char.reduceEq, ↓reduceIte] at hcount
        omega
      · simp only [List.count_cons, beq_iff_eq, Char.reduceEq, ↓reduceIte] at hall
        omega
    · by_cases hclose : c = '}'
      · subst hclose
        obtain ⟨depth, rfl⟩ : ∃ n, depth = n + 1 := by
          have hcount := hmore [] List.nil_prefix
          simp only [List.count_cons, List.count_nil, beq_iff_eq, Char.reduceEq, ↓reduceIte] at hcount
          exact Nat.exists_eq_add_of_le' hcount
        refine .closes (ih hbackslash.2 (fun front hprefix => ?_) ?_)
        · have hcount := hmore front hprefix
          simp only [List.count_cons, beq_iff_eq, Char.reduceEq, ↓reduceIte] at hcount
          omega
        · simp only [List.count_cons, beq_iff_eq, Char.reduceEq, ↓reduceIte] at hall
          omega
      · refine .quiet (isQuiet_iff.mpr ⟨Ne.symm hbackslash.1, hopen, hclose⟩) (by simp)
          (ih hbackslash.2 (fun front hprefix => ?_) ?_)
        · have hcount := hmore front hprefix
          rwa [List.count_cons_of_ne hopen, List.count_cons_of_ne hclose] at hcount
        · rwa [List.count_cons_of_ne hopen, List.count_cons_of_ne hclose] at hall

theorem of_isTidy (h : IsTidy t) : Tidy [] 0 t := of_counts h.1 (by simpa using h.2.1) (by simpa using h.2.2)

theorem ne_backslash (h : Tidy marks depth t) : ∀ c ∈ t, c ≠ '\\' := by
  induction h with
  | nil => simp
  | opens _ ih | closes _ ih => simpa using ih
  | quiet hc _ _ ih => simpa using ⟨ne_backslash_of_isQuiet hc, ih⟩

/-- One character outside braces is no brace. -/
theorem isQuiet_of_singleton (h : Tidy marks 0 [c]) : isQuiet c = true := by
  cases h with
  | opens h => cases h
  | quiet hc => exact hc

/-- A tidy text can be cut off in one way only. -/
theorem append_inj (hs : Tidy marks depth s) (hs' : Tidy marks depth s') (hr : Bars marks r) (hr' : Bars marks r')
    (hbrace : '{' ∉ marks) (h : s ++ r = s' ++ r') : s = s' ∧ r = r' := by
  -- Nothing tidy outside braces begins where the other text has ended.
  have hended {u v : Text} (hu : Tidy marks 0 u) (hv : Bars marks (u ++ v)) : u = [] := by
    cases hu with
    | nil => rfl
    | opens =>
      obtain hclose | hmark := hv '{' rfl
      · cases hclose
      · exact absurd hmark hbrace
    | quiet hc hmark =>
      obtain rfl | hmem := hv _ rfl
      · cases hc
      · exact absurd hmem (hmark rfl)
  induction hs generalizing s' with
  | nil =>
    rw [List.nil_append] at h
    obtain rfl := hended hs' (h ▸ hr)
    exact ⟨rfl, h⟩
  | @opens depth t _ ih =>
    cases hs' with
    | nil => exact absurd (hended (.opens ‹_›) (h ▸ hr' : Bars marks ('{' :: t ++ r))) (by simp)
    | opens hs' =>
      obtain ⟨rfl, hrest⟩ := ih hs' (List.tail_eq_of_cons_eq h)
      exact ⟨rfl, hrest⟩
    | closes => cases h
    | quiet hc =>
      obtain rfl := List.head_eq_of_cons_eq h
      cases hc
  | closes _ ih =>
    cases hs' with
    | opens => cases h
    | closes hs' =>
      obtain ⟨rfl, hrest⟩ := ih hs' (List.tail_eq_of_cons_eq h)
      exact ⟨rfl, hrest⟩
    | quiet hc =>
      obtain rfl := List.head_eq_of_cons_eq h
      cases hc
  | @quiet depth c t hc hmark ht ih =>
    cases hs' with
    | nil => exact absurd (hended (.quiet hc hmark ht) (h ▸ hr' : Bars marks (c :: t ++ r))) (by simp)
    | opens | closes =>
      obtain rfl := List.head_eq_of_cons_eq h
      cases hc
    | quiet _ _ hs' =>
      obtain rfl := List.head_eq_of_cons_eq h
      obtain ⟨rfl, hrest⟩ := ih hs' (List.tail_eq_of_cons_eq h)
      exact ⟨rfl, hrest⟩

theorem of_append_left (hfront : ∀ c ∈ s, isQuiet c = true) (h : Tidy marks depth (s ++ t)) : Tidy marks depth t := by
  induction s with
  | nil => exact h
  | cons c s ih =>
    have hc := hfront c (List.mem_cons_self ..)
    cases h with
    | opens | closes => cases hc
    | quiet _ _ h => exact ih (fun d hd => hfront d (List.mem_cons_of_mem _ hd)) h

theorem of_append_right (hback : ∀ c ∈ t, isQuiet c = true) (h : Tidy marks depth (s ++ t)) : Tidy marks depth s := by
  induction s generalizing depth with
  | nil =>
    have hnil := of_append_left (t := []) hback (by simpa using h)
    exact hnil
  | cons c s ih =>
    cases h with
    | opens h => exact .opens (ih h)
    | closes h => exact .closes (ih h)
    | quiet hc hmark h => exact .quiet hc hmark (ih h)

theorem trim (h : Tidy marks depth t) : Tidy marks depth (Text.trim t) := by
  obtain ⟨front, back, hfront, hback, ht⟩ := Text.exists_blanks_around t
  rw [ht] at h
  exact of_append_left (fun c hc => isQuiet_of_isBlank (hfront c hc))
    (of_append_right (fun c hc => isQuiet_of_isBlank (hback c hc)) h)

theorem trimStart (h : Tidy marks depth t) : Tidy marks depth (Text.trimStart t) := by
  rw [← List.takeWhile_append_dropWhile (p := Text.isBlank) (l := t)] at h
  exact of_append_left (fun c hc => isQuiet_of_isBlank (List.mem_takeWhile_imp hc)) h

/-- What stands before the closing brace closes all groups, when escapes do not count. -/
theorem of_untilClosing (h : untilClosing depth s = some t) :
    Tidy [] depth (unescaped t) ∧ endsInEscape t = false := by
  fun_induction untilClosing depth s generalizing t with
  | case1 | case2 | case6 => cases h
  | case3 depth c s ih =>
    obtain ⟨inner, hinner, rfl⟩ := Option.map_eq_some_iff.mp h
    rw [unescaped_escape, endsInEscape_escape]
    exact ih hinner
  | case4 depth s _ ih =>
    obtain ⟨inner, hinner, rfl⟩ := Option.map_eq_some_iff.mp h
    rw [unescaped_cons (by decide), endsInEscape_cons (by decide)]
    exact ⟨.opens (ih hinner).1, (ih hinner).2⟩
  | case5 =>
    cases h
    exact ⟨.nil, rfl⟩
  | case7 s _ _ depth ih =>
    obtain ⟨inner, hinner, rfl⟩ := Option.map_eq_some_iff.mp h
    rw [unescaped_cons (by decide), endsInEscape_cons (by decide)]
    exact ⟨.closes (ih hinner).1, (ih hinner).2⟩
  | case8 depth c s hcommand hopen hclose ih =>
    obtain ⟨inner, hinner, rfl⟩ := Option.map_eq_some_iff.mp h
    rw [unescaped_cons hcommand, endsInEscape_cons hcommand]
    exact ⟨.quiet (isQuiet_iff.mpr ⟨hcommand, hopen, hclose⟩) (by simp) (ih hinner).1, (ih hinner).2⟩

theorem of_unbraced? (hs : Tidy marks depth s) (h : unbraced? s = some t) : Tidy [] 0 t := by
  have hbackslash : '\\' ∉ t := by
    intro hmem
    apply hs.ne_backslash '\\' _ rfl
    rw [eq_braced_of_unbraced? h]
    simp [hmem]
  unfold unbraced? at h
  split at h
  · have htidy := (of_untilClosing h).1
    rwa [unescaped_eq_self hbackslash] at htidy
  · cases h

/-- The search for a closing brace passes over a text that closes `depth` groups without its escapes. -/
theorem untilClosing_append (h : Tidy [] depth (unescaped t)) (hend : endsInEscape t = false) (outer : Nat)
    (rest : Text) : untilClosing (depth + outer) (t ++ rest) = (untilClosing outer rest).map (t ++ ·) := by
  induction t using unescaped.induct generalizing depth with
  | case1 =>
    cases h
    simp
  | case2 => cases hend
  | case3 c t ih =>
    rw [List.cons_append, List.cons_append, untilClosing.eq_def]
    simp only [↓reduceIte]
    rw [ih h hend, Option.map_map]
    rfl
  | case4 c t hc ih =>
    rw [endsInEscape_cons hc] at hend
    rw [unescaped_cons hc] at h
    rw [List.cons_append, untilClosing.eq_def]
    cases h with
    | opens h =>
      have ih := ih h hend
      rw [Nat.add_right_comm] at ih
      simp [ih, Function.comp_def]
    | closes h =>
      rw [Nat.add_right_comm]
      simp [ih h hend, Function.comp_def]
    | quiet hquiet _ h =>
      obtain ⟨-, hopen, hclose⟩ := isQuiet_iff.mp hquiet
      simp [hc, hopen, hclose, ih h hend, Function.comp_def]

theorem append {outer : Nat} (hs : Tidy marks depth s) (ht : Tidy marks outer t) :
    Tidy marks (depth + outer) (s ++ t) := by
  induction hs with
  | nil => rwa [Nat.zero_add]
  | opens _ ih =>
    rw [Nat.add_right_comm] at ih
    exact .opens ih
  | closes _ ih =>
    rw [Nat.add_right_comm]
    exact .closes ih
  | quiet hc hmark _ ih => exact .quiet hc (fun hdepth => hmark (Nat.eq_zero_of_add_eq_zero_right hdepth)) ih

/-- Before and behind each front the groups are counted. -/
theorem counts (h : Tidy marks depth t) :
    (∀ front, front <+: t → front.count '}' ≤ depth + front.count '{') ∧ depth + t.count '{' = t.count '}' := by
  induction h with
  | nil => simp
  | opens _ ih | closes _ ih =>
    simp only [forall_prefix_cons, List.count_cons, beq_iff_eq, Char.reduceEq, ↓reduceIte]
    refine ⟨⟨by simp, fun front hfront => ?_⟩, ?_⟩
    · have hcount := ih.1 front hfront
      omega
    · have hcount := ih.2
      omega
  | quiet hc _ _ ih =>
    obtain ⟨-, hopen, hclose⟩ := isQuiet_iff.mp hc
    simpa only [forall_prefix_cons, List.count_cons_of_ne hopen, List.count_cons_of_ne hclose, List.count_nil,
      Nat.zero_le, true_and] using ih

theorem balanced (h : Tidy marks 0 t) : Balanced t := by simpa [Balanced] using h.counts

theorem stripped (h : Tidy [] 0 t) : Tidy [] 0 (stripped t) := by
  induction t using stripped.induct with
  | case1 t hnone =>
    rw [stripped_of_none hnone]
    exact h.trim
  | case2 t inner hsome ih =>
    rw [stripped_of_unbraced? hsome]
    exact ih (h.trim.of_unbraced? hsome)

/-- Without backslashes there are no color commands. -/
theorem uncolored_eq (h : Tidy marks depth t) : uncolored t = t := by
  apply uncolored_eq_self
  intro command hcommand
  apply mentions_eq_false_of_withSpaces
  have happend := withSpaces_append [] hcommand h.ne_backslash
  rwa [withSpaces, List.append_nil] at happend

end Tidy

section

variable {t : Text}

theorem tidy_unescaped (h : Balanced (unescaped t)) : Tidy [] 0 (unescaped t) := .of_isTidy ⟨not_mem_unescaped t, h⟩

/-- A text whose braces are balanced without its escapes can stand in braces. -/
theorem passed_of_balanced (h : Balanced (unescaped t)) (hend : endsInEscape t = false) : Passed t := by
  intro depth rest
  simpa using (tidy_unescaped h).untilClosing_append hend depth rest

theorem Tidy.passed (h : Tidy [] 0 t) : Passed t := by
  have hbackslash : '\\' ∉ t := fun hmem => h.ne_backslash '\\' hmem rfl
  apply passed_of_balanced
  · rw [unescaped_eq_self hbackslash]
    exact h.balanced
  · exact endsInEscape_eq_false hbackslash

/-- A text is found in its braces exactly when its braces are balanced without its escapes and it does not end in one. -/
theorem unbraced?_braced_iff :
    unbraced? ('{' :: t ++ ['}']) = some t ↔ Balanced (unescaped t) ∧ endsInEscape t = false := by
  constructor
  · intro h
    obtain ⟨htidy, hend⟩ := Tidy.of_untilClosing h
    exact ⟨htidy.balanced, hend⟩
  · intro ⟨h, hend⟩
    exact (passed_of_balanced h hend).unbraced?_braces

/-- Otherwise the braces enclose nothing. -/
theorem unbraced?_braced_eq_none_iff :
    unbraced? ('{' :: t ++ ['}']) = none ↔ ¬ (Balanced (unescaped t) ∧ endsInEscape t = false) := by
  rw [← unbraced?_braced_iff]
  constructor
  · intro hnone hsome
    rw [hnone] at hsome
    cases hsome
  · intro hnot
    rw [Option.eq_none_iff_forall_ne_some]
    intro inner hinner
    have hself : inner = t := by simpa using (eq_braced_of_unbraced? hinner).symm
    exact hnot (hself ▸ hinner)

end

end LiveTex.Name

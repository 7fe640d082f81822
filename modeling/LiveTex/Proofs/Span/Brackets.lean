import Mathlib
import LiveTex.Proofs.Pattern.Matches
import LiveTex.Proofs.Span.Places

/-!
Mathematics between brackets. What the two search patterns for brackets find stands between a backslash with the
opening bracket and a backslash with the closing one, is not empty, and does not end with a backslash.
-/

namespace LiveTex

theorem CharSet.has_single {c d : Char} : (single c).has d = true ↔ d = c := by
  rw [single, has_range, decide_eq_true_eq]
  exact ⟨fun h => Char.le_antisymm h.2 h.1, fun h => h ▸ ⟨Char.le_refl _, Char.le_refl _⟩⟩

theorem CharSet.has_compl_single {c d : Char} : (single c).compl.has d = true ↔ d ≠ c := by
  rw [has_compl, Bool.not_eq_true', Bool.eq_false_iff, ne_eq, has_single]

namespace Pattern

/-- An occurrence that a search has found, with any gap in front of it. -/
def Found (program : Array Instr) (o : Occurrence) : Prop :=
  ∃ before t hit gap, search program before t = some hit ∧
    o = { hit.occurrence ((t.drop hit.start).take hit.length) with gap }

section

variable {program : Array Instr}

theorem found_of_mem_behind (front : Text) {cut : Cut} (h : ∀ o ∈ cut.occurrences, Found program o) :
    ∀ o ∈ (cut.behind front).occurrences, Found program o := by
  obtain ⟨os, rest⟩ := cut
  cases os with
  | nil => exact h
  | cons u os =>
    intro o ho
    obtain rfl | ho := List.mem_cons.mp ho
    · obtain ⟨before, t, hit, gap, hsearch, rfl⟩ := h u (.head _)
      exact ⟨before, t, hit, front ++ gap, hsearch, rfl⟩
    · exact h o (.tail _ ho)

theorem found_of_mem_found {o : Occurrence} {cut : Cut} (ho : Found program o)
    (h : ∀ u ∈ cut.occurrences, Found program u) : ∀ u ∈ (cut.found o).occurrences, Found program u :=
  List.forall_mem_cons.mpr ⟨ho, h⟩

theorem found_of_search {before : Option Char} {t whole : Text} {hit : Hit} (h : search program before t = some hit)
    (hwhole : (t.drop hit.start).take hit.length = whole) : Found program (hit.occurrence whole) :=
  ⟨before, t, hit, [], h, by rw [hwhole, ← Hit.gap_occurrence hit whole]⟩

theorem found_of_mem_occurrencesFrom (afterHit : Bool) (before : Option Char) (t : Text) :
    ∀ o ∈ (occurrencesFrom program afterHit before t).occurrences, Found program o := by
  fun_induction occurrencesFrom program afterHit before t with
  | case1 => exact List.forall_mem_nil _
  | case2 afterHit before t hit hsearch counts hrest hcounts =>
    refine found_of_mem_behind t (List.forall_mem_singleton.mpr (found_of_search hsearch ?_))
    rw [hrest, List.take_nil]
  | case3 => exact List.forall_mem_nil _
  | case4 afterHit before t hit hsearch counts c rest hrest cut ihEmpty ih =>
    apply found_of_mem_behind
    by_cases hlength : hit.length = 0
    · have hlater := found_of_mem_behind [c] ihEmpty
      have hempty := found_of_search hsearch (show (t.drop hit.start).take hit.length = [] by rw [hlength]; rfl)
      by_cases hcounts : counts = true
      · simpa only [cut, dif_pos hlength, dif_pos hcounts] using found_of_mem_found hempty hlater
      · simpa only [cut, dif_pos hlength, dif_neg hcounts] using hlater
    · have hfirst := found_of_search hsearch (congrArg (List.take hit.length) hrest)
      simpa only [cut, dif_neg hlength] using found_of_mem_found hfirst (ih hlength)

theorem found_of_mem_occurrences (t : Text) : ∀ o ∈ (occurrences program t).occurrences, Found program o := by
  unfold occurrences
  split
  · exact List.forall_mem_nil _
  · exact found_of_mem_occurrencesFrom false none t

end

/-- A backslash with an opening character, the least that ends with no backslash and then with a backslash and a closing
character, both of which follow. No line ends before the last character. -/
def enclosed (opening closing : Char) : Pattern :=
  .seq (.char (.single '\\')) (.seq (.char (.single opening)) (.seq
    (.group 1 (.seq (.repeated (.char (CharSet.single '\n').compl) 0 none false) (.char (CharSet.single '\\').compl)))
    (.seq (.char (.single '\\')) (.char (.single closing)))))

/-- What stands between the brackets. -/
theorem exists_of_matches_enclosed {before : Option Char} {t : Text} {opening closing : Char} {start : Nat}
    {τ : Progress} (h : Matches before t (enclosed opening closing) ⟨start, none, none⟩ τ) :
    ∃ front c rest, '\n' ∉ front ∧ c ≠ '\\' ∧
      t.drop start = ['\\', opening] ++ (front ++ [c]) ++ ['\\', closing] ++ rest ∧
      τ = ⟨start + 2 + (front.length + 1) + 2, some (start + 2), some (start + 2 + (front.length + 1))⟩ := by
  obtain ⟨_, hmark, _, hopening, _, ⟨_, ⟨_, ⟨count, -, -, hbody⟩, hlast⟩, rfl⟩, _, hescape, hclosing⟩ := h
  obtain ⟨_, hmarked, hdrop, rfl⟩ := exists_of_matches_char hmark
  obtain ⟨_, hopened, hdrop₁, rfl⟩ := exists_of_matches_char hopening
  obtain ⟨front, hfront, hdrop₂, rfl⟩ := exists_of_rounds_char hbody
  obtain ⟨c, hc, hdrop₃, rfl⟩ := exists_of_matches_char hlast
  obtain ⟨_, hescaped, hdrop₄, rfl⟩ := exists_of_matches_char hescape
  obtain ⟨_, hclosed, hdrop₅, rfl⟩ := exists_of_matches_char hclosing
  rw [CharSet.has_single] at hmarked hopened hescaped hclosed
  subst hmarked hopened hescaped hclosed
  refine ⟨front, c, t.drop (start + 1 + 1 + front.length + 1 + 1 + 1), ?_, ?_, ?_, ?_⟩
  · exact fun hmem => CharSet.has_compl_single.mp (hfront _ hmem) rfl
  · exact CharSet.has_compl_single.mp hc
  · simp only at hdrop hdrop₁ hdrop₂ hdrop₃ hdrop₄ hdrop₅
    rw [hdrop, hdrop₁, hdrop₂, hdrop₃, hdrop₄, hdrop₅]
    simp
  · simp only [Progress.mk.injEq, Option.some.injEq, true_and]
    omega

/-- The first group splits what is found. -/
theorem Hit.occurrence_of_group {hit : Hit} {front inside back : Text}
    (h : hit.group = some (front.length, (front ++ inside).length)) :
    hit.occurrence (front ++ inside ++ back) = ⟨[], front, inside, back⟩ := by
  simp [Hit.occurrence, h]

/-- The pieces of what a search for brackets finds. -/
theorem exists_of_found_enclosed {opening closing : Char} {o : Occurrence}
    (h : Found (enclosed opening closing).program o) :
    ∃ front c, '\n' ∉ front ∧ c ≠ '\\' ∧
      o = ⟨o.gap, ['\\', opening], front ++ [c], ['\\', closing]⟩ := by
  obtain ⟨before, t, hit, gap, hsearch, rfl⟩ := h
  obtain ⟨τ, hmatches, hhit⟩ := matches_of_search hsearch
  obtain ⟨front, c, rest, hline, hlast, hdrop, rfl⟩ := exists_of_matches_enclosed hmatches
  refine ⟨front, c, hline, hlast, ?_⟩
  have hlength : hit.length = (['\\', opening] ++ (front ++ [c]) ++ ['\\', closing]).length := by
    rw [hhit]
    simp only [Thread.hit, List.length_append, List.length_cons, List.length_nil]
    omega
  have hgroup : hit.group = some (['\\', opening].length, (['\\', opening] ++ (front ++ [c])).length) := by
    rw [hhit]
    simp only [Thread.hit, List.length_append, List.length_cons, List.length_nil, Option.some.injEq, Prod.mk.injEq]
    omega
  have hwhole : (t.drop hit.start).take hit.length = ['\\', opening] ++ (front ++ [c]) ++ ['\\', closing] := by
    rw [hdrop, hlength, List.take_left]
  rw [hwhole, Hit.occurrence_of_group hgroup]

end Pattern

/-- The mathematics of a display mode between brackets. -/
structure Bracketed (mode : DisplayMode) (o : Occurrence) : Prop where
  opening : o.opening = Delimiters.bracket.literal mode .start
  closing : o.closing = Delimiters.bracket.literal mode .stop
  content : ∃ front c, o.latex = front ++ [c] ∧ '\n' ∉ front ∧ c ≠ '\\'

/-- The pattern for the brackets of a display mode. -/
def DisplayMode.bracketPattern : DisplayMode → Pattern
  | .inline => .enclosed '(' ')'
  | .block => .enclosed '[' ']'

theorem bracketed_of_found {mode : DisplayMode} {o : Occurrence} (h : Pattern.Found mode.bracketPattern.program o) :
    Bracketed mode o := by
  cases mode with
  | inline | block =>
    obtain ⟨front, c, hline, hlast, heq⟩ := Pattern.exists_of_found_enclosed h
    rw [heq]
    exact ⟨rfl, rfl, front, c, rfl, hline, hlast⟩

namespace Scanner

/-- Looks for mathematics between brackets. -/
def bracket : Scanner where
  inline := some fun _ t => Pattern.occurrences (DisplayMode.bracketPattern .inline).program t
  block := some fun _ t => Pattern.occurrences (DisplayMode.bracketPattern .block).program t

theorem read_bracketInline : Pattern.read bracketInline = .ok (DisplayMode.bracketPattern .inline) := by
  cbv

theorem read_bracketBlock : Pattern.read bracketBlock = .ok (DisplayMode.bracketPattern .block) := by
  cbv

theorem new_bracket : new .bracket = .ok bracket := by
  simp only [new, ofPattern, read_bracketInline, read_bracketBlock]
  rfl

/-- Every span between brackets is made of mathematics that the text holds in its place. -/
theorem exists_bracketed_of_mem_scan {t : Text} {span : Span} (h : span ∈ bracket.scan t) :
    ∃ o, Bracketed span.display o ∧ MadeOf t span o := by
  apply exists_madeOf_of_mem_scan (cuts_of_new new_bracket) _ _ h
  · rintro _ ⟨⟩ before t o ho
    exact bracketed_of_found (Pattern.found_of_mem_occurrences t o ho)
  · rintro _ ⟨⟩ before t o ho
    exact bracketed_of_found (Pattern.found_of_mem_occurrences t o ho)

end Scanner

end LiveTex

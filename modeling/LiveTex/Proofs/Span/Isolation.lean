import LiveTex.Proofs.Span.Places
import LiveTex.Proofs.Text.Blank
import LiveTex.Span.Node

/-!
Mathematics between dollars, written back and read again. A span takes up its dollars, its source, and the `=` that
asks for the result, so nothing of the text is lost. What is written back is found on its own as it was in the text.
-/

namespace LiveTex

open Text (bytes)

namespace Dollar

variable {mode : DisplayMode} {o : Occurrence}

theorem Encloses.whole_eq (h : Encloses mode o) : o.whole = mode.dollars ++ o.latex ++ mode.dollars := by
  rw [Occurrence.whole, h.opening, h.closing]

/-- The content in a line begins and ends as it may. -/
theorem content_of_inline? {before : Option Char} {t content rest : Text} (h : inline? before t = some (content, rest)) :
    content.head?.any begins = true ∧ content.getLast?.any ends = true := by
  simp only [inline?, Option.bind_eq_bind, Option.bind_eq_some_iff] at h
  obtain ⟨body, -, h⟩ := h
  split at h
  · cases h
  · next hopen =>
    have hends := ends_of_untilDollar h
    rw [Option.or_none] at hends
    refine ⟨?_, hends⟩
    rw [eq_append_of_untilDollar h] at hopen
    cases content with
    | nil => simp at hends
    | cons c content =>
      have hhead : ¬before = some '$' ∧ begins c = true := by simpa using hopen
      exact hhead.2

/-- No blanks stand around the content, so all of it is the source. -/
theorem Encloses.source_eq (h : Encloses mode o) : mode.source o.latex = o.latex := by
  cases mode with
  | block => rfl
  | inline =>
    obtain ⟨before, t, rest, hfound⟩ := h.found
    obtain ⟨hbegins, hends⟩ := content_of_inline? hfound
    apply Text.trim_eq_self
    constructor
    · intro c hc
      rw [Option.mem_def] at hc
      rw [hc, Option.any_some] at hbegins
      simp_all [begins]
    · intro c hc
      rw [Option.mem_def] at hc
      rw [hc, Option.any_some] at hends
      simp_all [ends]

/-- Where the text ends with the mathematics, the mathematics is all that is found. -/
theorem Encloses.cut_whole (h : Encloses mode o) :
    cut mode none o.whole = ⟨[⟨[], mode.dollars, o.latex, mode.dollars⟩], []⟩ := by
  obtain ⟨before, t, rest, hfound⟩ := h.found
  have hhead : head? mode none (mode.dollars ++ o.latex ++ mode.dollars ++ []) = some (o.latex, []) := by
    cases mode with
    | inline => exact inline?_append hfound []
    | block => exact block?_append hfound []
  rw [List.append_nil, ← h.whole_eq] at hhead
  obtain ⟨c, tail, hwhole⟩ : ∃ c tail, o.whole = c :: tail := by
    rw [h.whole_eq]
    cases mode <;> exact ⟨_, _, rfl⟩
  rw [hwhole] at hhead ⊢
  rw [cut_of_some hhead, cut_nil]
  rfl

/-- Mathematics in a line holds no block. -/
theorem Encloses.blocks_whole (h : Encloses .inline o) : blocks o.whole = .none o.whole := by
  obtain ⟨before, t, rest, hfound⟩ := h.found
  simp only [head?, inline?, Option.bind_eq_bind, Option.bind_eq_some_iff] at hfound
  obtain ⟨body, -, hfound⟩ := hfound
  split at hfound
  · cases hfound
  · apply blocks_eq_none
    intro front back hpair
    rw [h.whole_eq] at hpair
    cases front with
    | nil =>
      have hrest : o.latex ++ ['$'] = '$' :: back := (List.cons.inj hpair).2
      have hhead := head?_of_untilDollar hfound
      cases hlatex : o.latex with
      | nil =>
        rw [hlatex] at hrest
        exact (List.cons.inj hrest).2.symm
      | cons c latex =>
        rw [hlatex] at hrest hhead
        exact absurd (congrArg some (List.cons.inj hrest).1) hhead
    | cons c front => exact eq_nil_of_pair_of_untilDollar hfound (List.cons.inj hpair).2

end Dollar

namespace Scanner

theorem inlineSpans_dollar (offset : Nat) (before : Option Char) (t : Text) :
    dollar.inlineSpans offset before t = spans .inline offset (Dollar.cut .inline before t).occurrences := rfl

theorem blockCut_dollar (t : Text) : dollar.blockCut t = Dollar.cut .block none t := rfl

/-- A scan of mathematics on its own finds the mathematics and nothing else. -/
theorem scan_whole {mode : DisplayMode} {o : Occurrence} (h : Dollar.Encloses mode o) :
    dollar.scan o.whole = (span? mode 0 ⟨[], mode.dollars, o.latex, mode.dollars⟩).toList := by
  have hcut := h.cut_whole
  rw [scan_eq, blockCut_dollar]
  cases mode with
  | inline =>
    have hblocks : Dollar.cut .block none o.whole = .none o.whole := h.blocks_whole
    rw [hblocks, Cut.none, around, inlineSpans_dollar, hcut, spans, spans, List.append_nil]
  | block =>
    simp only [hcut, around, inlineSpans_dollar, Dollar.cut_nil, Cut.none, spans, List.nil_append, List.append_nil]

/-- Every span between dollars is made of mathematics that the text holds in its place. -/
theorem exists_encloses_of_mem_scan {t : Text} {span : Span} (h : span ∈ dollar.scan t) :
    ∃ o, Dollar.Encloses span.display o ∧ MadeOf t span o := by
  apply exists_madeOf_of_mem_scan cuts_dollar _ _ h
  · rintro _ ⟨⟩ before t
    exact Dollar.encloses_of_mem_cut .inline before t
  · rintro _ ⟨⟩ before t
    exact Dollar.encloses_of_mem_cut .block before t

/-- A scan for dollars loses nothing: the bytes of a span are its dollars around its source, with the `=` that asks for
the result. A span without that is what is written back for it, and a scan of what is written back finds the same span
and nothing else. -/
theorem dollar_spans_are_written_back {s : Scanner} (hnew : new .dollar = .ok s) {t : Text} {span : Span}
    (h : span ∈ s.scan t) :
    t.slice? span.start span.stop = some (span.display.dollars ++ span.latex ++
        (if span.showResult then ['='] else []) ++ span.display.dollars) ∧
      (span.showResult = false →
        t.slice? span.start span.stop = some ((Node.ofSpan span).delimited .dollar) ∧
        s.scan ((Node.ofSpan span).delimited .dollar) =
          [⟨0, bytes ((Node.ofSpan span).delimited .dollar), span.latex, span.display, false⟩]) := by
  cases hnew
  obtain ⟨o, hencloses, hmade⟩ := exists_encloses_of_mem_scan h
  have hslice := hmade.slice?_eq
  obtain ⟨front, back, -, hspan⟩ := hmade
  obtain ⟨hlatex, heq⟩ := span?_eq_some_iff.mp hspan
  rw [hencloses.source_eq] at heq
  have hsplit := splitResult_eq o.latex
  have hfirst : (splitResult o.latex).1 = span.latex := by rw [heq]
  have hsecond : (splitResult o.latex).2 = span.showResult := by rw [heq]
  rw [hfirst, hsecond] at hsplit
  constructor
  · rw [hslice, hencloses.whole_eq, hsplit]
    simp
  · intro hshow
    rw [hshow] at hsplit hsecond
    have hsource : span.latex = o.latex := by simpa using hsplit.symm
    have hdelimited : (Node.ofSpan span).delimited .dollar = o.whole := by
      rw [hencloses.whole_eq, Node.delimited, Node.source]
      simp [Node.ofSpan, hsource, hlatex, Delimiters.literal]
    rw [hdelimited]
    refine ⟨hslice, ?_⟩
    have halone : span? span.display 0 ⟨[], span.display.dollars, o.latex, span.display.dollars⟩ =
        some ⟨0, bytes o.whole, span.latex, span.display, false⟩ := by
      rw [span?_eq_some_iff, hencloses.source_eq, hfirst, hsecond]
      refine ⟨hlatex, ?_⟩
      rw [hencloses.whole_eq]
      simp [Occurrence.whole]
    rw [scan_whole hencloses, halone]
    rfl

theorem dollar_spans_are_written_back_of_escape :
    let t : Text := "é$a\\$$ and $$b$c$$, $d=$".toList
    let span : Span := ⟨2, 7, "a\\$".toList, .inline, false⟩
    new .dollar = .ok dollar ∧ span ∈ dollar.scan t ∧ t.slice? 2 7 = some "$a\\$$".toList ∧
      dollar.scan "$a\\$$".toList = [⟨0, 5, "a\\$".toList, .inline, false⟩] := by
  intro t span
  have hmem : span ∈ dollar.scan t := by decide +kernel
  obtain ⟨-, hback⟩ := dollar_spans_are_written_back rfl hmem
  exact ⟨rfl, hmem, hback rfl⟩

end Scanner

end LiveTex

import LiveTex.Proofs.Span.Brackets
import LiveTex.Proofs.Span.Isolation

/-!
Spans with an empty source. Delimiters with nothing between them are passed over. Whether anything is left of the
mathematics is not looked at again when the blanks around it and the `=` behind it are gone.
-/

namespace LiveTex

open Text (AllBlank)

/-- An occurrence between the delimiters of a display mode. Dollars stand close to the mathematics. -/
structure Delimited (d : Delimiters) (mode : DisplayMode) (o : Occurrence) : Prop where
  opening : o.opening = d.literal mode .start
  closing : o.closing = d.literal mode .stop
  close : d = .dollar → mode.source o.latex = o.latex

variable {d : Delimiters} {mode : DisplayMode} {o : Occurrence}

theorem Dollar.Encloses.delimited (h : Encloses mode o) : Delimited .dollar mode o where
  opening := h.opening
  closing := h.closing
  close _ := h.source_eq

theorem Bracketed.delimited (h : Bracketed mode o) : Delimited .bracket mode o where
  opening := h.opening
  closing := h.closing
  close := nofun

theorem Delimited.whole_eq (h : Delimited d mode o) :
    o.whole = d.literal mode .start ++ o.latex ++ d.literal mode .stop := by
  rw [Occurrence.whole, h.opening, h.closing]

namespace Scanner

variable {s : Scanner} {t : Text} {span : Span}

theorem splitResult_eq_nil_iff : (splitResult t).1 = [] ↔ t = [] ∨ t = ['='] := by
  have hsplit := splitResult_eq t
  constructor
  · intro hnil
    rw [hnil, List.nil_append] at hsplit
    cases hshow : (splitResult t).2 with
    | false => exact .inl (by simpa [hshow] using hsplit)
    | true => exact .inr (by simpa [hshow] using hsplit)
  · rintro (rfl | rfl) <;> rfl

/-- The source is empty where nothing stands between the blanks, or only the `=` that asks for the result. -/
theorem MadeOf.vanishes_iff (h : MadeOf t span o) :
    span.latex = [] ↔ span.display.source o.latex = [] ∨ span.display.source o.latex = ['='] := by
  obtain ⟨front, back, -, hspan⟩ := h
  obtain ⟨-, heq⟩ := span?_eq_some_iff.mp hspan
  rw [← splitResult_eq_nil_iff, heq]

theorem MadeOf.latex_ne_nil (h : MadeOf t span o) : o.latex ≠ [] := by
  obtain ⟨front, back, -, hspan⟩ := h
  exact (span?_eq_some_iff.mp hspan).1

theorem exists_delimited_of_mem_scan (hd : d = .dollar ∨ d = .bracket) (hnew : new d = .ok s) (h : span ∈ s.scan t) :
    ∃ o, Delimited d span.display o ∧ MadeOf t span o := by
  obtain rfl | rfl := hd
  · obtain rfl : dollar = s := Except.ok.inj hnew
    obtain ⟨o, ho, hmade⟩ := exists_encloses_of_mem_scan h
    exact ⟨o, ho.delimited, hmade⟩
  · obtain rfl : bracket = s := Except.ok.inj (new_bracket.symm.trans hnew)
    obtain ⟨o, ho, hmade⟩ := exists_bracketed_of_mem_scan h
    exact ⟨o, ho.delimited, hmade⟩

/-- Blanks make a difference only between brackets in a line. -/
theorem source_vanishes_iff (hd : d = .dollar ∨ d = .bracket) (ho : Delimited d mode o) (hne : o.latex ≠ []) :
    mode.source o.latex = [] ∨ mode.source o.latex = ['='] ↔
      o.latex = ['='] ∨ d = .bracket ∧ mode = .inline ∧ (AllBlank o.latex ∨ Text.trim o.latex = ['=']) := by
  obtain rfl | rfl := hd
  · rw [ho.close rfl]
    simp [hne]
  · cases mode with
    | block => simp [DisplayMode.source, hne]
    | inline =>
      have htrim : o.latex = ['='] → Text.trim o.latex = ['='] := by
        rintro heq
        rw [heq]
        rfl
      simp only [DisplayMode.source, Text.trim_eq_nil_iff, true_and]
      exact ⟨.inr, fun h => h.elim (fun heq => .inr (htrim heq)) id⟩

/-- Between dollars or brackets a span always has content, and its source is empty exactly where the content is a lone `=`
or, between brackets in a line, where it is blank or a lone `=` among blanks. -/
theorem latex_eq_nil_iff (hd : d = .dollar ∨ d = .bracket) (hnew : new d = .ok s) (h : span ∈ s.scan t) :
    ∃ content, content ≠ [] ∧
      t.slice? span.start span.stop = some (d.literal span.display .start ++ content ++ d.literal span.display .stop) ∧
      (span.latex = [] ↔ content = ['='] ∨
        d = .bracket ∧ span.display = .inline ∧ (AllBlank content ∨ Text.trim content = ['='])) := by
  obtain ⟨o, ho, hmade⟩ := exists_delimited_of_mem_scan hd hnew h
  refine ⟨o.latex, hmade.latex_ne_nil, ?_, ?_⟩
  · rw [hmade.slice?_eq, ho.whole_eq]
  · rw [hmade.vanishes_iff, source_vanishes_iff hd ho hmade.latex_ne_nil]

theorem latex_eq_nil_of_lone_sign :
    new .bracket = .ok bracket ∧ bracket.scan "so \\( = \\).".toList = [⟨3, 10, [], .inline, true⟩] ∧
      ∃ content, Text.slice? "so \\( = \\).".toList 3 10 = some (['\\', '('] ++ content ++ ['\\', ')']) ∧
        (content = ['='] ∨ AllBlank content ∨ Text.trim content = ['=']) := by
  have hscan : bracket.scan "so \\( = \\).".toList = [⟨3, 10, [], .inline, true⟩] := by cbv
  refine ⟨new_bracket, hscan, ?_⟩
  have hmem : ⟨3, 10, [], .inline, true⟩ ∈ bracket.scan "so \\( = \\).".toList := by
    rw [hscan]
    exact List.mem_singleton_self _
  obtain ⟨content, -, hslice, hiff⟩ := latex_eq_nil_iff (.inr rfl) new_bracket hmem
  exact ⟨content, hslice, (hiff.mp rfl).imp_right fun h => h.2.2⟩

theorem latex_is_empty_of_blanks :
    new .bracket = .ok bracket ∧ bracket.scan "\\( \\)".toList = [⟨0, 5, [], .inline, false⟩] ∧
      new .dollar = .ok dollar ∧ dollar.scan "$=$".toList = [⟨0, 3, [], .inline, true⟩] := by
  refine ⟨new_bracket, ?_, rfl, ?_⟩
  · cbv
  · decide +kernel

end Scanner

end LiveTex

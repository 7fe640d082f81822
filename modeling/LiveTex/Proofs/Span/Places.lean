import LiveTex.Proofs.Span.Dollars
import LiveTex.Proofs.Text.Slices
import LiveTex.Span.Scan

/-!
Where the spans of a text stand. Each one is made of an occurrence that the text holds at the bytes of the span. The
spans are in order and apart from each other, and those in lines keep clear of all blocks, reported or not.
-/

namespace LiveTex

open Text (bytes)

/-- The bytes from `start` up to `stop`. -/
structure Range where
  start : Nat
  stop : Nat
  deriving Repr, DecidableEq

/-- The bytes of an occurrence with its delimiters, and those of the mathematics inside it. -/
structure Match where
  whole : Range
  latex : Range
  deriving Repr, DecidableEq

/-- The occurrences that are found cut the text and leave nothing of it out. -/
def Finder.Cuts (find : Finder) : Prop := ∀ before t, (find before t).text = t

/-- A row of occurrences with the text between them. -/
def Occurrence.texts (os : List Occurrence) : Text := os.flatMap fun o => o.gap ++ o.whole

@[simp] theorem Occurrence.texts_nil : texts [] = [] := rfl

@[simp] theorem Occurrence.texts_cons (o : Occurrence) (os : List Occurrence) :
    texts (o :: os) = o.gap ++ (o.whole ++ texts os) := by
  simp [texts]

theorem Cut.text_eq (c : Cut) : c.text = Occurrence.texts c.occurrences ++ c.rest := rfl

/-- The bytes that the occurrences of a row take up, when the text before the first one ends at byte `offset`. -/
def Occurrence.located (offset : Nat) : List Occurrence → List Match
  | [] => []
  | o :: os =>
    let start := offset + bytes o.gap
    let stop := start + bytes o.whole
    ⟨⟨start, stop⟩, ⟨start + bytes o.opening, start + bytes o.opening + bytes o.latex⟩⟩ :: located stop os

theorem Occurrence.le_of_mem_located {offset : Nat} {os : List Occurrence} {m : Match} (h : m ∈ located offset os) :
    offset ≤ m.whole.start := by
  induction os generalizing offset with
  | nil => simp [located] at h
  | cons o os ih =>
    rw [located, List.mem_cons] at h
    obtain rfl | h := h
    · exact Nat.le_add_right _ _
    · have := ih h
      omega

/-- The part of an occurrence that counts as its source. -/
def DisplayMode.source (mode : DisplayMode) (t : Text) : Text :=
  match mode with
  | .inline => Text.trim t
  | .block => t

namespace Scanner

/-- Whatever a scanner looks for cuts the text. -/
structure Cuts (s : Scanner) : Prop where
  inline : ∀ find ∈ s.inline, Finder.Cuts find
  block : ∀ find ∈ s.block, Finder.Cuts find

theorem cuts_dollar : dollar.Cuts where
  inline := by
    rintro _ ⟨⟩ before t
    exact Dollar.text_cut .inline before t
  block := by
    rintro _ ⟨⟩ before t
    exact Dollar.text_cut .block before t

theorem cuts_ofPattern {pattern : Text} {find : Finder} (h : ofPattern pattern = .ok find) : Finder.Cuts find := by
  rw [ofPattern] at h
  cases hread : Pattern.read pattern with
  | error e =>
    rw [hread] at h
    cases h
  | ok p =>
    rw [hread] at h
    cases h
    exact fun _ t => Pattern.text_occurrences p.program t

theorem cuts_mapM_ofPattern {pattern : Option Text} {find : Option Finder} (h : pattern.mapM ofPattern = .ok find) :
    ∀ f ∈ find, Finder.Cuts f := by
  cases pattern with
  | none =>
    cases h
    simp
  | some pattern =>
    rw [Option.mapM_some] at h
    cases hpattern : ofPattern pattern with
    | error e =>
      rw [hpattern] at h
      cases h
    | ok f =>
      rw [hpattern] at h
      cases h
      rintro _ ⟨⟩
      exact cuts_ofPattern hpattern

/-- Every scanner that can be made cuts the text. -/
theorem cuts_of_new {d : Delimiters} {s : Scanner} (h : new d = .ok s) : s.Cuts := by
  have hboth {inline block : Option Text}
      (h : (do return ⟨← inline.mapM ofPattern, ← block.mapM ofPattern⟩) = Except.ok s) : s.Cuts := by
    cases hinline : inline.mapM ofPattern with
    | error e =>
      rw [hinline] at h
      cases h
    | ok i =>
      cases hblock : block.mapM ofPattern with
      | error e =>
        rw [hinline, hblock] at h
        cases h
      | ok b =>
        rw [hinline, hblock] at h
        cases h
        exact ⟨cuts_mapM_ofPattern hinline, cuts_mapM_ofPattern hblock⟩
  cases d with
  | dollar =>
    cases h
    exact cuts_dollar
  | bracket =>
    refine @hboth (some bracketInline) (some bracketBlock) ?_
    simpa only [new, Option.mapM_some, bind_assoc, pure_bind, bind_pure_comp, map_bind, Functor.map_map,
      bind_map_left] using h
  | custom d => exact hboth h

/-! The spans of a row of occurrences. -/

section

variable {mode : DisplayMode} {offset : Nat} {o : Occurrence} {os : List Occurrence} {span : Span}

theorem splitResult_eq (t : Text) :
    t = (splitResult t).1 ++ (if (splitResult t).2 then ['='] else []) := by
  rw [splitResult]
  by_cases hlast : t.getLast? = some '='
  · obtain ⟨front, rfl⟩ := List.getLast?_eq_some_iff.mp hlast
    simp
  · simp [hlast]

/-- The span of an occurrence. -/
theorem span?_eq_some_iff : span? mode offset o = some span ↔ o.latex ≠ [] ∧
    span = ⟨offset + bytes o.gap, offset + bytes o.gap + bytes o.whole, (splitResult (mode.source o.latex)).1, mode,
      (splitResult (mode.source o.latex)).2⟩ := by
  unfold span?
  cases hlatex : o.latex with
  | nil => simp
  | cons c t => cases mode <;> simp [DisplayMode.source, eq_comm]

/-- The spans stand in order between two offsets. None is empty, and none reaches into the next. -/
structure Ordered (first last : Nat) (spans : List Span) : Prop where
  apart : spans.Pairwise (·.stop ≤ ·.start)
  within : ∀ span ∈ spans, first ≤ span.start ∧ span.start < span.stop ∧ span.stop ≤ last

theorem Ordered.nil (first last : Nat) : Ordered first last [] := ⟨.nil, by simp⟩

theorem Ordered.append {first middle last : Nat} {front back : List Span} (hfront : Ordered first middle front)
    (hback : Ordered middle last back) (hfirst : first ≤ middle) (hlast : middle ≤ last) :
    Ordered first last (front ++ back) where
  apart := by
    refine List.pairwise_append.mpr ⟨hfront.apart, hback.apart, fun a ha b hb => ?_⟩
    exact Nat.le_trans (hfront.within a ha).2.2 (hback.within b hb).1
  within := by
    intro span hspan
    obtain hspan | hspan := List.mem_append.mp hspan
    · obtain ⟨hstart, hne, hstop⟩ := hfront.within span hspan
      exact ⟨hstart, hne, Nat.le_trans hstop hlast⟩
    · obtain ⟨hstart, hne, hstop⟩ := hback.within span hspan
      exact ⟨Nat.le_trans hfirst hstart, hne, hstop⟩

theorem ordered_span? (mode : DisplayMode) (offset : Nat) (o : Occurrence) :
    Ordered (offset + bytes o.gap) (offset + bytes o.gap + bytes o.whole) (span? mode offset o).toList := by
  cases hspan : span? mode offset o with
  | none => exact .nil _ _
  | some span =>
    obtain ⟨hlatex, rfl⟩ := span?_eq_some_iff.mp hspan
    have hpos : 0 < bytes o.latex := by
      rw [Nat.pos_iff_ne_zero, ne_eq, Text.bytes_eq_zero_iff]
      exact hlatex
    refine ⟨List.pairwise_singleton _ _, ?_⟩
    simp only [Option.toList_some, List.mem_singleton, forall_eq, Occurrence.whole, Text.bytes_append]
    omega

theorem ordered_spans (mode : DisplayMode) (offset : Nat) (os : List Occurrence) :
    Ordered offset (offset + bytes (Occurrence.texts os)) (spans mode offset os) := by
  induction os generalizing offset with
  | nil => exact .nil _ _
  | cons o os ih =>
    have hstop : offset + bytes (Occurrence.texts (o :: os)) =
        offset + bytes o.gap + bytes o.whole + bytes (Occurrence.texts os) := by
      simp only [Occurrence.texts_cons, Text.bytes_append]
      omega
    rw [hstop]
    have hfirst := (Ordered.nil offset _).append (ordered_span? mode offset o) (Nat.le_add_right ..) (Nat.le_add_right ..)
    exact hfirst.append (ih _) (by omega) (by omega)

theorem exists_of_mem_spans (h : span ∈ spans mode offset os) : ∃ done o more, os = done ++ o :: more ∧
    span? mode (offset + bytes (Occurrence.texts done)) o = some span := by
  induction os generalizing offset with
  | nil => simp [spans] at h
  | cons o os ih =>
    rw [spans, List.mem_append, Option.mem_toList] at h
    obtain h | h := h
    · exact ⟨[], o, os, rfl, h⟩
    · obtain ⟨done, u, more, rfl, hu⟩ := ih h
      refine ⟨o :: done, u, more, rfl, ?_⟩
      rw [← hu, Occurrence.texts_cons, Text.bytes_append, Text.bytes_append]
      congr 1
      omega

end

/-! The spans of a text. -/

variable {s : Scanner} {offset : Nat} {before : Option Char} {t front rest : Text} {os : List Occurrence} {span : Span}

theorem Ordered.of_inlineSpans (hs : s.Cuts) (offset : Nat) (before : Option Char) (t : Text) :
    Ordered offset (offset + bytes t) (s.inlineSpans offset before t) := by
  unfold inlineSpans
  split
  · exact .nil _ _
  · next find hfind =>
    have hcut : bytes (Occurrence.texts (find before t).occurrences) + bytes (find before t).rest = bytes t := by
      rw [← Text.bytes_append, ← Cut.text_eq, hs.inline find hfind]
    have hordered := (ordered_spans .inline offset (find before t).occurrences).append (.nil _ (offset + bytes t))
      (Nat.le_add_right ..) (by omega)
    rwa [List.append_nil] at hordered

theorem ordered_around (hs : s.Cuts) (offset : Nat) (before : Option Char) (rest : Text) (os : List Occurrence) :
    Ordered offset (offset + bytes (Occurrence.texts os) + bytes rest) (s.around offset before rest os) := by
  induction os generalizing offset before with
  | nil => exact .of_inlineSpans hs offset before rest
  | cons o os ih =>
    have hbytes : bytes (Occurrence.texts (o :: os)) = bytes o.gap + (bytes o.whole + bytes (Occurrence.texts os)) := by
      simp only [Occurrence.texts_cons, Text.bytes_append]
    have hgap := Ordered.of_inlineSpans hs offset before o.gap
    have hblock := hgap.append (ordered_span? .block offset o) (Nat.le_add_right ..) (Nat.le_add_right ..)
    have hlast : offset + bytes (Occurrence.texts (o :: os)) + bytes rest =
        offset + bytes o.gap + bytes o.whole + bytes (Occurrence.texts os) + bytes rest := by omega
    rw [hlast]
    exact hblock.append (ih _ _) (by omega) (by omega)

theorem display_of_mem_spans {mode : DisplayMode} (h : span ∈ spans mode offset os) : span.display = mode := by
  obtain ⟨done, o, more, -, hspan⟩ := exists_of_mem_spans h
  obtain ⟨-, rfl⟩ := span?_eq_some_iff.mp hspan
  rfl

/-- A span in a line ends before a block begins or begins behind it. -/
theorem clear_of_mem_around (hs : s.Cuts) (h : span ∈ s.around offset before rest os) (hdisplay : span.display = .inline) :
    ∀ m ∈ Occurrence.located offset os, span.stop ≤ m.whole.start ∨ m.whole.stop ≤ span.start := by
  induction os generalizing offset before with
  | nil => simp [Occurrence.located]
  | cons o os ih =>
    intro m hm
    rw [Occurrence.located, List.mem_cons] at hm
    rw [around, List.mem_append, List.mem_append, Option.mem_toList] at h
    obtain (h | h) | h := h
    · have hstop := ((Ordered.of_inlineSpans hs offset before o.gap).within span h).2.2
      obtain rfl | hm := hm
      · exact .inl hstop
      · have hstart := Occurrence.le_of_mem_located hm
        exact .inl (by omega)
    · obtain ⟨-, rfl⟩ := span?_eq_some_iff.mp h
      cases hdisplay
    · obtain rfl | hm := hm
      · exact .inr ((ordered_around hs _ _ rest os).within span h).1
      · exact ih h m hm

/-- The span is made of an occurrence that stands in the text. -/
def MadeOf (t : Text) (span : Span) (o : Occurrence) : Prop :=
  ∃ front back, t = front ++ o.gap ++ o.whole ++ back ∧ span? span.display (bytes front) o = some span

theorem exists_madeOf_of_mem_inlineSpans (hs : s.Cuts) (h : span ∈ s.inlineSpans (bytes front) before t) (back : Text) :
    span.display = .inline ∧ ∃ find ∈ s.inline, ∃ o ∈ (find before t).occurrences, MadeOf (front ++ t ++ back) span o := by
  unfold inlineSpans at h
  split at h
  · simp at h
  · next find hfind =>
    have hdisplay := display_of_mem_spans h
    obtain ⟨done, o, more, hos, hspan⟩ := exists_of_mem_spans h
    have hcut := hs.inline find hfind before t
    rw [Cut.text_eq, hos] at hcut
    generalize (find before t).rest = last at hcut
    refine ⟨hdisplay, find, hfind, o, by simp [hos], front ++ Occurrence.texts done,
      Occurrence.texts more ++ last ++ back, ?_, ?_⟩
    · rw [← hcut]
      simp [Occurrence.texts]
    · rw [hdisplay, Text.bytes_append, hspan]

variable {P : DisplayMode → Occurrence → Prop}

theorem exists_madeOf_of_mem_around (hs : s.Cuts)
    (hinline : ∀ find ∈ s.inline, ∀ before t, ∀ o ∈ (find before t).occurrences, P .inline o) (hos : ∀ o ∈ os, P .block o)
    (h : span ∈ s.around (bytes front) before rest os) :
    ∃ o, P span.display o ∧ MadeOf (front ++ Occurrence.texts os ++ rest) span o := by
  induction os generalizing front before with
  | nil =>
    obtain ⟨hdisplay, find, hfind, o, ho, hmade⟩ := exists_madeOf_of_mem_inlineSpans hs h []
    exact ⟨o, hdisplay ▸ hinline find hfind _ _ o ho, by simpa using hmade⟩
  | cons o os ih =>
    rw [around, List.mem_append, List.mem_append, Option.mem_toList] at h
    obtain (h | h) | h := h
    · obtain ⟨hdisplay, find, hfind, u, hu, hmade⟩ :=
        exists_madeOf_of_mem_inlineSpans hs h (o.whole ++ Occurrence.texts os ++ rest)
      exact ⟨u, hdisplay ▸ hinline find hfind _ _ u hu, by simpa using hmade⟩
    · have hdisplay : span.display = .block := by
        obtain ⟨-, rfl⟩ := span?_eq_some_iff.mp h
        rfl
      refine ⟨o, hdisplay ▸ hos o (.head _), front, Occurrence.texts os ++ rest, ?_, by rw [hdisplay, h]⟩
      simp
    · rw [Nat.add_assoc, ← Text.bytes_append, ← Text.bytes_append] at h
      obtain ⟨u, hu, hmade⟩ := ih (fun v hv => hos v (.tail _ hv)) h
      exact ⟨u, hu, by simpa using hmade⟩

/-- The blocks of a text, from its start on. -/
def blockCut (s : Scanner) (t : Text) : Cut :=
  match s.block with
  | none => .none t
  | some find => find none t

theorem Cuts.text_blockCut (hs : s.Cuts) (t : Text) : (s.blockCut t).text = t := by
  unfold blockCut
  split
  · rfl
  · next find hfind => exact hs.block find hfind none t

theorem scan_eq (s : Scanner) (t : Text) : s.scan t = s.around 0 none (s.blockCut t).rest (s.blockCut t).occurrences := rfl

/-- Every span is made of an occurrence that the text holds in its place. -/
theorem exists_madeOf_of_mem_scan (hs : s.Cuts)
    (hinline : ∀ find ∈ s.inline, ∀ before t, ∀ o ∈ (find before t).occurrences, P .inline o)
    (hblock : ∀ find ∈ s.block, ∀ before t, ∀ o ∈ (find before t).occurrences, P .block o) (h : span ∈ s.scan t) :
    ∃ o, P span.display o ∧ MadeOf t span o := by
  have hos : ∀ o ∈ (s.blockCut t).occurrences, P .block o := by
    unfold blockCut
    split
    · simp [Cut.none]
    · next find hfind => exact hblock find hfind none t
  rw [scan_eq] at h
  have hmade := exists_madeOf_of_mem_around hs hinline hos (show span ∈ s.around (bytes []) none _ _ from h)
  rwa [List.nil_append, ← Cut.text_eq, hs.text_blockCut] at hmade

/-- A span takes up a slice of the text. -/
theorem MadeOf.slice?_eq {o : Occurrence} (h : MadeOf t span o) : t.slice? span.start span.stop = some o.whole := by
  obtain ⟨front, back, rfl, hspan⟩ := h
  obtain ⟨-, heq⟩ := span?_eq_some_iff.mp hspan
  rw [heq, ← Text.bytes_append]
  exact Text.slice?_append _ _ back

end Scanner

end LiveTex

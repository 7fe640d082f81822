import LiveTex.Proofs.Name.Plain

/-!
Putting identifiers in the place of plain names. A name of letters is replaced wherever it is a longest run
of letters, so also inside the base or the script of another name. A name with a script is replaced only as
a whole.
-/

namespace LiveTex.Name

section Replacing

variable {first : Char} {more replacement : Text}

/-- Without an occurrence between characters that are no letters, nothing is replaced. -/
theorem replaceEach_eq_self {t : Text} (previous : Option Char)
    (h : ∀ before after, t = before ++ first :: more ++ after →
      ¬ (noLetter (before.getLast?.or previous) = true ∧ noLetter after.head? = true)) :
    replaceEach first more replacement previous t = t := by
  induction t generalizing previous with
  | nil => rw [replaceEach]
  | cons c t ih =>
    have hrest : replaceEach first more replacement (some c) t = t := by
      apply ih
      intro before after ht
      have hstep := h (c :: before) after (by rw [ht]; rfl)
      rw [List.getLast?_cons] at hstep
      cases hlast : before.getLast? <;> simpa [hlast] using hstep
    cases hafter : Text.after? (first :: more) (c :: t) with
    | none => rw [replaceEach_of_none previous hafter, hrest]
    | some rest =>
      have hpart := h [] rest (Text.after?_eq_some_iff.mp hafter)
      rw [replaceEach_of_some previous hafter, if_neg (by simpa using hpart), hrest]

theorem replaceEach_self : replaceEach first more replacement none (first :: more) = replacement := by
  have hafter : Text.after? (first :: more) (first :: more) = some [] := by
    rw [Text.after?_eq_some_iff, List.append_nil]
  rw [replaceEach_of_some none hafter, replaceEach]
  simp [noLetter]

end Replacing

/-- A character splits a text in one way if it stands there once. -/
theorem append_cons_inj {c : Char} {l l' r r' : Text} (h : l ++ c :: r = l' ++ c :: r') (hl : c ∉ l)
    (hr : c ∉ r) : l = l' ∧ r = r' := by
  induction l generalizing l' with
  | nil =>
    cases l' with
    | nil => exact ⟨rfl, (List.cons.inj h).2⟩
    | cons d l' =>
      have hmem : c ∈ r := by
        rw [(List.cons.inj h).2]
        simp
      exact absurd hmem hr
  | cons d l ih =>
    cases l' with
    | nil => exact absurd (by rw [(List.cons.inj h).1]; exact .head _) hl
    | cons d' l' =>
      obtain ⟨hhead, htail⟩ := List.cons.inj h
      obtain ⟨hleft, hright⟩ := ih htail fun hc => hl (.tail _ hc)
      exact ⟨congrArg₂ List.cons hhead hleft, hright⟩

theorem substitute_append (t : Text) (pairs pairs' : List (Text × Text)) :
    substitute t (pairs ++ pairs') = substitute (substitute t pairs) pairs' :=
  List.foldl_append

/-- A base and a script, which stand for a name in braced spelling. Identifiers can stand in them. -/
structure Shape where
  base : Text
  script : Text
  deriving DecidableEq, Repr

namespace Shape

/-- The text of a shape. -/
def text (p : Shape) : Text := if p.script = [] then p.base else p.base ++ '_' :: '{' :: p.script ++ ['}']

/-- The base is letters, the script is letters and digits. -/
structure WellFormed (p : Shape) : Prop where
  base_ne_nil : p.base ≠ []
  letters : AllLetters p.base
  alphanumeric : ∀ c ∈ p.script, c.isAlphanum = true

/-- The shape after a name has been replaced by an identifier. -/
def renamed (m : Plain) (ident : Text) (p : Shape) : Shape :=
  if m.script = [] then
    ⟨replacing m.base ident p.base, mapRuns (replacing m.base ident) [] p.script⟩
  else if p = ⟨m.base, m.script⟩ then ⟨ident, []⟩
  else p

/-- The runs of letters of the base and of the script. -/
def rows (p : Shape) : List Text := p.base :: runs [] p.script

end Shape

namespace Plain

/-- The shape of a name. -/
def shape (n : Plain) : Shape := ⟨n.base, n.script⟩

theorem wellFormed_shape (n : Plain) : n.shape.WellFormed := ⟨n.base_ne_nil, n.letters, n.alphanumeric⟩

theorem text_shape (n : Plain) : n.shape.text = n.canonical := rfl

theorem shape_inj {m n : Plain} (h : m.shape = n.shape) : m = n :=
  ext' (congrArg Shape.base h) (congrArg Shape.script h)

end Plain

theorem not_mem_of_alphanumeric {s : Text} (hs : ∀ c ∈ s, c.isAlphanum = true) {c : Char}
    (hc : c.isAlphanum = false) : c ∉ s := by
  intro hmem
  rw [hs c hmem] at hc
  cases hc

theorem alphanumeric_of_letters {t : Text} (ht : AllLetters t) : ∀ c ∈ t, c.isAlphanum = true := by
  intro c hc
  simp [Char.isAlphanum, ht c hc]

namespace Shape

variable {p : Shape}

/-- An underscore in the text of a shape is the one before its script. -/
theorem WellFormed.of_underscore (hp : p.WellFormed) {l r : Text} (h : p.text = l ++ '_' :: r) :
    p.script ≠ [] ∧ p.base = l ∧ '{' :: p.script ++ ['}'] = r := by
  have hbase : '_' ∉ p.base := not_mem_of_alphanumeric (alphanumeric_of_letters hp.letters) (by decide)
  have hscript : '_' ∉ '{' :: p.script ++ ['}'] := by
    simpa using not_mem_of_alphanumeric hp.alphanumeric (by decide)
  rw [text] at h
  split at h
  · rw [h] at hbase
    exact absurd (by simp) hbase
  · next hne =>
    rw [List.append_assoc, List.cons_append] at h
    exact ⟨hne, append_cons_inj h hbase hscript⟩

theorem WellFormed.mem_text (hp : p.WellFormed) {c : Char} (hc : c ∈ p.text) :
    c.isAlphanum = true ∨ c = '_' ∨ c = '{' ∨ c = '}' := by
  have hbase := alphanumeric_of_letters hp.letters
  rw [text] at hc
  split at hc
  · exact .inl (hbase c hc)
  · simp only [List.mem_append, List.mem_cons, List.not_mem_nil, or_false] at hc
    obtain (hc | rfl | rfl | hc) | rfl := hc
    · exact .inl (hbase c hc)
    · simp
    · simp
    · exact .inl (hp.alphanumeric c hc)
    · simp

/-- A text has one shape. -/
theorem WellFormed.text_inj {q : Shape} (hp : p.WellFormed) (hq : q.WellFormed) (h : p.text = q.text) : p = q := by
  have split : ∀ {p q : Shape}, p.WellFormed → p.text = q.text → q.script ≠ [] → p = q := by
    intro p q hp h hne
    have hunderscore : p.text = q.base ++ '_' :: ('{' :: q.script ++ ['}']) := by
      rw [h, text, if_neg hne]
      simp
    obtain ⟨-, hbase, hscript⟩ := hp.of_underscore hunderscore
    cases p
    exact congrArg₂ Shape.mk hbase (List.append_cancel_right (List.cons.inj hscript).2)
  by_cases hqscript : q.script = []
  · by_cases hpscript : p.script = []
    · rw [text, text, if_pos hqscript, if_pos hpscript] at h
      cases p
      cases q
      exact congrArg₂ Shape.mk h (hpscript.trans hqscript.symm)
    · exact (split hq h.symm hpscript).symm
  · exact split hp h hqscript

/-- A script without braces is in the text of no shape. -/
theorem WellFormed.text_ne_bare (hp : p.WellFormed) (m : Plain) {c : Char} (hm : m.script = [c]) :
    p.text ≠ m.base ++ ['_', c] := by
  intro h
  obtain ⟨-, -, hscript⟩ := hp.of_underscore h
  have hc := m.alphanumeric c (by simp [hm])
  rw [← (List.cons.inj hscript).1] at hc
  revert hc
  decide

/-- A name with a script in braces is replaced only as a whole. -/
theorem WellFormed.replaceEach_braced (hp : p.WellFormed) {m : Plain} (hm : m.script ≠ []) {first : Char}
    {more : Text} (hname : m.canonical = first :: more) (ident : Text) :
    replaceEach first more ident none p.text = if p = m.shape then ident else p.text := by
  split
  · next heq =>
    rw [heq, m.text_shape, hname, replaceEach_self]
  · next hne =>
    apply replaceEach_eq_self
    rintro before after ht ⟨hbefore, -⟩
    apply hne
    rw [← hname, Plain.canonical, if_neg hm] at ht
    have hsplit : p.text = (before ++ m.base) ++ '_' :: ('{' :: m.script ++ '}' :: after) := by
      rw [ht]
      simp
    obtain ⟨-, hbase, hscript⟩ := hp.of_underscore hsplit
    obtain ⟨hscript, -⟩ := append_cons_inj (List.cons.inj hscript).2
      (not_mem_of_alphanumeric hp.alphanumeric (by decide)) (by simp)
    -- The text before the occurrence is letters, so there is none.
    have hnil : before = [] := by
      cases before using List.reverseRecOn with
      | nil => rfl
      | append_singleton before c =>
        have hc := hp.letters c (by rw [hbase]; simp)
        simp [noLetter, hc] at hbefore
    rw [hnil, List.nil_append] at hbase
    cases p
    exact congrArg₂ Shape.mk hbase hscript

/-- A name with a script without braces is replaced nowhere. -/
theorem WellFormed.replaceEach_bare (hp : p.WellFormed) {m : Plain} {c : Char} (hm : m.script = [c])
    {first : Char} {more : Text} (hname : m.base ++ ['_', c] = first :: more) (ident : Text) :
    replaceEach first more ident none p.text = p.text := by
  apply replaceEach_eq_self
  intro before after ht
  exfalso
  have hsplit : p.text = (before ++ m.base) ++ '_' :: (c :: after) := by
    rw [ht, ← hname]
    simp
  obtain ⟨-, -, hscript⟩ := hp.of_underscore hsplit
  have hc := m.alphanumeric c (by simp [hm])
  rw [← (List.cons.inj hscript).1] at hc
  revert hc
  decide

theorem mapRuns_append_cons {σ : Text → Text} (run s : Text) {c : Char} (t : Text) (hc : c.isAlpha = false) :
    mapRuns σ run (s ++ c :: t) = mapRuns σ run s ++ c :: mapRuns σ [] t := by
  induction s generalizing run with
  | nil => simp [mapRuns, hc]
  | cons d s ih =>
    rw [List.cons_append, mapRuns, mapRuns]
    split
    · exact ih _
    · rw [ih, List.append_assoc]
      rfl

theorem mem_mapRuns {σ : Text → Text} {run t : Text} {c : Char} (h : c ∈ mapRuns σ run t) :
    c ∈ t ∨ ∃ u ∈ runs run t, c ∈ σ u := by
  induction t generalizing run with
  | nil => exact .inr ⟨run, by simp [runs], by simpa [mapRuns] using h⟩
  | cons d t ih =>
    rw [mapRuns] at h
    rw [runs]
    split at h
    · next hd =>
      rw [if_pos hd]
      obtain hc | hc := ih h
      · exact .inl (.tail _ hc)
      · exact .inr hc
    · next hd =>
      rw [if_neg hd]
      obtain hc | hc := List.mem_append.mp h
      · exact .inr ⟨run, .head _, hc⟩
      · obtain rfl | hc := List.mem_cons.mp hc
        · exact .inl (.head _)
        · obtain hc | ⟨u, hu, hc⟩ := ih hc
          · exact .inl (.tail _ hc)
          · exact .inr ⟨u, .tail _ hu, hc⟩

theorem mem_of_mem_runs {run t u : Text} {c : Char} (hu : u ∈ runs run t) (hc : c ∈ u) : c ∈ run ++ t := by
  induction t generalizing run with
  | nil =>
    rw [runs, List.mem_singleton] at hu
    rwa [List.append_nil, ← hu]
  | cons d t ih =>
    rw [runs] at hu
    split at hu
    · rw [List.append_cons]
      exact ih hu
    · obtain rfl | hu := List.mem_cons.mp hu
      · exact List.mem_append_left _ hc
      · exact List.mem_append_right _ (.tail _ (ih hu))

theorem mapRuns_ne_nil {σ : Text → Text} (hσ : ∀ u, u ≠ [] → σ u ≠ []) {run t : Text} (h : run ++ t ≠ []) :
    mapRuns σ run t ≠ [] := by
  induction t generalizing run with
  | nil => simpa [mapRuns] using hσ run (by simpa using h)
  | cons d t ih =>
    rw [mapRuns]
    split
    · exact ih (by simp)
    · simp

section

variable {m : Plain} {ident : Text}

theorem replacing_ne_nil (hident : ident ≠ []) (u : Text) (hu : u ≠ []) : replacing m.base ident u ≠ [] := by
  unfold replacing
  split
  · exact hident
  · exact hu

theorem replacing_nil (m : Plain) (ident : Text) : replacing m.base ident [] = [] :=
  replacing_of_ne (Ne.symm m.base_ne_nil)

theorem replacing_replacing (u : Text) :
    replacing m.base ident (replacing m.base ident u) = replacing m.base ident u := by
  unfold replacing
  split <;> simp_all

theorem WellFormed.renamed (hp : p.WellFormed) (hletters : AllLetters ident) (hident : ident ≠ []) :
    (p.renamed m ident).WellFormed := by
  unfold Shape.renamed
  split
  · refine ⟨replacing_ne_nil hident _ hp.base_ne_nil, allLetters_replacing hletters _ hp.letters, ?_⟩
    intro c hc
    obtain hc | ⟨u, hu, hc⟩ := mem_mapRuns hc
    · exact hp.alphanumeric c hc
    · unfold replacing at hc
      split at hc
      · exact alphanumeric_of_letters hletters c hc
      · exact hp.alphanumeric c (by simpa using mem_of_mem_runs hu hc)
  · split
    · exact ⟨hident, hletters, by simp⟩
    · exact hp

/-- Renaming the runs of the text renames those of the base and of the script. -/
theorem mapRuns_text (hp : p.WellFormed) (hident : ident ≠ []) :
    mapRuns (replacing m.base ident) [] p.text =
      text ⟨replacing m.base ident p.base, mapRuns (replacing m.base ident) [] p.script⟩ := by
  have hbase := mapRuns_append (σ := replacing m.base ident) [] p.base (t := []) hp.letters
  simp only [List.append_nil, List.nil_append, mapRuns] at hbase
  unfold text
  split
  · next hnil =>
    rw [hbase, hnil, mapRuns, replacing_nil, if_pos rfl]
  · next hne =>
    have hscript : mapRuns (replacing m.base ident) [] p.script ≠ [] :=
      mapRuns_ne_nil (replacing_ne_nil hident) hne
    rw [if_neg hscript, List.append_assoc, List.cons_append, List.cons_append,
      mapRuns_append_cons [] _ _ (by decide), hbase, mapRuns, if_neg (by decide),
      mapRuns_append_cons [] _ _ (by decide), mapRuns, replacing_nil]
    simp

theorem WellFormed.replace_canonical (hp : p.WellFormed) (m : Plain) (hident : ident ≠ []) :
    (replaceWhole? p.text m.canonical ident).getD p.text = (p.renamed m ident).text := by
  by_cases hm : m.script = []
  · obtain ⟨first, more, hbase⟩ := List.exists_cons_of_ne_nil m.base_ne_nil
    have hletters : AllLetters (first :: more) := hbase ▸ m.letters
    rw [Plain.canonical, if_pos hm, Shape.renamed, if_pos hm, ← mapRuns_text hp hident, hbase,
      getD_replaceWhole?, replaceEach_eq_mapRuns hletters p.text rfl]
  · obtain ⟨first, more, hname⟩ : ∃ first more, m.canonical = first :: more := by
      apply List.exists_cons_of_ne_nil
      simp [Plain.canonical, hm]
    rw [Shape.renamed, if_neg hm, hname, getD_replaceWhole?, hp.replaceEach_braced hm hname, ← Plain.shape]
    split
    · simp [text]
    · rfl

/-- The second spelling of a name finds nothing that the first one has left. -/
theorem WellFormed.replace_compact (hp : p.WellFormed) (m : Plain) (hletters : AllLetters ident)
    (hident : ident ≠ []) :
    (replaceWhole? (p.renamed m ident).text m.compact ident).getD (p.renamed m ident).text =
      (p.renamed m ident).text := by
  have hrenamed := hp.renamed (m := m) hletters hident
  have again (hcompact : m.compact = m.canonical) :
      (replaceWhole? (p.renamed m ident).text m.compact ident).getD (p.renamed m ident).text =
        ((p.renamed m ident).renamed m ident).text := by
    rw [hcompact, hrenamed.replace_canonical m hident]
  match hm : m.script with
  | [] =>
    rw [again (by simp [Plain.compact, hm]), Shape.renamed, Shape.renamed, if_pos hm, if_pos hm]
    rw [replacing_replacing, mapRuns_mapRuns (allLetters_replacing hletters) [] p.script (by simp [AllLetters])]
    have hcomp : replacing m.base ident ∘ replacing m.base ident = replacing m.base ident :=
      funext replacing_replacing
    rw [hcomp]
  | [c] =>
    obtain ⟨first, more, hname⟩ : ∃ first more, m.base ++ ['_', c] = first :: more :=
      List.exists_cons_of_ne_nil (by simp)
    have hcompact : m.compact = first :: more := by simp [Plain.compact, hm, hname]
    rw [hcompact, getD_replaceWhole?, hrenamed.replaceEach_bare hm hname]
  | c :: d :: s =>
    have hne : m.script ≠ [] := by simp [hm]
    rw [again (by simp [Plain.compact, hm]), Shape.renamed, if_neg hne]
    split
    · next heq =>
      -- The name itself would have become an identifier, which has no script.
      rw [Shape.renamed, if_neg hne] at heq
      split at heq
      · exact absurd (congrArg Shape.script heq).symm hne
      · next hother => exact absurd heq hother
    · rfl

/-- Replacing both spellings of a name renames the shape. -/
theorem WellFormed.substitute_text (hp : p.WellFormed) (m : Plain) (hletters : AllLetters ident)
    (hident : ident ≠ []) :
    substitute p.text [(m.canonical, ident), (m.compact, ident)] = (p.renamed m ident).text := by
  simp only [substitute, List.foldl_cons, List.foldl_nil]
  rw [hp.replace_canonical m hident, hp.replace_compact m hletters hident]

end

/-- The shape after several names have been replaced, one after the other. -/
def renamedAll (named : List (Plain × Text)) (p : Shape) : Shape :=
  named.foldl (fun p (m, ident) => p.renamed m ident) p

theorem renamedAll_cons (m : Plain × Text) (named : List (Plain × Text)) (p : Shape) :
    p.renamedAll (m :: named) = (p.renamed m.1 m.2).renamedAll named := rfl

theorem renamedAll_append (named named' : List (Plain × Text)) (p : Shape) :
    p.renamedAll (named ++ named') = (p.renamedAll named).renamedAll named' :=
  List.foldl_append

/-- The spellings of the names with the identifiers they stand for. -/
def table (named : List (Plain × Text)) : List (Text × Text) :=
  named.flatMap fun (m, ident) => [(m.canonical, ident), (m.compact, ident)]

theorem table_cons (m : Plain × Text) (named : List (Plain × Text)) :
    table (m :: named) = [(m.1.canonical, m.2), (m.1.compact, m.2)] ++ table named := rfl

/-- Replacing names renames the shape of the text. -/
theorem WellFormed.substitute_table (hp : p.WellFormed) {named : List (Plain × Text)}
    (hidents : ∀ m ∈ named, AllLetters m.2 ∧ m.2 ≠ []) :
    substitute p.text (table named) = (p.renamedAll named).text ∧ (p.renamedAll named).WellFormed := by
  induction named generalizing p with
  | nil => exact ⟨rfl, hp⟩
  | cons m named ih =>
    obtain ⟨hletters, hident⟩ := hidents m (.head _)
    have hnext := ih (hp.renamed (m := m.1) hletters hident) fun m hm => hidents m (.tail _ hm)
    rw [table_cons, substitute_append, hp.substitute_text m.1 hletters hident]
    exact hnext

end Shape

namespace Plain

theorem compact_eq (n : Plain) :
    n.compact = n.canonical ∨ ∃ c, n.script = [c] ∧ n.compact = n.base ++ ['_', c] := by
  unfold compact
  split
  · next c hc => exact .inr ⟨c, hc, rfl⟩
  · exact .inl rfl

/-- Names that share a spelling are equal. -/
theorem eq_of_shared {m n : Plain} {t : Text} (hm : t = m.canonical ∨ t = m.compact)
    (hn : t = n.canonical ∨ t = n.compact) : m = n := by
  have spelled : ∀ {n : Plain}, t = n.canonical ∨ t = n.compact →
      t = n.shape.text ∨ ∃ c, n.script = [c] ∧ t = n.base ++ ['_', c] := by
    intro n h
    obtain rfl | rfl := h
    · exact .inl rfl
    · exact n.compact_eq
  obtain hm | ⟨c, hmscript, hm⟩ := spelled hm <;> obtain hn | ⟨d, hnscript, hn⟩ := spelled hn
  · exact shape_inj (m.wellFormed_shape.text_inj n.wellFormed_shape (hm.symm.trans hn))
  · exact absurd (hm.symm.trans hn) (m.wellFormed_shape.text_ne_bare n hnscript)
  · exact absurd (hn.symm.trans hm) (n.wellFormed_shape.text_ne_bare m hmscript)
  · have hbase : '_' ∉ m.base := not_mem_of_alphanumeric (alphanumeric_of_letters m.letters) (by decide)
    have hc : '_' ∉ [c] := hmscript ▸ not_mem_of_alphanumeric m.alphanumeric (by decide)
    obtain ⟨hbases, hscripts⟩ := append_cons_inj (hm.symm.trans hn) hbase hc
    exact ext' hbases (by rw [hmscript, hnscript, hscripts])

end Plain

/-- A text without letters holds no name. -/
theorem substitute_of_not_isAlpha {t : Text} {named : List (Plain × Text)} (ht : ∀ c ∈ t, c.isAlpha = false) :
    substitute t (Shape.table named) = t := by
  have hkeep : ∀ (m : Plain) (rest ident : Text),
      (replaceWhole? t (m.base ++ rest) ident).getD t = t := by
    intro m rest ident
    obtain ⟨c, more, hbase⟩ := List.exists_cons_of_ne_nil m.base_ne_nil
    rw [hbase, List.cons_append, getD_replaceWhole?]
    apply replaceEach_eq_self
    intro before after hsplit
    have hc := ht c (by rw [hsplit]; simp)
    rw [m.letters c (by simp [hbase])] at hc
    cases hc
  have hcanonical : ∀ m : Plain, ∃ rest, m.canonical = m.base ++ rest := by
    intro m
    rw [Plain.canonical]
    split
    · exact ⟨[], by simp⟩
    · exact ⟨'_' :: '{' :: m.script ++ ['}'], by simp⟩
  have hcompact : ∀ m : Plain, ∃ rest, m.compact = m.base ++ rest := by
    intro m
    obtain h | ⟨c, -, h⟩ := m.compact_eq
    · rw [h]
      exact hcanonical m
    · exact ⟨['_', c], h⟩
  induction named with
  | nil => rfl
  | cons m named ih =>
    obtain ⟨rest, hrest⟩ := hcanonical m.1
    obtain ⟨rest', hrest'⟩ := hcompact m.1
    have hfirst : substitute t [(m.1.canonical, m.2), (m.1.compact, m.2)] = t := by
      simp only [substitute, List.foldl_cons, List.foldl_nil, hrest, hrest', hkeep]
    rw [Shape.table_cons, substitute_append, hfirst, ih]

end LiveTex.Name

import LiveTex.Proofs.Formula.Lexemes
import LiveTex.Proofs.Formula.Renaming

/-!
Respelled texts. When the longest runs of letters of a text get other letters, its tokens keep their kinds
and its symbols are renamed, unless the name of a command was one of the runs.
-/

namespace LiveTex.Formula

open Name (AllLetters mapRuns runs noLetter exists_run takeWhile_run)

/-- The names of the commands of a text, up to the first character that begins nothing. The commands that
carry no arithmetic meaning are among them, and so are the marks of spacing commands. -/
def commandNames : Text → List Text
  | [] => []
  | c :: t =>
    let names := if (head c t).item = .stray then [] else commandNames (head c t).rest
    if c = '\\' then (head c t).taken.tail :: names else names
termination_by t => t.length
decreasing_by exact length_rest_lt c t

/-- A run of letters comes to a run of letters, which is empty only if it was. -/
structure Respells (σ : Text → Text) : Prop where
  letters : ∀ u, AllLetters u → AllLetters (σ u)
  eq_nil_iff : ∀ u, σ u = [] ↔ u = []

theorem not_isDigit_of_isAlpha {c : Char} (h : c.isAlpha = true) : c.isDigit = false := by
  cases hdigit : c.isDigit with
  | false => rfl
  | true =>
    rw [not_isAlpha_of_isDigit hdigit] at h
    cases h

/-- A run of letters behind a backslash is a command. -/
theorem escape_run {d : Char} {u rest : Text} (hu : AllLetters (d :: u)) (hrest : noLetter rest.head? = true) :
    escape (d :: (u ++ rest)) =
      ⟨if d :: u ∈ layoutCommands then .layout else .token .command, '\\' :: d :: u, rest⟩ := by
  have hrun := takeWhile_run (fun c hc => hu c (.tail _ hc)) hrest
  rw [escape, if_pos (hu d (.head _)), hrun.1, hrun.2]

/-- The head of a text after a renaming of its runs of letters. -/
def Head.respelled (σ : Text → Text) (h : Head) : Head :=
  ⟨h.item, if h.item = .token .symbol then σ h.taken else h.taken, mapRuns σ [] h.rest⟩

namespace Respells

variable {σ : Text → Text} {c : Char} {t u rest : Text}

theorem nil (h : Respells σ) : σ [] = [] := (h.eq_nil_iff []).mpr rfl

theorem exists_cons (h : Respells σ) (hu : u ≠ []) : ∃ d s, σ u = d :: s :=
  List.exists_cons_of_ne_nil fun hnil => hu ((h.eq_nil_iff u).mp hnil)

theorem mapRuns_cons (h : Respells σ) (t : Text) (hc : c.isAlpha = false) :
    mapRuns σ [] (c :: t) = c :: mapRuns σ [] t := by
  rw [mapRuns, if_neg (by simp [hc]), h.nil, List.nil_append]

theorem mapRuns_run (h : Respells σ) (hu : AllLetters u) (hrest : noLetter rest.head? = true) :
    mapRuns σ [] (u ++ rest) = σ u ++ mapRuns σ [] rest := by
  rw [Name.mapRuns_append [] u hu, List.nil_append]
  cases rest with
  | nil => simp [mapRuns, h.nil]
  | cons d rest =>
    have hd : d.isAlpha = false := by simpa [noLetter] using hrest
    rw [h.mapRuns_cons rest hd, mapRuns, if_neg (by simp [hd])]

/-- A text that begins with a letter goes on beginning with a letter. -/
theorem exists_mapRuns_cons (h : Respells σ) (t : Text) (hc : c.isAlpha = true) :
    ∃ d s, mapRuns σ [] (c :: t) = d :: s ∧ d.isAlpha = true := by
  obtain ⟨u, rest, hsplit, hu, hletters, hrest⟩ := exists_run c t hc
  obtain ⟨d, s, hd⟩ := h.exists_cons (hu ▸ List.cons_ne_nil _ _)
  refine ⟨d, s ++ mapRuns σ [] rest, ?_, h.letters u hletters d (by simp [hd])⟩
  rw [hsplit, h.mapRuns_run hletters hrest, hd]
  rfl

/-- The respelled text begins with a letter where the text does, and with the same character elsewhere. -/
theorem head?_mapRuns (h : Respells σ) {p : Char → Bool} (hp : ∀ d, d.isAlpha = true → p d = false)
    (ht : ∀ d ∈ t.head?, p d = false) : ∀ d ∈ (mapRuns σ [] t).head?, p d = false := by
  cases t with
  | nil => simp [mapRuns, h.nil]
  | cons c t =>
    cases hc : c.isAlpha with
    | false => simpa [h.mapRuns_cons t hc] using ht
    | true =>
      obtain ⟨d, s, hmap, hd⟩ := h.exists_mapRuns_cons t hc
      simpa [hmap] using hp d hd

theorem noLetter_mapRuns (h : Respells σ) (ht : noLetter t.head? = true) :
    noLetter (mapRuns σ [] t).head? = true := by
  cases t with
  | nil => simp [mapRuns, h.nil, noLetter]
  | cons c t =>
    have hc : c.isAlpha = false := by simpa [noLetter] using ht
    simpa [h.mapRuns_cons t hc] using ht

/-- Digits stay where they are. -/
theorem digits_mapRuns (h : Respells σ) (t : Text) :
    (mapRuns σ [] t).takeWhile Char.isDigit = t.takeWhile Char.isDigit ∧
      (mapRuns σ [] t).dropWhile Char.isDigit = mapRuns σ [] (t.dropWhile Char.isDigit) := by
  induction t with
  | nil => simp [mapRuns, h.nil]
  | cons c t ih =>
    cases hc : c.isDigit with
    | true => simp [h.mapRuns_cons t (not_isAlpha_of_isDigit hc), hc, ih]
    | false =>
      have hhead := h.head?_mapRuns (t := c :: t) (fun _ => not_isDigit_of_isAlpha) (by simp [hc])
      rw [List.takeWhile_cons_of_neg (by simp [hc]), List.dropWhile_cons_of_neg (by simp [hc])]
      cases hmap : mapRuns σ [] (c :: t) with
      | nil => exact ⟨rfl, rfl⟩
      | cons d s =>
        have hd : d.isDigit = false := hhead d (by rw [hmap]; rfl)
        rw [List.takeWhile_cons_of_neg (by simp [hd]), List.dropWhile_cons_of_neg (by simp [hd])]
        exact ⟨rfl, rfl⟩

theorem fraction_mapRuns (h : Respells σ) (t : Text) :
    fraction (mapRuns σ [] t) = ((fraction t).1, mapRuns σ [] (fraction t).2) := by
  have hpoint : ∀ d : Char, d.isAlpha = true → (d == '.') = false := by
    intro d hd
    simp only [beq_eq_false_iff_ne]
    rintro rfl
    revert hd
    decide
  cases t with
  | nil => simp [mapRuns, h.nil, fraction]
  | cons c t =>
    by_cases hc : c = '.'
    · subst hc
      rw [h.mapRuns_cons t (by decide)]
      cases t with
      | nil => simp [mapRuns, h.nil, fraction]
      | cons d t =>
        cases hd : d.isDigit with
        | true =>
          rw [h.mapRuns_cons t (not_isAlpha_of_isDigit hd), fraction, fraction, if_pos hd, if_pos hd,
            (h.digits_mapRuns t).1, (h.digits_mapRuns t).2]
        | false =>
          have hhead := h.head?_mapRuns (t := d :: t) (fun _ => not_isDigit_of_isAlpha) (by simp [hd])
          rw [fraction, if_neg (by simp [hd]), h.mapRuns_cons (d :: t) (by decide)]
          cases hmap : mapRuns σ [] (d :: t) with
          | nil => rfl
          | cons e s => rw [fraction, if_neg (by simp [hhead e (by rw [hmap]; rfl)])]
    · have hhead := h.head?_mapRuns (t := c :: t) hpoint (by simpa using hc)
      rw [fraction_eq_none (c :: t) (by simpa using hc), fraction_eq_none]
      simpa using hhead

/-- What follows a backslash is a command with the same name, if the name is kept. -/
theorem escape_mapRuns (h : Respells σ) (t : Text)
    (hname : σ (t.takeWhile Char.isAlpha) = t.takeWhile Char.isAlpha) :
    escape (mapRuns σ [] t) = (escape t).respelled σ := by
  cases t with
  | nil => simp [mapRuns, h.nil, escape, Head.respelled]
  | cons d t =>
    cases hd : d.isAlpha with
    | false =>
      simp only [h.mapRuns_cons t hd, escape, hd, Bool.false_eq_true, if_false]
      cases isSpacingMark d with
      | true => rfl
      | false => simp [Head.respelled, h.mapRuns_cons t hd]
    | true =>
      obtain ⟨u, rest, hsplit, hu, hletters, hhead⟩ := exists_run d t hd
      rw [List.takeWhile_cons_of_pos hd, ← hu] at hname
      rw [hsplit, h.mapRuns_run hletters hhead, hname, hu, List.cons_append, List.cons_append,
        escape_run (hu ▸ hletters) hhead, escape_run (hu ▸ hletters) (h.noLetter_mapRuns hhead)]
      split <;> rfl

/-- The item at the head of the respelled text. -/
theorem head_mapRuns (h : Respells σ) (c : Char) (t : Text)
    (hname : c = '\\' → σ (t.takeWhile Char.isAlpha) = t.takeWhile Char.isAlpha) :
    ∃ d s, mapRuns σ [] (c :: t) = d :: s ∧ head d s = (head c t).respelled σ := by
  cases hc : c.isAlpha with
  | true =>
    obtain ⟨u, rest, hsplit, hu, hletters, hhead⟩ := exists_run c t hc
    obtain ⟨d, s, hd⟩ := h.exists_cons (hu ▸ List.cons_ne_nil _ _)
    have hσ : AllLetters (d :: s) := hd ▸ h.letters u hletters
    have ht : t = t.takeWhile Char.isAlpha ++ rest := by simpa [hu] using hsplit
    refine ⟨d, s ++ mapRuns σ [] rest, by rw [hsplit, h.mapRuns_run hletters hhead, hd, List.cons_append], ?_⟩
    rw [head_run hσ (h.noLetter_mapRuns hhead), ht, head_run (hu ▸ hletters) hhead]
    simp [Head.respelled, ← hu, hd]
  | false =>
    refine ⟨c, mapRuns σ [] t, h.mapRuns_cons t hc, ?_⟩
    unfold head
    split
    · rfl
    simp only [hc, Bool.false_eq_true, if_false]
    split
    · rw [(h.digits_mapRuns t).1, (h.digits_mapRuns t).2, h.fraction_mapRuns]
      rfl
    split
    · next hpoint =>
      rw [← h.mapRuns_cons t hc, h.fraction_mapRuns]
      simp only
      split
      · simp [Head.respelled]
      · rfl
    split
    · next hbackslash => exact h.escape_mapRuns t (hname hbackslash)
    · cases hmark : Token.Kind.ofMark? c with
      | none => rfl
      | some kind =>
        have hkind := (Token.Kind.ne_of_ofMark? hmark).2.1
        simp [Head.respelled, hkind]

end Respells

/-!
The commands and the symbols of a text.
-/

section

variable {c : Char} {t u v w : Text}

theorem commandNames_rest_subset (hitem : (head c t).item ≠ .stray) :
    commandNames (head c t).rest ⊆ commandNames (c :: t) := by
  intro name hname
  rw [commandNames]
  simp only [hitem, if_false]
  split
  · exact .tail _ hname
  · exact hname

/-- The letters behind a backslash are the name of a command. -/
theorem takeWhile_mem_commandNames (t : Text) :
    t.takeWhile Char.isAlpha = [] ∨ t.takeWhile Char.isAlpha ∈ commandNames ('\\' :: t) := by
  cases t with
  | nil => exact .inl rfl
  | cons d t =>
    cases hd : d.isAlpha with
    | false => exact .inl (by simp [hd])
    | true =>
      apply Or.inr
      have hhead : (head '\\' (d :: t)).taken.tail = (d :: t).takeWhile Char.isAlpha := by
        rw [List.takeWhile_cons_of_pos hd, show head '\\' (d :: t) = escape (d :: t) from rfl, escape, if_pos hd]
        rfl
      rw [commandNames, if_pos rfl, hhead]
      exact .head _

theorem mem_runs_append (hu : ∀ d ∈ u, d.isAlpha = false) (hw : w ∈ runs [] v) : w ∈ runs [] (u ++ v) := by
  induction u with
  | nil => exact hw
  | cons d u ih =>
    rw [List.cons_append, runs, if_neg (by simp [hu d (.head _)])]
    exact .tail _ (ih fun e he => hu e (.tail _ he))

theorem mem_runs_run (hu : AllLetters u) (hv : noLetter v.head? = true) (hne : w ≠ []) :
    w ∈ runs [] (u ++ v) ↔ w = u ∨ w ∈ runs [] v := by
  rw [Name.runs_append [] u hu, List.nil_append]
  cases v with
  | nil => simp [runs, hne]
  | cons d v =>
    have hd : d.isAlpha = false := by simpa [noLetter] using hv
    simp [runs, hd, hne]

theorem not_isAlpha_of_mem_fraction (hmem : c ∈ (fraction t).1) : c.isAlpha = false := by
  unfold fraction at hmem
  split at hmem
  · split at hmem
    · next d t hd =>
      obtain rfl | hmem := List.mem_cons.mp hmem
      · decide
      · obtain rfl | hmem := List.mem_cons.mp hmem
        · exact not_isAlpha_of_isDigit hd
        · exact not_isAlpha_of_isDigit (List.all_eq_true.mp List.all_takeWhile _ hmem)
    · cases hmem
  · cases hmem

/-- Only symbols and what begins with a backslash have letters. -/
theorem not_isAlpha_of_mem_taken (t : Text) (hc : c.isAlpha = false) (hbackslash : c ≠ '\\') :
    (head c t).item ≠ .token .symbol ∧ ∀ d ∈ (head c t).taken, d.isAlpha = false := by
  unfold head
  simp only [hc, hbackslash, Bool.false_eq_true, if_false]
  split
  · exact ⟨nofun, by simp [hc]⟩
  split
  · refine ⟨nofun, fun d hd => ?_⟩
    simp only [List.cons_append, List.mem_cons, List.mem_append] at hd
    obtain rfl | hd | hd := hd
    · exact hc
    · exact not_isAlpha_of_isDigit (List.all_eq_true.mp List.all_takeWhile d hd)
    · exact not_isAlpha_of_mem_fraction hd
  split
  · split
    · exact ⟨nofun, by simp [hc]⟩
    · exact ⟨nofun, fun d hd => not_isAlpha_of_mem_fraction hd⟩
  · split
    · next kind hkind => exact ⟨by simpa using (Token.Kind.ne_of_ofMark? hkind).2.1, by simp [hc]⟩
    · exact ⟨nofun, by simp [hc]⟩

/-- The letters of an item are a longest run at its end. A symbol is nothing else. -/
theorem exists_taken_eq_append (c : Char) (t : Text) : ∃ a u, (head c t).taken = a ++ u ∧
    (∀ d ∈ a, d.isAlpha = false) ∧ AllLetters u ∧ (u = [] ∨ noLetter (head c t).rest.head? = true) ∧
      ((head c t).item = .token .symbol → a = []) := by
  have without_letters {h : Head} (hitem : h.item ≠ .token .symbol) (htaken : ∀ d ∈ h.taken, d.isAlpha = false) :
      ∃ a u, h.taken = a ++ u ∧ (∀ d ∈ a, d.isAlpha = false) ∧ AllLetters u ∧
        (u = [] ∨ noLetter h.rest.head? = true) ∧ (h.item = .token .symbol → a = []) :=
    ⟨h.taken, [], by simp, htaken, by simp [AllLetters], .inl rfl, fun h => absurd h hitem⟩
  cases hc : c.isAlpha with
  | true =>
    obtain ⟨u, rest, hsplit, hu, hletters, hhead⟩ := exists_run c t hc
    have ht : t = t.takeWhile Char.isAlpha ++ rest := by simpa [hu] using hsplit
    rw [ht, head_run (hu ▸ hletters) hhead, ← hu]
    exact ⟨[], u, rfl, by simp, hletters, .inr hhead, fun _ => rfl⟩
  | false =>
    by_cases hbackslash : c = '\\'
    · subst hbackslash
      rw [show head '\\' t = escape t from rfl]
      cases t with
      | nil => exact without_letters (by simp [escape]) (by simp [escape, hc])
      | cons d t =>
        cases hd : d.isAlpha with
        | true =>
          obtain ⟨u, rest, hsplit, hu, hletters, hhead⟩ := exists_run d t hd
          rw [hsplit, hu, List.cons_append, escape_run (hu ▸ hletters) hhead, ← hu]
          exact ⟨['\\'], u, rfl, by simp [hc], hletters, .inr hhead,
            fun hsymbol => by simp only at hsymbol; split at hsymbol <;> cases hsymbol⟩
        | false =>
          simp only [escape, hd, Bool.false_eq_true, if_false]
          split <;> exact without_letters (fun hsymbol => by cases hsymbol) (by simp [hc, hd])
    · obtain ⟨hitem, htaken⟩ := not_isAlpha_of_mem_taken t hc hbackslash
      exact without_letters hitem htaken

/-- The symbols of a text are among its runs of letters. -/
theorem Lexes.mem_runs {ts : List Token} (h : Lexes t ts) : ∀ u ∈ symbolLexemes ts, u ∈ runs [] t := by
  have rest {c : Char} {t u : Text} (hu : u ≠ []) (hmem : u ∈ runs [] (head c t).rest) : u ∈ runs [] (c :: t) := by
    obtain ⟨a, v, htaken, ha, hv, hseam, -⟩ := exists_taken_eq_append c t
    rw [← head_append c t, htaken, List.append_assoc]
    apply mem_runs_append ha
    obtain rfl | hseam := hseam
    · exact hmem
    · exact (mem_runs_run hv hseam hu).mpr (.inr hmem)
  have hne {x : Token} {c : Char} {t : Text} (hlexeme : x.lexeme = (head c t).taken) : x.lexeme ≠ [] :=
    hlexeme ▸ head_taken_ne_nil c t
  suffices hall : ∀ u ∈ symbolLexemes ts, u ≠ [] ∧ u ∈ runs [] t from fun u hu => (hall u hu).2
  induction h with
  | nil => simp
  | layout _ _ ih => exact fun u hu => ⟨(ih u hu).1, rest (ih u hu).1 (ih u hu).2⟩
  | @token c t x ts hitem hlexeme _ ih =>
    intro u hu
    rw [symbolLexemes_cons] at hu
    have hmore (hu : u ∈ symbolLexemes ts) : u ≠ [] ∧ u ∈ runs [] (c :: t) := ⟨(ih u hu).1, rest (ih u hu).1 (ih u hu).2⟩
    split at hu
    · next hkind =>
      obtain rfl | hu := List.mem_cons.mp hu
      · refine ⟨hne hlexeme, ?_⟩
        obtain ⟨a, v, htaken, -, hv, hseam, hsymbol⟩ := exists_taken_eq_append c t
        obtain rfl := hsymbol (hkind ▸ hitem)
        rw [List.nil_append, ← hlexeme] at htaken
        subst htaken
        rw [← head_append c t, ← hlexeme]
        exact (mem_runs_run hv (hseam.resolve_left (hne hlexeme)) (hne hlexeme)).mpr (.inl rfl)
      · exact hmore hu
    · exact hmore hu

end

/-!
The tokens and the tree of a respelled text.
-/

namespace Respells

variable {σ : Text → Text} {t : Text}

/-- A command whose name is kept is an item with the same name. -/
theorem head_of_commandNames (h : Respells σ) {c : Char} {t : Text}
    (hnames : ∀ name ∈ commandNames (c :: t), σ name = name) :
    ∃ d s, mapRuns σ [] (c :: t) = d :: s ∧ head d s = (head c t).respelled σ := by
  apply h.head_mapRuns
  rintro rfl
  obtain hnil | hname := takeWhile_mem_commandNames t
  · rw [hnil, h.nil]
  · exact hnames _ hname

/-- A respelled text has the tokens of the text with their symbols renamed. -/
theorem agree_tokenizeFrom (h : Respells σ) (hnames : ∀ name ∈ commandNames t, σ name = name) (offset offset' : Nat) :
    Agree (RenamedTokens σ) (tokenizeFrom offset t) (tokenizeFrom offset' (mapRuns σ [] t)) := by
  induction offset, t using tokenizeFrom.induct generalizing offset' with
  | case1 offset =>
    simp only [mapRuns, h.nil, tokenizeFrom]
    exact .nil
  | case2 offset c t hitem =>
    obtain ⟨d, s, hmap, hhead⟩ := h.head_of_commandNames hnames
    rw [hmap, tokenizeFrom, tokenizeFrom, hhead]
    simp only [Head.respelled, hitem]
    trivial
  | case3 offset c t stop hitem ih =>
    obtain ⟨d, s, hmap, hhead⟩ := h.head_of_commandNames hnames
    have hrest := fun name hname => hnames name (commandNames_rest_subset (by simp [hitem]) hname)
    rw [hmap, tokenizeFrom, tokenizeFrom, hhead]
    simp only [Head.respelled, hitem]
    exact ih hrest _
  | case4 offset c t stop kind hitem ih =>
    obtain ⟨d, s, hmap, hhead⟩ := h.head_of_commandNames hnames
    have hrest := fun name hname => hnames name (commandNames_rest_subset (by simp [hitem]) hname)
    rw [hmap, tokenizeFrom, tokenizeFrom, hhead]
    simp only [Head.respelled, hitem, Item.token.injEq]
    refine (ih hrest _).map fun ts us hts => ?_
    exact .cons ⟨rfl, by simp⟩ hts

/-- A respelled text compiles to the tree with its symbols renamed, or neither text compiles. -/
theorem agree_compile (h : Respells σ) (hnames : ∀ name ∈ commandNames t, σ name = name) :
    Agree (fun f g : Formula => g.expr = f.expr.rename σ) (compile t) (compile (mapRuns σ [] t)) := by
  refine .bind (h.agree_tokenizeFrom hnames 0 0) fun ts us hts => ?_
  exact .bind (parse_renamed hts) fun _ _ hexpr => hexpr

/-- A respelled text has the value of the text, when its symbols stand for what the runs stood for. -/
theorem evaluate_mapRuns (h : Respells σ) (hnames : ∀ name ∈ commandNames t, σ name = name) {b b' : Bindings}
    (hvalues : ∀ u ∈ runs [] t, symbolValue b (σ u) = symbolValue b' u) :
    (compile (mapRuns σ [] t)).toOption.map (·.evaluate b) = (compile t).toOption.map (·.evaluate b') := by
  refine (h.agree_compile hnames).map_toOption fun f g hcompile hexpr => ?_
  obtain ⟨htokens, hparse⟩ := tokens_of_compile hcompile
  rw [evaluate, evaluate, hexpr]
  apply Expr.value_rename
  intro name hname
  rw [mem_names_iff_of_parse hparse] at hname
  exact hvalues name ((Lexes.of_tokenizeFrom htokens).mem_runs name hname)

end Respells

end LiveTex.Formula

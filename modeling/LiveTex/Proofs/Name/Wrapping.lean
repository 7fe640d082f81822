import LiveTex.Name.Canonical
import LiveTex.Proofs.Text.Blank

/-!
Braces, blanks and color commands around a text. Taking them off leads back to the text, so they make no
difference to its name.
-/

namespace LiveTex.Name

open Text (AllBlank)

/-- The text with any number of braces, blanks and color commands around it. -/
inductive Wrapped (commands : List Text) (core : Text) : Text → Prop
  | core : Wrapped commands core core
  | braces {t : Text} (h : Wrapped commands core t) : Wrapped commands core ('{' :: t ++ ['}'])
  | blanks {front t back : Text} (hfront : AllBlank front) (hback : AllBlank back)
      (h : Wrapped commands core t) : Wrapped commands core (front ++ t ++ back)
  | colored {command w t : Text} (hcommand : command ∈ commands) (hw : ∀ c ∈ w, isColorChar c = true)
      (h : Wrapped commands core t) : Wrapped commands core (command ++ '{' :: w ++ '}' :: t)

/-- The search for the closing brace passes over the text. -/
def Passed (t : Text) : Prop := ∀ depth rest, untilClosing depth (t ++ rest) = (untilClosing depth rest).map (t ++ ·)

/-- Neither a brace nor a backslash. -/
def isQuiet (c : Char) : Bool := c != '\\' && c != '{' && c != '}'

theorem isQuiet_iff {c : Char} : isQuiet c = true ↔ c ≠ '\\' ∧ c ≠ '{' ∧ c ≠ '}' := by
  simp [isQuiet, and_assoc]

namespace Passed

theorem append {s t : Text} (hs : Passed s) (ht : Passed t) : Passed (s ++ t) := by
  intro depth rest
  rw [List.append_assoc, hs, ht, Option.map_map]
  simp only [Function.comp_def, List.append_assoc]

theorem of_quiet {t : Text} (h : ∀ c ∈ t, isQuiet c = true) : Passed t := by
  induction t with
  | nil =>
    intro depth rest
    simp
  | cons c t ih =>
    have hc := h c (List.mem_cons_self ..)
    simp only [isQuiet, Bool.and_eq_true, bne_iff_ne, ne_eq] at hc
    intro depth rest
    rw [List.cons_append, untilClosing.eq_def]
    simp only [if_neg hc.1.1, if_neg hc.1.2, if_neg hc.2]
    rw [ih (fun d hd => h d (List.mem_cons_of_mem _ hd)), Option.map_map]
    rfl

theorem braces {t : Text} (ht : Passed t) : Passed ('{' :: t ++ ['}']) := by
  intro depth rest
  have hopen : untilClosing depth ('{' :: (t ++ ['}'] ++ rest)) =
      (untilClosing (depth + 1) (t ++ ['}'] ++ rest)).map ('{' :: ·) := by
    rw [untilClosing.eq_def]
    rfl
  have hclose : untilClosing (depth + 1) ('}' :: rest) = (untilClosing depth rest).map ('}' :: ·) := by
    rw [untilClosing.eq_def]
    rfl
  rw [List.cons_append, List.cons_append, hopen, List.append_assoc, ht, List.singleton_append, hclose,
    Option.map_map, Option.map_map]
  simp [Function.comp_def]

theorem escape {c : Char} {t : Text} (ht : Passed t) : Passed ('\\' :: c :: t) := by
  intro depth rest
  rw [List.cons_append, List.cons_append, untilClosing.eq_def]
  simp only [↓reduceIte]
  rw [ht, Option.map_map]
  rfl

theorem unbraced?_braces {t : Text} (ht : Passed t) : unbraced? ('{' :: t ++ ['}']) = some t := by
  have hclose := ht 0 ['}']
  simpa [unbraced?, untilClosing] using hclose

end Passed

theorem isQuiet_of_isBlank {c : Char} (h : Text.isBlank c = true) : isQuiet c = true := by
  simp only [isQuiet, Bool.and_eq_true, bne_iff_ne]
  refine ⟨⟨?_, ?_⟩, ?_⟩ <;> (rintro rfl; revert h; decide)

theorem isQuiet_of_isColorChar {c : Char} (h : isColorChar c = true) : isQuiet c = true := by
  simp only [isQuiet, Bool.and_eq_true, bne_iff_ne]
  refine ⟨⟨?_, ?_⟩, ?_⟩ <;> (rintro rfl; revert h; decide)

/-- The commands that say a color. -/
def colorCommands : List Text := [color, textcolor]

theorem exists_of_mem_colorCommands {command : Text} (h : command ∈ colorCommands) :
    ∃ name, command = '\\' :: name ∧ ∀ c ∈ name, isColorChar c = true := by
  simp only [colorCommands, List.mem_cons, List.not_mem_nil, or_false] at h
  obtain rfl | rfl := h
  · exact ⟨"color".toList, rfl, List.all_eq_true.mp (by decide)⟩
  · exact ⟨"textcolor".toList, rfl, List.all_eq_true.mp (by decide)⟩

theorem exists_concat_of_mem_colorCommands {command : Text} (h : command ∈ colorCommands) :
    ∃ name, command = name ++ ['r'] := by
  simp only [colorCommands, List.mem_cons, List.not_mem_nil, or_false] at h
  obtain rfl | rfl := h
  · exact ⟨"\\colo".toList, rfl⟩
  · exact ⟨"\\textcolo".toList, rfl⟩

theorem passed_colored {command w : Text} (hcommand : command ∈ colorCommands)
    (hw : ∀ c ∈ w, isColorChar c = true) : Passed (command ++ '{' :: w ++ ['}']) := by
  have hquiet : ∀ {t : Text}, (∀ c ∈ t, isColorChar c = true) → Passed t :=
    fun ht => Passed.of_quiet fun c hc => isQuiet_of_isColorChar (ht c hc)
  obtain ⟨name, rfl, hname⟩ := exists_of_mem_colorCommands hcommand
  obtain _ | ⟨c, name⟩ := name
  · exact absurd hcommand (by decide)
  · rw [List.append_assoc]
    exact (Passed.escape (hquiet fun d hd => hname d (.tail _ hd))).append (hquiet hw).braces

theorem afterColor?_self {command w : Text} (t : Text) (hw : ∀ c ∈ w, isColorChar c = true) :
    afterColor? command (command ++ '{' :: w ++ '}' :: t) = some t := by
  have hafter : Text.after? (command ++ ['{']) (command ++ '{' :: w ++ '}' :: t) = some (w ++ '}' :: t) := by
    rw [Text.after?_eq_some_iff]
    simp
  have hdrop : (w ++ '}' :: t).dropWhile isColorChar = '}' :: t := by
    rw [List.dropWhile_append_of_pos hw]
    rfl
  simp only [afterColor?, hafter, hdrop]

/-- A color command at the front of a text, with its color in braces. -/
theorem afterColor?_eq_some_iff {command t rest : Text} : afterColor? command t = some rest ↔
    ∃ w, (∀ c ∈ w, isColorChar c = true) ∧ t = command ++ '{' :: w ++ '}' :: rest := by
  constructor
  · intro h
    unfold afterColor? at h
    split at h
    · cases h
    · next inner hinner =>
      split at h
      · next tail htail =>
        cases h
        refine ⟨inner.takeWhile isColorChar, fun c hc => List.mem_takeWhile_imp hc, ?_⟩
        have hsplit := List.takeWhile_append_dropWhile (p := isColorChar) (l := inner)
        rw [htail] at hsplit
        rw [Text.after?_eq_some_iff.mp hinner]
        simp [hsplit]
      · cases h
  · rintro ⟨w, hw, rfl⟩
    exact afterColor?_self rest hw

theorem mentions_iff {command t : Text} : mentions command t = true ↔
    ∃ front w rest, (∀ c ∈ w, isColorChar c = true) ∧ t = front ++ (command ++ '{' :: w ++ '}' :: rest) := by
  induction t with
  | nil => simp [mentions]
  | cons c t ih =>
    rw [mentions, Bool.or_eq_true, Option.isSome_iff_exists, ih]
    constructor
    · rintro (⟨rest, hrest⟩ | ⟨front, w, rest, hw, rfl⟩)
      · obtain ⟨w, hw, ht⟩ := afterColor?_eq_some_iff.mp hrest
        exact ⟨[], w, rest, hw, ht⟩
      · exact ⟨c :: front, w, rest, hw, rfl⟩
    · rintro ⟨front, w, rest, hw, ht⟩
      cases front with
      | nil => exact .inl ⟨rest, afterColor?_eq_some_iff.mpr ⟨w, hw, ht⟩⟩
      | cons d front => exact .inr ⟨front, w, rest, hw, (List.cons.inj ht).2⟩

/-- A part of a text without color commands has none. -/
theorem mentions_eq_false_of_part {command s t : Text} (hpart : s <:+: t) (h : mentions command t = false) :
    mentions command s = false := by
  rw [Bool.eq_false_iff] at h ⊢
  intro hmentions
  obtain ⟨before, after, rfl⟩ := hpart
  obtain ⟨front, w, rest, hw, rfl⟩ := mentions_iff.mp hmentions
  exact h (mentions_iff.mpr ⟨before ++ front, w, rest ++ after, hw, by simp⟩)

theorem afterColor?_of_ne {command command' : Text} (t : Text) (hcommand : command ∈ colorCommands)
    (hcommand' : command' ∈ colorCommands) (hne : command ≠ command') :
    afterColor? command (command' ++ t) = none := by
  simp only [colorCommands, List.mem_cons, List.not_mem_nil, or_false] at hcommand hcommand'
  obtain rfl | rfl := hcommand <;> obtain rfl | rfl := hcommand'
  · exact absurd rfl hne
  · rfl
  · rfl
  · exact absurd rfl hne

theorem afterColor?_cons {command : Text} {c : Char} (t : Text) (hcommand : command ∈ colorCommands)
    (hc : c ≠ '\\') : afterColor? command (c :: t) = none := by
  have hnone : Text.after? (command ++ ['{']) (c :: t) = none := by
    simp only [colorCommands, List.mem_cons, List.not_mem_nil, or_false] at hcommand
    obtain rfl | rfl := hcommand <;> exact if_neg (Ne.symm hc)
  simp only [afterColor?, hnone]

theorem withSpaces_of_some {command rest : Text} {c : Char} {t : Text}
    (h : afterColor? command (c :: t) = some rest) :
    withSpaces command (c :: t) = ' ' :: withSpaces command rest := by
  rw [withSpaces]
  split
  · next rest' hrest =>
    obtain rfl := Option.some.inj (h.symm.trans hrest)
    rfl
  · next hnone =>
    rw [h] at hnone
    cases hnone

theorem withSpaces_of_none {command : Text} {c : Char} {t : Text}
    (h : afterColor? command (c :: t) = none) :
    withSpaces command (c :: t) = c :: withSpaces command t := by
  rw [withSpaces]
  split
  · next hsome =>
    rw [h] at hsome
    cases hsome
  · rfl

theorem withSpaces_of_not_mentions {command t : Text} (h : mentions command t = false) :
    withSpaces command t = t := by
  induction t with
  | nil => rw [withSpaces]
  | cons c t ih =>
    simp only [mentions, Bool.or_eq_false_iff, Option.isSome_eq_false_iff, Option.isNone_iff_eq_none] at h
    rw [withSpaces_of_none h.1, ih h.2]

theorem mentions_eq_false_of_withSpaces {command t : Text} (h : withSpaces command t = t) :
    mentions command t = false := by
  cases hmentions : mentions command t with
  | false => rfl
  | true =>
    have hlength := length_withSpaces_lt hmentions
    rw [h] at hlength
    omega

/-- No color command begins in a text without backslashes. -/
theorem withSpaces_append {command s : Text} (rest : Text) (hcommand : command ∈ colorCommands)
    (hs : ∀ c ∈ s, c ≠ '\\') : withSpaces command (s ++ rest) = s ++ withSpaces command rest := by
  induction s with
  | nil => rfl
  | cons c s ih =>
    rw [List.cons_append, withSpaces_of_none (afterColor?_cons _ hcommand (hs c (List.mem_cons_self ..))),
      ih fun d hd => hs d (List.mem_cons_of_mem _ hd)]
    rfl

theorem withSpaces_colored_self {command w : Text} (t : Text) (hcommand : command ∈ colorCommands)
    (hw : ∀ c ∈ w, isColorChar c = true) :
    withSpaces command (command ++ '{' :: w ++ '}' :: t) = ' ' :: withSpaces command t := by
  have hafter := @afterColor?_self command w t hw
  simp only [colorCommands, List.mem_cons, List.not_mem_nil, or_false] at hcommand
  obtain rfl | rfl := hcommand <;> exact withSpaces_of_some hafter

theorem ne_backslash_of_isQuiet {c : Char} (h : isQuiet c = true) : c ≠ '\\' := by
  rintro rfl
  revert h
  decide

theorem withSpaces_colored_of_ne {command command' w : Text} (t : Text) (hcommand : command ∈ colorCommands)
    (hcommand' : command' ∈ colorCommands) (hne : command ≠ command') (hw : ∀ c ∈ w, isColorChar c = true) :
    withSpaces command (command' ++ '{' :: w ++ '}' :: t) =
      command' ++ '{' :: w ++ '}' :: withSpaces command t := by
  have hnone := afterColor?_of_ne ('{' :: w ++ '}' :: t) hcommand hcommand' hne
  obtain ⟨name, rfl, hname⟩ := exists_of_mem_colorCommands hcommand'
  have hall : ∀ c ∈ name ++ '{' :: w ++ ['}'], c ≠ '\\' := by
    intro c hc
    simp only [List.mem_append, List.mem_cons, List.not_mem_nil, or_false] at hc
    obtain (hc | rfl | hc) | rfl := hc
    · exact ne_backslash_of_isQuiet (isQuiet_of_isColorChar (hname c hc))
    · decide
    · exact ne_backslash_of_isQuiet (isQuiet_of_isColorChar (hw c hc))
    · decide
  have hquiet := withSpaces_append t hcommand hall
  rw [List.append_assoc, List.cons_append, withSpaces_of_none (by simpa using hnone)]
  simpa using hquiet

/-- The text ends in a color command while its brace is open. -/
def OpensColor (command t : Text) : Prop :=
  ∃ front w, t = front ++ (command ++ '{' :: w) ∧ ∀ c ∈ w, isColorChar c = true

/-- No color command reaches across a character that it does not contain, nor across a closing brace unless it is the
one that the command waits for. -/
theorem afterColor?_append_cons {command s : Text} {d : Char} (hcommand : command ∈ colorCommands)
    (hd : isColorChar d = false ∧ d ≠ '\\' ∧ d ≠ '{') (hopens : d = '}' → ¬ OpensColor command s) (r : Text) :
    afterColor? command (s ++ d :: r) = (afterColor? command s).map (· ++ d :: r) := by
  cases hs : afterColor? command s with
  | some rest =>
    obtain ⟨w, hw, rfl⟩ := afterColor?_eq_some_iff.mp hs
    exact afterColor?_eq_some_iff.mpr ⟨w, hw, by simp⟩
  | none =>
    rw [Option.map_none, Option.eq_none_iff_forall_ne_some]
    intro rest hrest
    obtain ⟨w, hw, hsplit⟩ := afterColor?_eq_some_iff.mp hrest
    have hwaits : ¬ (d = '}' ∧ s = command ++ '{' :: w) := fun ⟨hclose, hs⟩ => hopens hclose ⟨[], w, hs, hw⟩
    obtain ⟨inside, hfront, hback⟩ | ⟨inside, rfl, hback⟩ := List.append_eq_append_iff.mp hsplit
    · cases inside with
      | nil => exact hwaits ⟨(List.cons.inj hback).1, by rw [hfront, List.append_nil]⟩
      | cons e inside =>
        -- The character would stand in the command.
        obtain rfl := (List.cons.inj hback).1
        have hmem : d ∈ command ++ '{' :: w := by
          rw [hfront]
          simp
        obtain ⟨name, rfl, hname⟩ := exists_of_mem_colorCommands hcommand
        simp only [List.mem_append, List.mem_cons] at hmem
        obtain (rfl | hmem) | rfl | hmem := hmem
        · exact hd.2.1 rfl
        · exact absurd (hname d hmem) (by simp [hd.1])
        · exact hd.2.2 rfl
        · exact absurd (hw d hmem) (by simp [hd.1])
    · cases inside with
      | nil => exact hwaits ⟨(List.cons.inj hback).1.symm, List.append_nil _⟩
      | cons e inside =>
        obtain rfl := (List.cons.inj hback).1
        have hwhole : afterColor? command (command ++ '{' :: w ++ '}' :: inside) = some inside :=
          afterColor?_eq_some_iff.mpr ⟨w, hw, rfl⟩
        rw [hs] at hwhole
        cases hwhole

/-- What can follow a text inside braces and blanks. -/
def Ends (rest : Text) : Prop := ∀ c ∈ rest.head?, c = '}' ∨ Text.isBlank c = true

theorem isColorChar_of_isBlank {c : Char} (h : Text.isBlank c = true) : isColorChar c = false := by
  rw [isColorChar, Bool.or_eq_false_iff]
  constructor
  · rw [Bool.eq_false_iff]
    intro halphanum
    rw [Text.isBlank_of_isAlphanum halphanum] at h
    cases h
  · rw [beq_eq_false_iff_ne]
    rintro rfl
    revert h
    decide

/-- Spaces are written for the commands of a text one part after the other. -/
theorem withSpaces_append_of_ends {command t rest : Text} (hcommand : command ∈ colorCommands) (hrest : Ends rest)
    (hopens : rest.head? = some '}' → ¬ OpensColor command t) :
    withSpaces command (t ++ rest) = withSpaces command t ++ withSpaces command rest := by
  cases rest with
  | nil => rw [withSpaces, List.append_nil, List.append_nil]
  | cons d r =>
    have hd : isColorChar d = false ∧ d ≠ '\\' ∧ d ≠ '{' := by
      obtain rfl | hblank := hrest d rfl
      · decide
      · exact ⟨isColorChar_of_isBlank hblank, by rintro rfl; revert hblank; decide, by rintro rfl; revert hblank; decide⟩
    induction t using withSpaces.induct command with
    | case1 => rw [withSpaces, List.nil_append, List.nil_append]
    | case2 c t rest hafter ih =>
      have happend := afterColor?_append_cons hcommand hd (fun hclose => hopens (congrArg some hclose)) r
      rw [hafter, Option.map_some, List.cons_append] at happend
      rw [List.cons_append, withSpaces_of_some happend, withSpaces_of_some hafter, ih, List.cons_append]
      rintro hclose ⟨front, w, rfl, hw⟩
      obtain ⟨w', -, hsplit⟩ := afterColor?_eq_some_iff.mp hafter
      exact hopens hclose ⟨command ++ '{' :: w' ++ '}' :: front, w, by rw [hsplit]; simp, hw⟩
    | case3 c t hafter ih =>
      have happend := afterColor?_append_cons hcommand hd (fun hclose => hopens (congrArg some hclose)) r
      rw [hafter, Option.map_none, List.cons_append] at happend
      rw [List.cons_append, withSpaces_of_none happend, withSpaces_of_none hafter, ih, List.cons_append]
      rintro hclose ⟨front, w, rfl, hw⟩
      exact hopens hclose ⟨c :: front, w, rfl, hw⟩

/-- Blanks around a text do not belong to its color commands. -/
theorem withSpaces_blanks {command front back : Text} (hcommand : command ∈ colorCommands) (hfront : AllBlank front)
    (hback : AllBlank back) (t : Text) : withSpaces command (front ++ t ++ back) = front ++ withSpaces command t ++ back := by
  have quiet : ∀ {b : Text}, AllBlank b → ∀ c ∈ b, c ≠ '\\' :=
    fun hb c hc => ne_backslash_of_isQuiet (isQuiet_of_isBlank (hb c hc))
  have hblank : withSpaces command back = back := by
    have happend := withSpaces_append [] hcommand (quiet hback)
    rwa [withSpaces, List.append_nil] at happend
  rw [List.append_assoc, withSpaces_append _ hcommand (quiet hfront), withSpaces_append_of_ends hcommand, hblank,
    List.append_assoc]
  · exact fun c hc => .inr (hback c (List.mem_of_mem_head? hc))
  · intro hclose
    exact absurd (hback '}' (List.mem_of_mem_head? hclose)) (by decide)

theorem uncolored_eq_self {t : Text} (h : ∀ command ∈ colorCommands, mentions command t = false) : uncolored t = t := by
  rw [uncolored, dif_neg (by simp [h color (.head _)]), dif_neg (by simp [h textcolor (.tail _ (.head _))])]

/-- The text can stand in braces, and no color command is in it or at its end. -/
structure Clear (core : Text) : Prop where
  passed : Passed core
  keeps : ∀ command ∈ colorCommands, ∀ rest, Ends rest →
    withSpaces command (core ++ rest) = core ++ withSpaces command rest

theorem Clear.mentions_eq_false {core : Text} (h : Clear core) :
    ∀ command ∈ colorCommands, mentions command core = false := by
  intro command hcommand
  apply mentions_eq_false_of_withSpaces
  have hkeeps := h.keeps command hcommand [] (by simp [Ends])
  rwa [withSpaces, List.append_nil] at hkeeps

/-- Nothing can be taken off the text, and no color command in it or at its end. -/
structure Inert (core : Text) : Prop where
  passed : Passed core
  stripped_eq : stripped core = core
  keeps : ∀ command ∈ colorCommands, ∀ rest, Ends rest →
    withSpaces command (core ++ rest) = core ++ withSpaces command rest

theorem Inert.clear {core : Text} (h : Inert core) : Clear core := ⟨h.passed, h.keeps⟩

theorem stripped_congr {s t : Text} (h : Text.trim s = Text.trim t) : stripped s = stripped t := by
  rw [stripped, stripped, h]

theorem stripped_of_unbraced? {t inner : Text} (h : unbraced? (Text.trim t) = some inner) :
    stripped t = stripped inner := by
  rw [stripped]
  split
  · next hnone =>
    rw [h] at hnone
    cases hnone
  · next hsome =>
    rw [Option.some.inj (h.symm.trans hsome)]

theorem stripped_of_none {t : Text} (h : unbraced? (Text.trim t) = none) : stripped t = Text.trim t := by
  rw [stripped]
  split
  · rfl
  · next hsome =>
    rw [h] at hsome
    cases hsome

/-- Nothing comes off a text without blanks at its ends and without braces around it. -/
theorem stripped_eq_self {t : Text} (htrimmed : Text.Trimmed t) (h : unbraced? t = none) : stripped t = t := by
  have htrim := Text.trim_eq_self htrimmed
  rw [stripped_of_none (htrim.symm ▸ h), htrim]

theorem unbraced?_of_head?_ne {t : Text} (h : t.head? ≠ some '{') : unbraced? t = none := by
  unfold unbraced?
  split
  · exact absurd rfl h
  · rfl

/-- A text without backslashes is inert if no brace opens it. -/
theorem Inert.of_passed {core : Text} (hpassed : Passed core) (htrimmed : Text.Trimmed core)
    (hbrace : core.head? ≠ some '{') (hcommand : ∀ c ∈ core, c ≠ '\\') : Inert core where
  passed := hpassed
  stripped_eq := stripped_eq_self htrimmed (unbraced?_of_head?_ne hbrace)
  keeps := fun _ hmem rest _ => withSpaces_append rest hmem hcommand

theorem trimmed_braces (t : Text) : Text.Trimmed ('{' :: t ++ ['}']) := by
  have hopen : Text.isBlank '{' = false := by decide
  have hclose : Text.isBlank '}' = false := by decide
  constructor
  · simpa using hopen
  · intro c hc
    rw [List.getLast?_concat, Option.mem_some_iff] at hc
    rwa [← hc]

theorem stripped_braces {t : Text} (h : Passed t) : stripped ('{' :: t ++ ['}']) = stripped t := by
  apply stripped_of_unbraced?
  rw [Text.trim_eq_self (trimmed_braces t), h.unbraced?_braces]

theorem stripped_blanks {front t back : Text} (hfront : AllBlank front) (hback : AllBlank back) :
    stripped (front ++ t ++ back) = stripped t :=
  stripped_congr (Text.trim_append_of_allBlank hfront hback)

theorem isInfix_stripped (t : Text) : stripped t <:+: t := by
  induction t using stripped.induct with
  | case1 t hnone =>
    rw [stripped_of_none hnone]
    exact Text.isInfix_trim t
  | case2 t inner hinner ih =>
    rw [stripped_of_unbraced? hinner]
    have hbraced : inner <:+: Text.trim t := ⟨['{'], ['}'], (eq_braced_of_unbraced? hinner).symm⟩
    exact (ih.trans hbraced).trans (Text.isInfix_trim t)

theorem trimEnd_stripped (t : Text) : Text.trimEnd (stripped t) = stripped t := by
  induction t using stripped.induct with
  | case1 t h =>
    rw [stripped_of_none h]
    exact Text.trimEnd_eq_self (Text.trimmed_trim t).2
  | case2 t inner h ih => rwa [stripped_of_unbraced? h]

/-- Taking everything off a second time makes no difference. -/
theorem stripped_stripped (t : Text) : stripped (stripped t) = stripped t := by
  induction t using stripped.induct with
  | case1 t h =>
    rw [stripped_of_none h, stripped_of_none]
    · exact Text.trim_trim t
    · rw [Text.trim_trim, h]
  | case2 t inner h ih => rw [stripped_of_unbraced? h, ih]

namespace Wrapped

variable {commands : List Text} {core t : Text}

theorem passed (hcommands : commands ⊆ colorCommands) (hcore : Passed core) (h : Wrapped commands core t) :
    Passed t := by
  induction h with
  | core => exact hcore
  | braces _ ih => exact ih.braces
  | blanks hfront hback _ ih =>
    exact ((Passed.of_quiet fun c hc => isQuiet_of_isBlank (hfront c hc)).append ih).append
      (Passed.of_quiet fun c hc => isQuiet_of_isBlank (hback c hc))
  | colored hcommand hw _ ih =>
    have hcolored := (passed_colored (hcommands hcommand) hw).append ih
    simpa using hcolored

theorem mem (hcommands : commands ⊆ colorCommands) (h : Wrapped commands core t) {c : Char} (hc : c ∈ t) :
    c ∈ core ∨ Text.isBlank c = true ∨ isColorChar c = true ∨ c = '{' ∨ c = '}' ∨ c = '\\' := by
  induction h with
  | core => exact .inl hc
  | braces _ ih =>
    simp only [List.cons_append, List.mem_cons, List.mem_append, List.not_mem_nil, or_false] at hc
    obtain rfl | hc | rfl := hc
    · simp
    · exact ih hc
    · simp
  | blanks hfront hback _ ih =>
    obtain hc | hc := List.mem_append.mp hc
    · obtain hc | hc := List.mem_append.mp hc
      · exact .inr (.inl (hfront c hc))
      · exact ih hc
    · exact .inr (.inl (hback c hc))
  | colored hcommand hw _ ih =>
    obtain ⟨name, rfl, hname⟩ := exists_of_mem_colorCommands (hcommands hcommand)
    simp only [List.mem_append, List.mem_cons] at hc
    obtain ((rfl | hc) | rfl | hc) | rfl | hc := hc
    · simp
    · exact .inr (.inr (.inl (hname c hc)))
    · simp
    · exact .inr (.inr (.inl (hw c hc)))
    · simp
    · exact ih hc

theorem mono {commands' : List Text} (hsubset : commands ⊆ commands') (h : Wrapped commands core t) :
    Wrapped commands' core t := by
  induction h with
  | core => exact .core
  | braces _ ih => exact .braces ih
  | blanks hfront hback _ ih => exact .blanks hfront hback ih
  | colored hcommand hw _ ih => exact .colored (hsubset hcommand) hw ih

/-- Taking off braces and blanks gets to the core, or to a color command in front. -/
theorem stripped (hcommands : commands ⊆ colorCommands) (hcore : Clear core) (h : Wrapped commands core t) :
    Name.stripped t = Name.stripped core ∨ ∃ t', Wrapped commands core t' ∧ Name.stripped t = Text.trim t' := by
  induction h with
  | core => exact .inl rfl
  | braces h ih => rwa [stripped_braces (h.passed hcommands hcore.passed)]
  | blanks hfront hback _ ih => rwa [stripped_blanks hfront hback]
  | @colored command w t hcommand hw h _ =>
    refine .inr ⟨_, .colored hcommand hw h, stripped_of_none ?_⟩
    obtain ⟨name, rfl, -⟩ := exists_of_mem_colorCommands (hcommands hcommand)
    rw [Text.trim, Text.trimStart_eq_self (by simpa using (by decide : Text.isBlank '\\' = false)), List.cons_append,
      List.cons_append, Text.trimEnd]
    split <;> rfl

/-- Writing spaces for one of the commands leaves the others. -/
theorem withSpaces {command : Text} (hcommands : commands ⊆ colorCommands) (hcommand : command ∈ colorCommands)
    (hcore : Clear core) (h : Wrapped commands core t) :
    Wrapped (commands.filter (· ≠ command)) core (withSpaces command t) := by
  have hspaces : ∃ t', Wrapped (commands.filter (· ≠ command)) core t' ∧
      ∀ rest, Ends rest → Name.withSpaces command (t ++ rest) = t' ++ Name.withSpaces command rest := by
    induction h with
    | core => exact ⟨core, .core, hcore.keeps command hcommand⟩
    | @braces t _ ih =>
      obtain ⟨t', hwrapped, hspaces⟩ := ih
      refine ⟨'{' :: t' ++ ['}'], .braces hwrapped, ?_⟩
      intro rest _
      have hclose : Name.withSpaces command ('}' :: rest) = '}' :: Name.withSpaces command rest :=
        withSpaces_of_none (afterColor?_cons _ hcommand (by decide))
      have hopen := withSpaces_of_none (afterColor?_cons (t ++ '}' :: rest) hcommand (by decide : '{' ≠ '\\'))
      simp only [List.cons_append, List.append_assoc, List.nil_append]
      rw [hopen, hspaces _ (by simp [Ends]), hclose]
    | @blanks front t back hfront hback _ ih =>
      obtain ⟨t', hwrapped, hspaces⟩ := ih
      refine ⟨front ++ t' ++ back, .blanks hfront hback hwrapped, ?_⟩
      intro rest hrest
      have hends : Ends (back ++ rest) := by
        cases back with
        | nil => exact hrest
        | cons c back => simpa [Ends] using .inr (hback c (List.mem_cons_self ..))
      have quiet : ∀ {b : Text}, AllBlank b → ∀ c ∈ b, c ≠ '\\' :=
        fun hb c hc => ne_backslash_of_isQuiet (isQuiet_of_isBlank (hb c hc))
      rw [List.append_assoc, List.append_assoc, withSpaces_append _ hcommand (quiet hfront),
        hspaces _ hends, withSpaces_append _ hcommand (quiet hback), List.append_assoc, List.append_assoc]
    | @colored command' w t hcommand' hw _ ih =>
      obtain ⟨t', hwrapped, hspaces⟩ := ih
      by_cases hne : command = command'
      · subst hne
        refine ⟨[' '] ++ t' ++ [], .blanks (by simp [AllBlank]; decide) (by simp [AllBlank]) hwrapped, ?_⟩
        intro rest hrest
        rw [List.append_assoc, List.cons_append, withSpaces_colored_self _ hcommand hw, hspaces _ hrest]
        simp
      · refine ⟨command' ++ '{' :: w ++ '}' :: t', ?_, ?_⟩
        · exact .colored (List.mem_filter.mpr ⟨hcommand', by simpa using Ne.symm hne⟩) hw hwrapped
        · intro rest hrest
          rw [List.append_assoc, List.cons_append,
            withSpaces_colored_of_ne _ hcommand (hcommands hcommand') hne hw, hspaces _ hrest]
          simp
  obtain ⟨t', hwrapped, hspaces⟩ := hspaces
  have hall := hspaces [] (by simp [Ends])
  rw [Name.withSpaces, List.append_nil, List.append_nil] at hall
  rwa [hall]

/-- Without color commands only braces and blanks are around the core. -/
theorem stripped_eq (hcore : Clear core) (h : Wrapped [] core t) : Name.stripped t = Name.stripped core := by
  induction h with
  | core => rfl
  | braces h ih => rw [stripped_braces (h.passed (by simp) hcore.passed), ih]
  | blanks hfront hback _ ih => rw [stripped_blanks hfront hback, ih]
  | colored hcommand => cases hcommand

/-- Taking off braces, blanks and color commands leads to what is left of the core without its own braces and blanks. -/
theorem uncolored_stripped (hcore : Clear core) (h : Wrapped colorCommands core t) :
    uncolored (Name.stripped t) = Name.stripped core := by
  have hnone : ∀ command ∈ colorCommands, mentions command (Name.stripped core) = false := fun command hcommand =>
    mentions_eq_false_of_part (isInfix_stripped core) (hcore.mentions_eq_false command hcommand)
  -- Blanks that were trimmed off come back without a difference for the next round.
  have next {command : Text} (hcommand : command ∈ colorCommands) {s t : Text} (h : Wrapped colorCommands core t)
      (hs : s = Text.trim t) :
      ∃ u, Wrapped colorCommands core u ∧ Name.stripped (Name.withSpaces command s) = Name.stripped u := by
    obtain ⟨front, back, hfront, hback, ht⟩ := Text.exists_blanks_around t
    have hspaces := h.withSpaces (List.Subset.refl _) hcommand hcore
    rw [ht, ← hs, withSpaces_blanks hcommand hfront hback] at hspaces
    exact ⟨_, hspaces.mono List.filter_sublist.subset, (stripped_blanks hfront hback).symm⟩
  have hreached := h.stripped (List.Subset.refl _) hcore
  have hstripped := stripped_stripped t
  generalize Name.stripped t = s at hreached hstripped
  induction s using uncolored.induct with
  | case1 s hcolor ih =>
    obtain rfl | ⟨t, ht, hs⟩ := hreached
    · rw [hnone color (.head _)] at hcolor
      cases hcolor
    · obtain ⟨u, hu, hnext⟩ := next (.head _) ht hs
      rw [uncolored, dif_pos hcolor]
      rw [hnext] at ih ⊢
      exact ih (hu.stripped (List.Subset.refl _) hcore) (stripped_stripped u)
  | case2 s hcolor htextcolor ih =>
    obtain rfl | ⟨t, ht, hs⟩ := hreached
    · rw [hnone textcolor (.tail _ (.head _))] at htextcolor
      cases htextcolor
    · obtain ⟨u, hu, hnext⟩ := next (.tail _ (.head _)) ht hs
      rw [uncolored, dif_neg hcolor, dif_pos htextcolor]
      rw [hnext] at ih ⊢
      exact ih (hu.stripped (List.Subset.refl _) hcore) (stripped_stripped u)
  | case3 s hcolor htextcolor =>
    rw [uncolored, dif_neg hcolor, dif_neg htextcolor]
    obtain rfl | ⟨t, ht, rfl⟩ := hreached
    · rfl
    · -- Without a mention there is nothing to write spaces for.
      obtain ⟨front, back, hfront, hback, hsplit⟩ := Text.exists_blanks_around t
      have hself {command : Text} (hcommand : command ∈ colorCommands)
          (hmentions : ¬ mentions command (Text.trim t) = true) : Name.withSpaces command t = t := by
        rw [hsplit, withSpaces_blanks hcommand hfront hback, withSpaces_of_not_mentions (by simpa using hmentions),
          ← hsplit]
      have hone := ht.withSpaces (List.Subset.refl _) (.head _) hcore
      rw [hself (.head _) hcolor] at hone
      have hboth := hone.withSpaces List.filter_sublist.subset (.tail _ (.head _)) hcore
      rw [hself (.tail _ (.head _)) htextcolor] at hboth
      rw [← hstripped, stripped_congr (Text.trim_trim t)]
      exact hboth.stripped_eq hcore

/-- Braces, blanks and color commands around a text make no difference to its names. -/
theorem spelled_eq_spelled (hcore : Clear core) (h : Wrapped colorCommands core t) (spelling : Spelling) :
    spelled spelling t = spelled spelling core := by
  rw [spelled, spelled, h.uncolored_stripped hcore, Wrapped.core.uncolored_stripped hcore]

theorem spelled_eq (hcore : Inert core) (h : Wrapped colorCommands core t) (spelling : Spelling) :
    spelled spelling t = names spelling core := by
  rw [spelled, h.uncolored_stripped hcore.clear, hcore.stripped_eq]

end Wrapped

end LiveTex.Name

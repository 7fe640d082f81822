import LiveTex.Proofs.Name.Readback
import LiveTex.Proofs.Name.Scripts

/-!
Words. A word has its blanks in braces, so it is a row of pieces: characters, and groups in braces. The scanner takes up
one piece after the other and is back on the line at the end of the word, and what follows a space is read for itself.
-/

namespace LiveTex.Name

/-- A blank character stands behind more braces that open than braces that close. -/
def BlanksInBraces (t : Text) : Prop :=
  ∀ front, front <+: t → front.getLast?.any Text.isBlank = true → front.count '}' < front.count '{'

instance : DecidablePred BlanksInBraces := fun t =>
  decidable_of_iff (∀ front ∈ t.inits, front.getLast?.any Text.isBlank = true → front.count '}' < front.count '{')
    (by simp only [BlanksInBraces, List.mem_inits])

/-- A word of a spaced-out expression. It does not end where a script should begin, and its braces do not enclose it as a
whole. -/
structure IsWord (w : Text) : Prop where
  ne_nil : w ≠ []
  tidy : IsTidy w
  blanks : BlanksInBraces w
  last : w.getLast? ≠ some '_' ∧ w.getLast? ≠ some '^'
  bare : ∀ inner, w = '{' :: inner ++ ['}'] → ¬ Balanced inner

/-- A character that is not blank, or a group in braces. -/
inductive Piece : Text → Prop
  | char {c : Char} (hc : isQuiet c = true) (hblank : Text.isBlank c = false) : Piece [c]
  | group {g : Text} (hg : Tidy [] 0 g) : Piece ('{' :: g ++ ['}'])

/-- Pieces and what the scanner makes of them: one behind a mark is a script, the others are on the line. -/
inductive Row : Text → Zones → Prop
  | nil : Row [] (.rest [])
  | line {p t : Text} {z : Zones} (hp : Piece p) (hline : p ≠ ['_'] ∧ p ≠ ['^']) (h : Row t z) :
      Row (p ++ t) (z.put .main p)
  | script {mark : Char} {zone : Zone} {p t : Text} {z : Zones} (hmark : Marks mark zone) (hp : Piece p) (h : Row t z) :
      Row (mark :: (p ++ t)) (z.put zone p)

section

variable {depth : Nat} {mark : Char} {zone : Zone} {p g s t rest : Text} {z : Zones}

theorem Marks.isQuiet (h : Marks mark zone) : isQuiet mark = true := by
  cases h <;> decide

theorem Marks.isBlank (h : Marks mark zone) : Text.isBlank mark = false := by
  cases h <;> decide

/-! One piece. -/

/-- In a group the scanner stays in the zone that it is in. -/
theorem exists_zonesFrom_group (hg : Tidy [] depth g) (zone : Zone) (started : Bool) (t : Text) :
    ∃ started', zonesFrom (.within zone (depth + 1) started) (g ++ t) =
      (zonesFrom (.within zone 1 started') t).put zone g := by
  induction hg generalizing started with
  | nil => exact ⟨started, (Zones.put_nil ..).symm⟩
  | @opens depth g _ ih =>
    obtain ⟨started₁, hopen⟩ := zonesFrom_opens zone (depth + 1) started (g ++ t)
    obtain ⟨started₂, hscan⟩ := ih started₁
    exact ⟨started₂, by rw [List.cons_append, hopen, hscan, Zones.put_cons]⟩
  | @closes depth g _ ih =>
    obtain ⟨started₁, hclose⟩ := zonesFrom_closes zone (depth + 1) started (g ++ t)
    obtain ⟨started₂, hscan⟩ := ih started₁
    rw [if_neg (Nat.succ_ne_zero depth)] at hclose
    exact ⟨started₂, by rw [List.cons_append, hclose, hscan, Zones.put_cons]⟩
  | @quiet depth c g hc _ _ ih =>
    obtain ⟨hdepth, -⟩ | ⟨hdepth, -⟩ | ⟨zone', started₁, hzone, -, hquiet⟩ :=
      zonesFrom_quiet zone (depth + 1) started (g ++ t) hc
    -- Neither a mark nor a space counts in a group.
    · cases hdepth
    · cases hdepth
    · obtain ⟨started₂, hscan⟩ := ih started₁
      rw [hzone.resolve_right (Nat.succ_ne_zero depth)] at hquiet
      exact ⟨started₂, by rw [List.cons_append, hquiet, hscan, Zones.put_cons]⟩

namespace Piece

theorem ne_nil (h : Piece p) : p ≠ [] := by
  cases h <;> simp

theorem tidy (h : Piece p) : Tidy [] 0 p := by
  cases h with
  | char hc => exact .quiet hc (by simp) .nil
  | group hg => exact .opens (hg.append (.closes .nil))

theorem trimmed (h : Piece p) : Text.Trimmed p := by
  cases h with
  | char _ hblank => exact Text.trimmed_of_mem (by simpa using hblank)
  | group => exact trimmed_braces _

/-- Braces that enclose the first of several pieces do not enclose the text. -/
theorem unbraced?_append (h : Piece p) (hne : t ≠ []) : unbraced? (p ++ t) = none := by
  cases h with
  | char hc => exact unbraced?_of_head?_ne (by simpa using (isQuiet_iff.mp hc).2.1)
  | @group g hg =>
    have hclose := hg.passed 0 ('}' :: t)
    have hmore : untilClosing 0 ('}' :: t) = none := by
      rw [untilClosing.eq_def]
      simp [hne]
    rw [hmore, Option.map_none] at hclose
    simpa [unbraced?] using hclose

/-- Behind a piece the scanner is on the line, wherever the piece stands. -/
theorem exists_zonesFrom (h : Piece p) (zone : Zone) (hline : zone = .main → p ≠ ['_'] ∧ p ≠ ['^']) (started : Bool)
    (t : Text) : ∃ started', zonesFrom (.within zone 0 started) (p ++ t) = (zonesFrom (.main started') t).put zone p := by
  cases h with
  | @char c hc hblank =>
    cases zone with
    | main =>
      obtain ⟨hsub, hsup⟩ := hline rfl
      have hordinary : isOrdinary c = true := by simp_all [isOrdinary]
      exact ⟨_, zonesFrom_ordinary started t (List.forall_mem_singleton.mpr hordinary)⟩
    | sub | sup => exact ⟨started, by rw [Zones.put_singleton]; exact zonesFrom_behindMark (by simp) hc started t⟩
  | @group g hg =>
    obtain ⟨started₁, hopen⟩ := zonesFrom_opens zone 0 started (g ++ '}' :: t)
    obtain ⟨started₂, hinner⟩ := exists_zonesFrom_group hg zone started₁ ('}' :: t)
    obtain ⟨started₃, hclose⟩ := zonesFrom_closes zone 0 started₂ t
    refine ⟨started₃, ?_⟩
    rw [if_pos rfl] at hclose
    rw [List.cons_append, List.cons_append, List.append_assoc, List.singleton_append, hopen, hinner, hclose,
      Zones.put_cons, Zones.put_append, Zones.put_singleton]
    rfl

end Piece

/-! A row of pieces. -/

namespace Row

theorem tidy (h : Row t z) : Tidy [] 0 t := by
  induction h with
  | nil => exact .nil
  | line hp _ _ ih => exact hp.tidy.append ih
  | script hmark hp _ ih => exact .quiet hmark.isQuiet (by simp) (hp.tidy.append ih)

theorem trimmed (h : Row t z) : Text.Trimmed t := by
  induction h with
  | nil => exact Text.trimmed_of_mem (by simp)
  | line hp _ _ ih => exact hp.trimmed.append ih
  | script hmark hp _ ih =>
    have hfront : Text.Trimmed [_] := Text.trimmed_of_mem (by simpa using hmark.isBlank)
    exact hfront.append (hp.trimmed.append ih)

/-- A row of pieces is taken up whole where it ends or a space follows. -/
theorem zonesFrom_append (h : Row t z) (hrest : ∀ c ∈ rest.head?, c = ' ') (started : Bool) :
    zonesFrom (.main started) (t ++ rest) = { z with trailing := rest.tail } := by
  induction h generalizing started with
  | nil => exact zonesFrom_main_end started hrest
  | @line p t z hp hline _ ih =>
    obtain ⟨started', hscan⟩ := hp.exists_zonesFrom .main (fun _ => hline) started (t ++ rest)
    rw [ih started'] at hscan
    rw [List.append_assoc]
    exact hscan
  | @script mark zone p t z hmark hp _ ih =>
    obtain ⟨started', hscan⟩ := hp.exists_zonesFrom zone (absurd · hmark.ne_main) started (t ++ rest)
    rw [ih started'] at hscan
    rw [List.cons_append, List.append_assoc, zonesFrom_mark hmark]
    refine hscan.trans ?_
    cases hmark <;> rfl

theorem zones_append (h : Row t z) (hne : t ≠ []) (rest : Text) (hrest : ∀ c ∈ rest.head?, c = ' ') :
    zones (t ++ rest) = { z with trailing := rest.tail } := by
  have hstart : Text.trimStart (t ++ rest) = t ++ rest := by
    apply Text.trimStart_eq_self
    obtain ⟨c, t, rfl⟩ := List.exists_cons_of_ne_nil hne
    exact h.trimmed.1
  rw [zones, hstart, Scan.start_eq_main, h.zonesFrom_append hrest]

theorem unbraced?_append (h : Row t z) (hne : t ≠ []) (hrest : rest ≠ []) : unbraced? (t ++ rest) = none := by
  cases h with
  | nil => exact absurd rfl hne
  | line hp =>
    rw [List.append_assoc]
    exact hp.unbraced?_append (by simp [hrest])
  | script hmark => exact unbraced?_of_head?_ne (by cases hmark <;> simp)

end Row

/-! From words to rows of pieces. -/

/-- The brace that closes the last group open inside a text. -/
theorem Tidy.exists_closing (inner outer : Nat) (h : Tidy [] depth t) (hdepth : depth = inner + 1 + outer) :
    ∃ g rest, t = g ++ '}' :: rest ∧ Tidy [] inner g ∧ Tidy [] outer rest := by
  induction h generalizing inner with
  | nil => omega
  | opens _ ih =>
    obtain ⟨g, rest, rfl, hg, hrest⟩ := ih (inner + 1) (by omega)
    exact ⟨'{' :: g, rest, rfl, .opens hg, hrest⟩
  | @closes depth t ht ih =>
    cases inner with
    | zero =>
      obtain rfl : depth = outer := by omega
      exact ⟨[], t, rfl, .nil, ht⟩
    | succ inner =>
      obtain ⟨g, rest, rfl, hg, hrest⟩ := ih inner (by omega)
      exact ⟨'}' :: g, rest, rfl, .closes hg, hrest⟩
  | @quiet depth c t hc _ _ ih =>
    obtain ⟨g, rest, rfl, hg, hrest⟩ := ih inner hdepth
    exact ⟨c :: g, rest, rfl, .quiet hc (by simp) hg, hrest⟩

theorem BlanksInBraces.of_append (h : BlanksInBraces (s ++ t)) (hs : s.count '{' = s.count '}') : BlanksInBraces t := by
  intro front hfront hblank
  have hlast : (s ++ front).getLast?.any Text.isBlank = true := by
    obtain ⟨c, hc, hblank⟩ := (Option.any_eq_true _ _).mp hblank
    rw [List.getLast?_append, hc]
    exact hblank
  have hcount := h (s ++ front) ((List.prefix_append_right_inj s).mpr hfront) hlast
  rw [List.count_append, List.count_append] at hcount
  omega

/-- A tidy text begins with a piece. -/
theorem exists_piece (htidy : Tidy [] 0 t) (hblanks : BlanksInBraces t) (hne : t ≠ []) :
    ∃ p rest, t = p ++ rest ∧ Piece p ∧ Tidy [] 0 rest ∧ BlanksInBraces rest := by
  obtain ⟨p, rest, rfl, hp, hrest⟩ : ∃ p rest, t = p ++ rest ∧ Piece p ∧ Tidy [] 0 rest := by
    cases htidy with
    | nil => exact absurd rfl hne
    | opens h =>
      obtain ⟨g, rest, rfl, hg, hrest⟩ := h.exists_closing 0 0 rfl
      exact ⟨'{' :: g ++ ['}'], rest, by simp, .group hg, hrest⟩
    | @quiet _ c t hc _ h =>
      refine ⟨[c], t, rfl, .char hc ?_, h⟩
      rw [Bool.eq_false_iff]
      intro hblank
      have hcount := hblanks [c] (List.prefix_append [c] t) hblank
      obtain ⟨-, hopen, -⟩ := isQuiet_iff.mp hc
      simp [List.count_cons_of_ne hopen] at hcount
  exact ⟨p, rest, rfl, hp, hrest, hblanks.of_append hp.tidy.balanced.2⟩

theorem getLast?_ne_of_append {c : Char} (h : (s ++ t).getLast? ≠ some c) : t.getLast? ≠ some c := by
  intro hlast
  rw [List.getLast?_append, hlast] at h
  exact h rfl

/-- A tidy text with its blanks in braces is a row of pieces, unless a mark ends it. -/
theorem exists_row (htidy : Tidy [] 0 t) (hblanks : BlanksInBraces t)
    (hlast : t.getLast? ≠ some '_' ∧ t.getLast? ≠ some '^') : ∃ z, Row t z := by
  induction hlength : t.length using Nat.strongRecOn generalizing t with
  | ind n ih =>
    subst hlength
    by_cases hne : t = []
    · exact ⟨_, hne ▸ Row.nil⟩
    obtain ⟨p, rest, rfl, hp, hrest, hblanks'⟩ := exists_piece htidy hblanks hne
    have hlength := List.length_pos_iff.mpr hp.ne_nil
    have hlast' := hlast.imp getLast?_ne_of_append getLast?_ne_of_append
    -- A mark takes the piece behind it along.
    by_cases hmark : ∃ mark zone, Marks mark zone ∧ p = [mark]
    · obtain ⟨mark, zone, hmark, rfl⟩ := hmark
      have hscript : rest ≠ [] := by
        rintro rfl
        cases hmark with
        | sub => exact hlast.1 rfl
        | sup => exact hlast.2 rfl
      obtain ⟨q, rest, rfl, hq, hrest', hblanks''⟩ := exists_piece hrest hblanks' hscript
      have hlast'' := hlast'.imp getLast?_ne_of_append getLast?_ne_of_append
      have hshort : rest.length < ([mark] ++ (q ++ rest)).length := by
        simp only [List.length_append, List.length_cons]
        omega
      obtain ⟨z, hz⟩ := ih _ hshort hrest' hblanks'' hlast'' rfl
      have hrow := Row.script hmark hq hz
      exact ⟨_, hrow⟩
    · obtain ⟨z, hz⟩ := ih rest.length (by simpa using hlength) hrest hblanks' hlast' rfl
      refine ⟨_, .line hp ⟨?_, ?_⟩ hz⟩
      · rintro rfl
        exact hmark ⟨_, _, .sub, rfl⟩
      · rintro rfl
        exact hmark ⟨_, _, .sup, rfl⟩

/-! Rows of words. -/

/-- A text that is read as one name, as it stands. -/
structure IsName (t : Text) (z : Zones) : Prop where
  row : Row t z
  ne_nil : t ≠ []
  bare : unbraced? t = none

/-- A text that is read as a row of names, as it stands. -/
structure IsLine (t : Text) : Prop where
  ne_nil : t ≠ []
  tidy : Tidy [] 0 t
  trimmed : Text.Trimmed t
  bare : unbraced? t = none

theorem Tidy.unbraced?_eq_none_iff (h : Tidy [] 0 t) :
    unbraced? t = none ↔ ∀ inner, t = '{' :: inner ++ ['}'] → ¬ Balanced inner := by
  constructor
  · rintro hnone inner rfl hbalanced
    have hbackslash : '\\' ∉ inner := fun hmem => h.ne_backslash '\\' (by simp [hmem]) rfl
    rw [unbraced?_braced_eq_none_iff, unescaped_eq_self hbackslash] at hnone
    exact hnone ⟨hbalanced, endsInEscape_eq_false hbackslash⟩
  · intro hbare
    rw [Option.eq_none_iff_forall_ne_some]
    intro inner hinner
    exact hbare inner (eq_braced_of_unbraced? hinner) (h.of_unbraced? hinner).balanced

theorem IsLine.spelled_eq (h : IsLine t) (spelling : Spelling) : spelled spelling t = names spelling t := by
  rw [spelled_of_tidy h.tidy, stripped_eq_self h.trimmed h.bare]

theorem isWord_iff : IsWord t ↔ t ≠ [] ∧ IsTidy t ∧ BlanksInBraces t ∧
    (t.getLast? ≠ some '_' ∧ t.getLast? ≠ some '^') ∧ unbraced? t = none := by
  constructor
  · intro h
    exact ⟨h.ne_nil, h.tidy, h.blanks, h.last, (Tidy.of_isTidy h.tidy).unbraced?_eq_none_iff.mpr h.bare⟩
  · rintro ⟨hne, htidy, hblanks, hlast, hnone⟩
    exact ⟨hne, htidy, hblanks, hlast, (Tidy.of_isTidy htidy).unbraced?_eq_none_iff.mp hnone⟩

instance : DecidablePred IsWord := fun _ => decidable_of_iff _ isWord_iff.symm

theorem IsWord.exists_isName (h : IsWord t) : ∃ z, IsName t z := by
  obtain ⟨hne, htidy, hblanks, hlast, hnone⟩ := isWord_iff.mp h
  obtain ⟨z, hz⟩ := exists_row (.of_isTidy htidy) hblanks hlast
  exact ⟨z, hz, hne, hnone⟩

namespace IsName

theorem isLine (h : IsName t z) : IsLine t := ⟨h.ne_nil, h.row.tidy, h.row.trimmed, h.bare⟩

/-- A name stays where a line follows it. -/
theorem isLine_append (h : IsName t z) (hrest : IsLine rest) : IsLine (t ++ ' ' :: rest) where
  ne_nil := by simp
  tidy := h.row.tidy.append (.quiet (by decide) (by simp) hrest.tidy)
  trimmed := by simpa using h.row.trimmed.between hrest.trimmed h.ne_nil hrest.ne_nil [' ']
  bare := h.row.unbraced?_append h.ne_nil (List.cons_ne_nil _ _)

theorem names_eq (h : IsName t z) (spelling : Spelling) : names spelling t = z.name spelling := by
  have hzones := h.row.zones_append h.ne_nil [] (by simp)
  rw [List.append_nil] at hzones
  rw [names, hzones]
  rfl

theorem canonical_eq (h : IsName t z) : canonical t = z.name .braced := by
  rw [canonical, h.isLine.spelled_eq, h.names_eq]

/-- What follows a name is read for itself. -/
theorem names_append (h : IsName t z) (hne : rest ≠ []) :
    names .braced (t ++ ' ' :: rest) = names .braced t ++ ' ' :: names .braced rest := by
  have hzones := h.row.zones_append h.ne_nil (' ' :: rest) (by simp)
  rw [h.names_eq, names, hzones]
  simp [hne, Zones.name]

end IsName

/-- A row of names is a line, and it is read name by name. -/
theorem isLine_join {w : Text} {ws : List Text} (h : ∀ v ∈ w :: ws, ∃ z, IsName v z) :
    IsLine (Text.join [' '] (w :: ws)) ∧
      names .braced (Text.join [' '] (w :: ws)) = Text.join [' '] ((w :: ws).map canonical) := by
  induction ws generalizing w with
  | nil =>
    obtain ⟨z, hz⟩ := h w (.head _)
    exact ⟨hz.isLine, (hz.isLine.spelled_eq .braced).symm⟩
  | cons v ws ih =>
    obtain ⟨z, hz⟩ := h w (.head _)
    obtain ⟨hline, hnames⟩ := ih fun u hu => h u (.tail _ hu)
    have hjoin : Text.join [' '] (w :: v :: ws) = w ++ ' ' :: Text.join [' '] (v :: ws) := by simp [Text.join]
    rw [hjoin]
    refine ⟨hz.isLine_append hline, ?_⟩
    rw [hz.names_append hline.ne_nil, hnames, ← hz.isLine.spelled_eq .braced]
    simp [Text.join, canonical]

theorem canonical_join {ws : List Text} (h : ∀ w ∈ ws, ∃ z, IsName w z) :
    canonical (Text.join [' '] ws) = Text.join [' '] (ws.map canonical) := by
  cases ws with
  | nil => decide +kernel
  | cons w ws =>
    obtain ⟨hline, hnames⟩ := isLine_join h
    rw [canonical, hline.spelled_eq, hnames]

/-- The words of an expression keep apart: its canonical form is made of the canonical forms of its words, in order. -/
theorem canonical_join_words {ws : List Text} (h : ∀ w ∈ ws, IsWord w) :
    canonical (Text.join [' '] ws) = Text.join [' '] (ws.map canonical) :=
  canonical_join fun w hw => (h w hw).exists_isName

theorem canonical_join_words_of_groups :
    let ws : List Text := ["x_\x7ba b\x7d^2^3".toList, "+".toList, "\x7by\x7dz__\x7bu\x7d".toList]
    (∀ w ∈ ws, IsWord w) ∧ canonical (Text.join [' '] ws) = Text.join [' '] (ws.map canonical) ∧
      canonical (Text.join [' '] ws) = "x_\x7ba b\x7d^\x7b23\x7d + \x7by\x7dz\x7bu\x7d_\x7b_\x7d".toList := by
  intro ws
  have hwords : ∀ w ∈ ws, IsWord w := by decide +kernel
  exact ⟨hwords, canonical_join_words hwords, by decide +kernel⟩

end

end LiveTex.Name

import LiveTex.Proofs.Name.Words

/-!
Canonical names are their own canonical names. A script of blanks is left with nothing in its braces, and they are gone
when the name is read again; where every script says something, a name is put together into a row of pieces that has the
same zones up to the braces around the scripts.
-/

namespace LiveTex.Name

/-- The text cut into characters and groups in braces. So many groups are open in front of it, and its first part goes
on until they are closed. -/
def parts (depth : Nat) : Text → List Text
  | [] => []
  | c :: t =>
    let inner := if c = '{' then depth + 1 else if c = '}' then depth - 1 else depth
    if inner = 0 then [c] :: parts 0 t
    else match parts inner t with
      | [] => [[c]]
      | p :: ps => (c :: p) :: ps

/-- The parts behind the marks. A part behind a mark is not a mark itself. -/
def behindMarks : List Text → List Text
  | [] => []
  | [_] => []
  | mark :: p :: ps => if mark = ['_'] ∨ mark = ['^'] then p :: behindMarks ps else behindMarks (p :: ps)

/-- The scripts of a word, each with its braces. -/
def scripts (w : Text) : List Text := behindMarks (parts 0 w)

/-- A part without the braces around it. -/
def inside : Text → Text
  | '{' :: t => t.dropLast
  | t => t

/-- A name that is spelled as it is read. -/
def IsCanonical (t : Text) : Prop := ∃ z, IsName t z ∧ z.name .braced = t

section

variable {depth : Nat} {mark : Char} {zone : Zone} {p g t rest : Text} {ps : List Text} {z : Zones}

/-! The scripts of a row of pieces. -/

theorem parts_group (hg : Tidy [] depth g) (t : Text) :
    parts (depth + 1) (g ++ '}' :: t) = (g ++ ['}']) :: parts 0 t := by
  induction hg with
  | nil => rfl
  | opens _ ih => simp [parts, ih]
  | closes _ ih => simp [parts, ih]
  | quiet hc _ _ ih =>
    obtain ⟨-, hopen, hclose⟩ := isQuiet_iff.mp hc
    simp [parts, hopen, hclose, ih]

theorem Piece.parts_append (h : Piece p) (t : Text) : parts 0 (p ++ t) = p :: parts 0 t := by
  cases h with
  | char hc =>
    obtain ⟨-, hopen, hclose⟩ := isQuiet_iff.mp hc
    simp [parts, hopen, hclose]
  | group hg => simp [parts, parts_group hg]

theorem Piece.scripts_append (h : Piece p) (hline : p ≠ ['_'] ∧ p ≠ ['^']) (t : Text) :
    scripts (p ++ t) = scripts t := by
  rw [scripts, h.parts_append, scripts]
  cases parts 0 t with
  | nil => rfl
  | cons q ps => rw [behindMarks, if_neg (by simp [hline])]

theorem scripts_mark (hmark : Marks mark zone) (hp : Piece p) (t : Text) :
    scripts (mark :: (p ++ t)) = p :: scripts t := by
  have hcut : parts 0 (mark :: (p ++ t)) = [mark] :: p :: parts 0 t := by
    cases hmark <;> simp [parts, hp.parts_append]
  rw [scripts, hcut, behindMarks, if_pos (by cases hmark <;> simp), scripts]

/-- A mark behind a mark is a script, and a group can stand on the line. -/
example : scripts "x__\x7bb\x7d^\x7bc\x7d".toList = [['_'], "\x7bc\x7d".toList] := by decide

theorem Zones.text_put (z : Zones) (zone other : Zone) (t : Text) :
    (z.put zone t).text other = if zone = other then t ++ z.text other else z.text other := by
  cases zone <;> cases other <;> rfl

namespace Row

/-- What stands in a zone is made of scripts. -/
theorem exists_text_eq (h : Row t z) (zone : Zone) (hzone : zone ≠ .main) :
    ∃ ps : List Text, z.text zone = ps.flatten ∧ ∀ p ∈ ps, Piece p ∧ p ∈ scripts t := by
  induction h with
  | nil => exact ⟨[], Zones.text_rest [] zone, by simp⟩
  | line hp hline _ ih =>
    obtain ⟨ps, htext, hps⟩ := ih
    rw [Zones.text_put, if_neg (Ne.symm hzone), hp.scripts_append hline]
    exact ⟨ps, htext, hps⟩
  | @script mark zone' p t z hmark hp _ ih =>
    obtain ⟨ps, htext, hps⟩ := ih
    rw [Zones.text_put, scripts_mark hmark hp]
    have hmore : ∀ q ∈ ps, Piece q ∧ q ∈ p :: scripts t := fun q hq => ⟨(hps q hq).1, .tail _ (hps q hq).2⟩
    by_cases hsame : zone' = zone
    · rw [if_pos hsame, htext]
      exact ⟨p :: ps, rfl, List.forall_mem_cons.mpr ⟨⟨hp, .head _⟩, hmore⟩⟩
    · rw [if_neg hsame]
      exact ⟨ps, htext, hmore⟩

/-- What stands on the line of a row can stand in front of another one. -/
theorem main_append {z' : Zones} (h : Row t z) (h' : Row rest z') : Row (z.main ++ rest) (z'.put .main z.main) := by
  induction h with
  | nil => exact h'
  | @line p t z hp hline _ ih =>
    have hrow := ih.line hp hline
    rw [← Zones.put_append, ← List.append_assoc] at hrow
    exact hrow
  | script hmark _ _ ih => cases hmark <;> exact ih

theorem main_eq (h : Row t z) (hsub : z.sub = []) (hsup : z.sup = []) : z.main = t := by
  induction h with
  | nil => rfl
  | line _ _ _ ih => rw [← ih hsub hsup]; rfl
  | script hmark hp =>
    cases hmark
    · exact absurd (List.append_eq_nil_iff.mp hsub).1 hp.ne_nil
    · exact absurd (List.append_eq_nil_iff.mp hsup).1 hp.ne_nil

/-- Braces do not enclose a name that has a script. -/
theorem bare_of_script (h : Row t z) (hscript : z.sub ≠ [] ∨ z.sup ≠ []) : t ≠ [] ∧ unbraced? t = none := by
  induction h with
  | nil => simp [Zones.rest] at hscript
  | line hp _ _ ih =>
    have hmore := (ih hscript).1
    exact ⟨by simp [hmore], hp.unbraced?_append hmore⟩
  | script hmark => exact ⟨by simp, unbraced?_of_head?_ne (by cases hmark <;> simp)⟩

end Row

/-! Scripts that say something. -/

theorem Piece.getD_unbraced? (h : Piece p) : (unbraced? p).getD p = inside p := by
  cases h with
  | @char c hc =>
    obtain ⟨-, hopen, -⟩ := isQuiet_iff.mp hc
    rw [unbraced?_of_head?_ne (by simpa using hopen), Option.getD_none]
    unfold inside
    split
    · next heq => exact absurd (List.cons.inj heq).1 hopen
    · rfl
  | @group g hg =>
    rw [hg.passed.unbraced?_braces, Option.getD_some]
    simp [inside]

theorem tidy_flatten (h : ∀ p ∈ ps, Piece p) : Tidy [] 0 ps.flatten := by
  induction ps with
  | nil => exact .nil
  | cons p ps ih =>
    obtain ⟨hp, hps⟩ := List.forall_mem_cons.mp h
    exact hp.tidy.append (ih hps)

/-- A zone says something when its first script does. -/
theorem not_allBlank_flatten (hp : Piece p) (htells : ¬ Text.AllBlank (inside p)) (ps : List Text) :
    ¬ Text.AllBlank ((unbraced? (p :: ps).flatten).getD (p :: ps).flatten) := by
  rw [List.flatten_cons]
  by_cases hmore : ps.flatten = []
  · rwa [hmore, List.append_nil, hp.getD_unbraced?]
  · rw [hp.unbraced?_append hmore, Option.getD_none]
    intro hblank
    obtain ⟨c, p, rfl⟩ := List.exists_cons_of_ne_nil hp.ne_nil
    have hc := hp.trimmed.1 c rfl
    rw [hblank c (by simp)] at hc
    cases hc

/-- A zone that says something is read again as what it says, in braces. -/
theorem exists_zoneScript_eq {u : Text} (htidy : Tidy [] 0 u) (htells : ¬ Text.AllBlank ((unbraced? u).getD u))
    (mark : Char) : ∃ s, Tidy [] 0 s ∧ zoneScript mark .braced u = mark :: ('{' :: s ++ ['}']) ∧
      zoneScript mark .braced ('{' :: s ++ ['}']) = mark :: ('{' :: s ++ ['}']) := by
  obtain ⟨s, hs, hne, htrimmed⟩ : ∃ s, scriptText? u = some s ∧ s ≠ [] ∧ Text.Trimmed s := by
    refine ⟨_, ?_, Text.trim_ne_nil htells, Text.trimmed_trim _⟩
    unfold scriptText?
    split
    · next heq =>
      rw [heq] at htells
      exact absurd Text.allBlank_nil htells
    · next heq => rw [heq]
  have hpassed := (htidy.scriptText? hs).passed
  refine ⟨s, htidy.scriptText? hs, ?_, ?_⟩
  · rw [zoneScript_eq, hs]
    rfl
  · rw [zoneScript_of_trimmed .braced (by rw [hpassed.unbraced?_braces, Option.getD_some]) hne htrimmed]
    rfl

/-- Where all scripts of a row say something, the script of a zone can stand in front of another row, and there it comes
to itself. -/
theorem Row.exists_rescan (h : Row t z) (hscripts : ∀ p ∈ scripts t, ¬ Text.AllBlank (inside p))
    (hmark : Marks mark zone) : ∃ u, (u = [] → z.text zone = []) ∧
      zoneScript mark .braced u = zoneScript mark .braced (z.text zone) ∧
      ∀ {t' : Text} {z' : Zones}, Row t' z' → Row (zoneScript mark .braced (z.text zone) ++ t') (z'.put zone u) := by
  obtain ⟨ps, htext, hps⟩ := h.exists_text_eq zone hmark.ne_main
  rw [htext]
  cases ps with
  | nil =>
    refine ⟨[], fun _ => rfl, rfl, fun {t' z'} h' => ?_⟩
    rw [Zones.put_nil]
    exact h'
  | cons p ps =>
    obtain ⟨hp, hmem⟩ := hps p (.head _)
    obtain ⟨s, hs, hzone, hself⟩ := exists_zoneScript_eq (tidy_flatten fun q hq => (hps q hq).1)
      (not_allBlank_flatten hp (hscripts p hmem) ps) mark
    refine ⟨'{' :: s ++ ['}'], by simp, by rw [hzone, hself], fun {t' z'} h' => ?_⟩
    rw [hzone]
    exact .script hmark (.group hs) h'

theorem IsName.isCanonical (h : IsName t z) (hscripts : ∀ p ∈ scripts t, ¬ Text.AllBlank (inside p)) :
    IsCanonical (canonical t) := by
  obtain ⟨u, hu, hsub, hsubs⟩ := h.row.exists_rescan hscripts .sub
  obtain ⟨v, hv, hsup, hsups⟩ := h.row.exists_rescan hscripts .sup
  rw [h.canonical_eq]
  by_cases hscript : u ≠ [] ∨ v ≠ []
  · have hrow : Row (z.name .braced) ⟨z.main, u, v, []⟩ := by
      have hrow := h.row.main_append (hsubs (hsups .nil))
      simpa [Zones.name, Zones.text, Zones.put, Zones.rest] using hrow
    -- No braces come to enclose the name, since they would enclose a part of its line only.
    obtain ⟨hne, hbare⟩ := hrow.bare_of_script hscript
    refine ⟨_, ⟨hrow, hne, hbare⟩, ?_⟩
    rw [Zones.name, hsub, hsup]
    rfl
  · rw [not_or, not_not, not_not] at hscript
    have hsub : z.sub = [] := hu hscript.1
    have hsup : z.sup = [] := hv hscript.2
    have hname : z.name .braced = t := by
      rw [Zones.name, hsub, hsup, h.row.main_eq hsub hsup]
      simp [zoneScript, unbraced?]
    exact ⟨z, hname.symm ▸ h, rfl⟩

theorem IsCanonical.canonical_eq (h : IsCanonical t) : canonical t = t := by
  obtain ⟨z, hz, hname⟩ := h
  rw [hz.canonical_eq, hname]

end

/-- An expression whose words have no blank scripts comes to a canonical form that is its own canonical form. -/
theorem canonical_canonical_words {ws : List Text} (h : ∀ w ∈ ws, IsWord w)
    (hscripts : ∀ w ∈ ws, ∀ p ∈ scripts w, ¬ Text.AllBlank (inside p)) :
    canonical (canonical (Text.join [' '] ws)) = canonical (Text.join [' '] ws) := by
  have hcanonical : ∀ w ∈ ws, IsCanonical (canonical w) := by
    intro w hw
    obtain ⟨z, hz⟩ := (h w hw).exists_isName
    exact hz.isCanonical (hscripts w hw)
  rw [canonical_join fun w hw => (h w hw).exists_isName, canonical_join, List.map_map]
  · refine congrArg _ (List.map_congr_left fun w hw => ?_)
    exact (hcanonical w hw).canonical_eq
  · intro v hv
    obtain ⟨w, hw, rfl⟩ := List.mem_map.mp hv
    obtain ⟨z, hz, -⟩ := hcanonical w hw
    exact ⟨z, hz⟩

theorem canonical_canonical_words_of_repeated_scripts :
    let ws : List Text :=
      ["x^2_\x7b a b \x7d_c\x7bd\x7dy".toList, "_\x7b\x7b \x7d \x7d".toList, "\x7bu\x7d_^v^\x7b\x7bw\x7d\x7d".toList]
    (∀ w ∈ ws, IsWord w) ∧ (∀ w ∈ ws, ∀ p ∈ scripts w, ¬ Text.AllBlank (inside p)) ∧
      canonical (Text.join [' '] ws) =
        "x\x7bd\x7dy_\x7b\x7b a b \x7dc\x7d^\x7b2\x7d _\x7b\x7b \x7d\x7d \x7bu\x7dv_\x7b^\x7d^\x7b\x7bw\x7d\x7d".toList ∧
      canonical (canonical (Text.join [' '] ws)) = canonical (Text.join [' '] ws) := by
  intro ws
  have hwords : ∀ w ∈ ws, IsWord w := by decide +kernel
  have hscripts : ∀ w ∈ ws, ∀ p ∈ scripts w, ¬ Text.AllBlank (inside p) := by decide +kernel
  exact ⟨hwords, hscripts, by decide +kernel, canonical_canonical_words hwords hscripts⟩

end LiveTex.Name

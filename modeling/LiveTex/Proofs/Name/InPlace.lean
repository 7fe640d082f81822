import LiveTex.Proofs.Formula.Enclosure
import LiveTex.Proofs.Name.Scanning

/-!
Formulas in which every name stays in its place. The scanner takes a name apart into zones; where the
subscript and the superscript stand behind the name in this order, putting it together again changes the
braces of its scripts only.
-/

namespace LiveTex.Name

open Formula (Token Phrase Lexes Seam Unescapable Braced Whole extraLevels glues)

/-- A script as it was typed. -/
def typed (mark : Char) (zone : Text) : Text := if zone = [] then [] else mark :: zone

/-- A name as it was typed, when its scripts stand behind it. -/
def Zones.typed (z : Zones) : Text := z.main ++ Name.typed '_' z.sub ++ Name.typed '^' z.sup

/-- What a script says: it is written in braces whether it was typed in braces or not. -/
def content (zone : Text) : Text := Text.trim ((unbraced? zone).getD zone)

theorem content_of_unbraced? {zone inner : Text} (h : unbraced? zone = some inner) : content zone = Text.trim inner := by
  rw [content, h, Option.getD_some]

theorem content_of_none {zone : Text} (h : unbraced? zone = none) : content zone = Text.trim zone := by
  rw [content, h, Option.getD_none]

/-- The scanner and the parser agree on where a script ends, and in braces it takes so many levels more at
most. A script that was typed in braces stays as it is. -/
structure Intact (levels : Nat) (phrase : Phrase) (zone after : Text) : Prop where
  ne_nil : content zone ≠ []
  unescaped : (content zone).getLast? ≠ some '\\'
  extraLevels_le : unbraced? zone = none → ∀ script, Lexes zone script → extraLevels phrase script ≤ levels
  whole : unbraced? zone = none → ∀ script ts, Lexes zone script → Lexes after ts → Whole phrase script ts

/-- A script that was typed in braces is intact, whatever follows it. -/
theorem Intact.of_unbraced? {levels : Nat} {phrase : Phrase} {zone inner after : Text} (h : unbraced? zone = some inner)
    (hne : Text.trim inner ≠ []) (hlast : (Text.trim inner).getLast? ≠ some '\\') : Intact levels phrase zone after := by
  rw [← content_of_unbraced? h] at hne hlast
  exact ⟨hne, hlast, by simp [h], by simp [h]⟩

/-- A letter or a digit on its own is intact as an exponent, unless a factorial mark or another exponent
follows it. -/
theorem Intact.of_isAlphanum {levels : Nat} {c : Char} {after : Text} (hc : c.isAlphanum = true)
    (hafter : ∀ ts, Lexes after ts → Formula.passing? .bang ts = none ∧ Formula.passing? .caret ts = none) :
    Intact levels .exponent [c] after := by
  have hne : ∀ d : Char, d.isAlphanum = false → c ≠ d := by
    rintro d hd rfl
    rw [hc] at hd
    cases hd
  have hbare : unbraced? [c] = none := by
    unfold unbraced?
    split
    · next h => exact absurd (List.cons.inj h).1 (hne '{' (by decide))
    · rfl
  have htrim : Text.trim [c] = [c] :=
    Text.trim_eq_self (Text.trimmed_of_mem (by simpa using Text.isBlank_of_isAlphanum hc))
  have hsingle : ∀ script, Lexes [c] script → ∃ x, (x.kind = .number ∨ x.kind = .symbol) ∧ script = [x] := by
    intro script hscript
    obtain ⟨kind, hkind, hhead⟩ := Lexes.head_of_isAlphanum hc
    obtain ⟨x, us, rfl, rfl, -, hus⟩ := hscript.of_head hhead
    cases hus
    exact ⟨x, hkind, rfl⟩
  refine ⟨?_, ?_, fun _ script hscript => ?_, fun _ script ts hscript hts => ?_⟩
  · simp [content_of_none hbare, htrim]
  · simpa [content_of_none hbare, htrim] using hne '\\' (by decide)
  · obtain ⟨x, hx, rfl⟩ := hsingle script hscript
    obtain hx | hx := hx <;> simp [extraLevels, Formula.passing?, hx]
  · obtain ⟨x, hx, rfl⟩ := hsingle script hscript
    exact Formula.whole_exponent_of_single hx (hafter ts hts).1 (hafter ts hts).2

/-- The scripts of a name are intact, when this text stands behind the name. -/
structure Zones.Intact (z : Zones) (levels : Nat) (after : Text) : Prop where
  sub : z.sub ≠ [] → Name.Intact levels .argument z.sub (Name.typed '^' z.sup ++ after)
  sup : z.sup ≠ [] → Name.Intact levels .exponent z.sup after

/-- Every name of the text is where the scanner puts it together again. -/
inductive InPlace (levels : Nat) : Text → Prop
  | last {t : Text} (htyped : Text.trimStart t = (zones t).typed) (hintact : (zones t).Intact levels [])
      (htrailing : (zones t).trailing = []) : InPlace levels t
  | next {t after : Text} (htyped : Text.trimStart t = (zones t).typed ++ after)
      (hafter : after = ' ' :: (zones t).trailing ∨ after = (zones t).trailing ∧ after.head? = some '\\')
      (hintact : (zones t).Intact levels after) (htrailing : (zones t).trailing ≠ [])
      (hnext : InPlace levels (zones t).trailing) : InPlace levels t

/-- The tokens of the second text are those of the first one, with some scripts in braces. -/
def Kept (levels : Nat) (t t' : Text) : Prop :=
  ∀ ts, Lexes t ts → ∃ us, Lexes t' us ∧ Braced levels [] [] ts us

/-- The text does not go on a word or a number. -/
def Loose (t : Text) : Prop := ∀ c ∈ t.head?, glues c = false

theorem zoneScript_braced {zone : Text} (mark : Char) (h : content zone ≠ []) :
    zoneScript mark .braced zone = mark :: '{' :: (content zone ++ ['}']) := by
  rw [zoneScript]
  split
  · next hnil =>
    rw [content, hnil] at h
    exact absurd rfl h
  · next c t hcons =>
    rw [content, hcons, script]
    rfl

/-- A zone does not end in a backslash when what it says does not. -/
theorem getLast?_of_content {zone : Text} (h : (content zone).getLast? ≠ some '\\') : zone.getLast? ≠ some '\\' := by
  cases hunbraced : unbraced? zone with
  | some inner =>
    rw [eq_braced_of_unbraced? hunbraced, List.getLast?_concat]
    decide
  | none =>
    rw [content_of_none hunbraced] at h
    intro hlast
    obtain ⟨front, back, hfront, hback, hsplit⟩ := Text.exists_blanks_around zone
    rw [hsplit, List.getLast?_append, List.getLast?_append] at hlast
    have hne : ∀ {b : Text}, Text.AllBlank b → b.getLast? ≠ some '\\' := by
      intro b hb hb'
      exact absurd (hb _ (List.mem_of_getLast? hb')) (by decide)
    cases hb : back.getLast? with
    | some c =>
      rw [hb] at hlast
      exact hne hback (hb.trans hlast)
    | none =>
      rw [hb, Option.none_or] at hlast
      cases ht : (Text.trim zone).getLast? with
      | some c =>
        rw [ht] at hlast
        exact h (ht.trans hlast)
      | none =>
        rw [ht, Option.none_or] at hlast
        exact hne hfront hlast

/-- Trimming what stands in braces keeps the tokens. -/
theorem lexes_trim_braced {t : Text} {ts : List Token} (h : Lexes ('{' :: (t ++ ['}'])) ts)
    (hlast : (Text.trim t).getLast? ≠ some '\\') : Lexes ('{' :: (Text.trim t ++ ['}'])) ts := by
  obtain ⟨l, rest, rfl, hl, hlexeme, hrest⟩ := h.of_head rfl
  have hopen : (Formula.head '{' (Text.trim t ++ ['}'])).item = .token l.kind := by
    rw [hl]
    rfl
  have hclose : Loose ['}'] := by simpa [Loose] using by decide
  have hinner : t.getLast? ≠ some '\\' := hrest.unescaped (by simpa [Unescapable] using by decide)
  obtain ⟨us, vs, rfl, hus, hvs⟩ := hrest.split ⟨hinner, .inr hclose⟩
  exact .token hopen hlexeme ((hus.trim hlast).append hvs ⟨hlast, .inr hclose⟩)

theorem seam_brace (t v : Text) : Seam (t ++ ['}']) v :=
  ⟨by simp, .inl (by simpa using by decide)⟩

namespace Kept

variable {levels : Nat} {u v v' : Text}

theorem append (h : Kept levels v v') (hv : Unescapable v) (hloose : Loose v) (hloose' : Loose v') :
    Kept levels (u ++ v) (u ++ v') := by
  intro ts hts
  have hu := hts.unescaped hv
  obtain ⟨us, vs, rfl, hleft, hright⟩ := hts.split ⟨hu, .inr hloose⟩
  obtain ⟨vs', hright', hbraced⟩ := h vs hright
  exact ⟨us ++ vs', hleft.append hright' ⟨hu, .inr hloose'⟩, hbraced.append_left us⟩

theorem space (h : Kept levels v v') (u : Text) : Kept levels (u ++ ' ' :: v) (u ++ ' ' :: v') := by
  intro ts hts
  have hseam : ∀ w : Text, Seam (u ++ [' ']) w := fun w => ⟨by simp, .inl (by simpa using by decide)⟩
  rw [List.append_cons] at hts ⊢
  obtain ⟨us, vs, rfl, hleft, hright⟩ := hts.split (hseam v)
  obtain ⟨vs', hright', hbraced⟩ := h vs hright
  exact ⟨us ++ vs', hleft.append hright' (hseam v'), hbraced.append_left us⟩

/-- An intact script gets braces, or keeps those it has. -/
theorem script {mark : Char} {kind : Token.Kind} {phrase : Phrase} {zone : Text} (h : Kept levels v v')
    (hhead : ∀ t, Formula.head mark t = ⟨.token kind, [mark], t⟩) (hphrase : kind.script? = some phrase)
    (hintact : Intact levels phrase zone v) (hloose : Loose v) :
    Kept levels (mark :: (zone ++ v)) (zoneScript mark .braced zone ++ v') := by
  intro ts hts
  obtain ⟨m, rest, rfl, hm, hlexeme, hrest⟩ := hts.of_head (hhead _)
  obtain ⟨zs, vs, rfl, hzone, hafter⟩ := hrest.split ⟨getLast?_of_content hintact.unescaped, .inr hloose⟩
  obtain ⟨us, hafter', hbraced⟩ := h vs hafter
  have hmark : ∀ {t : Text} {xs : List Token}, Lexes t xs → Lexes (mark :: t) (m :: xs) := by
    intro t xs ht
    exact .token (by rw [hhead, hm]) (by rw [hhead, hlexeme]) (by rw [hhead]; exact ht)
  rw [zoneScript_braced mark hintact.ne_nil, List.cons_append]
  have hlast := hintact.unescaped
  cases hunbraced : unbraced? zone with
  | some inner =>
    have hbraces := eq_braced_of_unbraced? hunbraced
    rw [content_of_unbraced? hunbraced] at hlast ⊢
    rw [hbraces, List.append_assoc] at hzone
    have hzone' := (lexes_trim_braced hzone hlast).append hafter' (seam_brace ('{' :: Text.trim inner) v')
    exact ⟨m :: (zs ++ us), hmark hzone', .same (.refl m) (hbraced.append_left zs)⟩
  | none =>
    rw [content_of_none hunbraced] at hlast ⊢
    obtain ⟨l, hl⟩ : ∃ l : Token, l = ⟨.leftBrace, ['{'], 0, 0⟩ := ⟨_, rfl⟩
    obtain ⟨c, hc⟩ : ∃ c : Token, c = ⟨.rightBrace, ['}'], 0, 0⟩ := ⟨_, rfl⟩
    have hclose : Lexes ('}' :: v') (c :: us) := .token (by rw [hc]; rfl) (by rw [hc]; rfl) hafter'
    have hinside := (hzone.trim hlast).append hclose ⟨hlast, .inr (by simpa using by decide)⟩
    have hgroup : Lexes ('{' :: (Text.trim zone ++ ['}']) ++ v') (l :: (zs ++ c :: us)) := by
      rw [List.cons_append, List.append_assoc]
      exact .token (by rw [hl]; rfl) (by rw [hl]; rfl) hinside
    have halike : List.Forall₂ Token.Alike zs zs := List.forall₂_same.mpr fun x _ => .refl x
    exact ⟨m :: l :: (zs ++ c :: us), hmark hgroup, .script (.refl m) (by rw [hm, hphrase]) (by rw [hl]) (by rw [hc])
      (hintact.extraLevels_le hunbraced zs hzone) halike (hintact.whole hunbraced zs vs hzone hafter) hbraced⟩

/-- A zone that is empty leaves nothing, whether it is typed or spelled. -/
theorem zone {mark : Char} {kind : Token.Kind} {phrase : Phrase} {zone : Text} (h : Kept levels v v')
    (hhead : ∀ t, Formula.head mark t = ⟨.token kind, [mark], t⟩) (hphrase : kind.script? = some phrase)
    (hintact : zone ≠ [] → Intact levels phrase zone v) (hloose : Loose v) :
    Kept levels (typed mark zone ++ v) (zoneScript mark .braced zone ++ v') := by
  by_cases hzone : zone = []
  · rw [hzone, typed, if_pos rfl]
    exact h
  · rw [typed, if_neg hzone]
    exact h.script hhead hphrase (hintact hzone) hloose

end Kept

theorem loose_cons {c : Char} {t : Text} (hc : glues c = false) : Loose (c :: t) := by
  simpa [Loose] using hc

theorem unescapable_cons {c : Char} {t : Text} (hc : c.isAlpha = false ∧ Formula.isSpacingMark c = false) :
    Unescapable (c :: t) := by
  simpa [Unescapable] using hc

theorem loose_typed {mark : Char} {t : Text} (zone : Text) (hmark : glues mark = false) (ht : Loose t) :
    Loose (typed mark zone ++ t) := by
  rw [typed]
  split
  · exact ht
  · exact loose_cons hmark

theorem loose_zoneScript {mark : Char} {t : Text} (zone : Text) (hmark : glues mark = false) (ht : Loose t) :
    Loose (zoneScript mark .braced zone ++ t) := by
  rw [zoneScript]
  split
  · exact ht
  · exact loose_cons hmark

theorem unescapable_typed {mark : Char} {t : Text} (zone : Text) (hmark : mark.isAlpha = false ∧ Formula.isSpacingMark mark = false)
    (ht : zone = [] → Unescapable t) : Unescapable (typed mark zone ++ t) := by
  rw [typed]
  split
  · next hzone => exact ht hzone
  · exact unescapable_cons hmark

/-- Putting a name together again keeps the tokens when what follows is kept, too. -/
theorem Zones.kept {levels : Nat} {z : Zones} {after after' : Text} (hintact : z.Intact levels after)
    (h : Kept levels after after') (hloose : Loose after) (hloose' : Loose after')
    (hafter : z.sub = [] → z.sup = [] → Unescapable after) :
    Kept levels (z.typed ++ after) (z.name .braced ++ after') := by
  have hsup := h.zone (fun _ => rfl : ∀ t, Formula.head '^' t = ⟨.token .caret, ['^'], t⟩) rfl hintact.sup hloose
  have hsub := hsup.zone (fun _ => rfl : ∀ t, Formula.head '_' t = ⟨.token .underscore, ['_'], t⟩) rfl hintact.sub
    (loose_typed z.sup (by decide) hloose)
  have hall := hsub.append (u := z.main)
    (unescapable_typed z.sub (by decide) fun hnone => unescapable_typed z.sup (by decide) (hafter hnone))
    (loose_typed z.sub (by decide) (loose_typed z.sup (by decide) hloose))
    (loose_zoneScript z.sub (by decide) (loose_zoneScript z.sup (by decide) hloose'))
  rw [Zones.typed, Zones.name]
  simpa only [List.append_assoc] using hall

/-- Putting the names of a text together again keeps the tokens, apart from braces around scripts. -/
theorem InPlace.kept {levels : Nat} {t : Text} (h : InPlace levels t) : Kept levels t (names .braced t) := by
  induction h with
  | @last t htyped hintact htrailing =>
    have hnil : Kept levels [] [] := fun ts hts => ⟨ts, hts, by cases hts; exact .stop⟩
    have hkept := Zones.kept hintact hnil (by simp [Loose]) (by simp [Loose]) fun _ _ => by simp [Unescapable]
    rw [List.append_nil, List.append_nil, ← htyped] at hkept
    rw [names, dif_pos htrailing]
    intro ts hts
    exact hkept ts hts.trimStart
  | @next t after htyped hafter hintact htrailing _ ih =>
    rw [names, dif_neg htrailing]
    intro ts hts
    have hts := hts.trimStart
    rw [htyped] at hts
    obtain rfl | ⟨rfl, hbackslash⟩ := hafter
    · by_cases hscripts : (zones t).sub = [] ∧ (zones t).sup = []
      · -- Without scripts the name can end in a backslash, and the space belongs to it.
        have hspace := ih.space (zones t).main
        have htyped : (zones t).typed = (zones t).main := by simp [Zones.typed, typed, hscripts]
        have hname : (zones t).name .braced = (zones t).main := by
          simp [Zones.name, zoneScript, unbraced?, hscripts]
        rw [htyped] at hts
        rw [hname]
        exact hspace ts hts
      · exact Zones.kept hintact (ih.space []) (loose_cons (by decide)) (loose_cons (by decide))
          (fun hsub hsup => absurd ⟨hsub, hsup⟩ hscripts) ts hts
    · have hblank : Kept levels (zones t).trailing (' ' :: names .braced (zones t).trailing) := by
        intro ts hts
        obtain ⟨us, hus, hbraced⟩ := ih ts hts
        exact ⟨us, .layout rfl hus, hbraced⟩
      obtain ⟨rest, hrest⟩ := List.head?_eq_some_iff.mp hbackslash
      refine Zones.kept hintact hblank ?_ (loose_cons (by decide)) (fun _ _ => ?_) ts hts
      · rw [hrest]
        exact loose_cons (by decide)
      · rw [hrest]
        exact unescapable_cons (by decide)

/-- How a name ends: with the text, with a space, or before a command. -/
def Zones.EndsAt (z : Zones) (after : Text) : Prop :=
  after = [] ∧ z.trailing = [] ∨ after = ' ' :: z.trailing ∨ after = z.trailing ∧ after.head? = some '\\'

/-- Without marks of scripts everything is on the line. -/
theorem zonesFrom_of_not_mem {s : Scan} {t : Text} (hs : s.zone = .main) (hsub : '_' ∉ t) (hsup : '^' ∉ t) :
    (zonesFrom s t).sub = [] ∧ (zonesFrom s t).sup = [] ∧
      ∃ after, t = (zonesFrom s t).main ++ after ∧ (zonesFrom s t).EndsAt after := by
  induction t generalizing s with
  | nil => exact ⟨rfl, rfl, [], rfl, .inl ⟨rfl, rfl⟩⟩
  | cons c t ih =>
    simp only [List.mem_cons, not_or] at hsub hsup
    obtain ⟨-, zone, hmark, -⟩ | ⟨-, rest, hrest, hscan⟩ | ⟨-, hscan⟩ := zonesFrom_cons s c t
    · cases hmark with
      | sub => exact absurd rfl hsub.1
      | sup => exact absurd rfl hsup.1
    · rw [hscan]
      refine ⟨rfl, rfl, c :: t, rfl, ?_⟩
      obtain ⟨rfl, rfl⟩ | ⟨rfl, rfl⟩ := hrest
      · exact .inr (.inl rfl)
      · exact .inr (.inr ⟨rfl, rfl⟩)
    · have hzone : (s.after c).zone = .main := by
        obtain hstays | ⟨hends, -⟩ := s.after_cases c
        · rw [hstays, hs]
        · exact hends
      obtain ⟨hnosub, hnosup, after, hafter, hends⟩ := ih hzone hsub.2 hsup.2
      rw [hscan, hs]
      exact ⟨hnosub, hnosup, after, congrArg (c :: ·) hafter, hends⟩

theorem trimEnd_eq_of_append {a b : Text} (h : Text.trimEnd (a ++ b) = a ++ b) : Text.trimEnd b = b := by
  rw [Text.trimEnd_append] at h
  split at h
  · next hnil =>
    have hlength := congrArg List.length h
    have hle := Text.length_trimEnd_le a
    rw [List.length_append] at hlength
    have hb : b = [] := List.eq_nil_of_length_eq_zero (by omega)
    rw [hb]
    rfl
  · exact List.append_cancel_left h

/-- A text without marks of scripts stays in its place. -/
theorem inPlace_of_not_mem (levels : Nat) {t : Text} (ht : Text.trimEnd t = t) (hsub : '_' ∉ t) (hsup : '^' ∉ t) :
    InPlace levels t := by
  induction hlength : t.length using Nat.strongRecOn generalizing t with
  | ind n ih =>
    have hsplit : t.takeWhile Text.isBlank ++ Text.trimStart t = t := List.takeWhile_append_dropWhile
    have hmem : ∀ {c : Char}, c ∈ Text.trimStart t → c ∈ t := fun h => (List.dropWhile_suffix _).subset h
    have hscan := zonesFrom_of_not_mem (s := .start) (t := Text.trimStart t) rfl (fun h => hsub (hmem h))
      (fun h => hsup (hmem h))
    have hzones : zonesFrom .start (Text.trimStart t) = zones t := rfl
    rw [hzones] at hscan
    obtain ⟨hnosub, hnosup, after, hafter, hends⟩ := hscan
    have hend : Text.trimEnd after = after := by
      rw [← hsplit, hafter] at ht
      exact trimEnd_eq_of_append (trimEnd_eq_of_append ht)
    have htyped : Text.trimStart t = (zones t).typed ++ after := by
      simpa [Zones.typed, typed, hnosub, hnosup] using hafter
    have hintact : (zones t).Intact levels after := ⟨fun h => absurd hnosub h, fun h => absurd hnosup h⟩
    have hnext : (zones t).trailing ≠ [] → (zones t).trailing <:+ after → InPlace levels (zones t).trailing := by
      intro hne hsuffix
      have hmem' : ∀ {c : Char}, c ∈ (zones t).trailing → c ∈ t := by
        intro c hc
        apply hmem
        rw [hafter]
        exact List.mem_append_right _ (hsuffix.subset hc)
      obtain ⟨front, hfront⟩ := hsuffix
      rw [← hfront] at hend
      exact ih _ (hlength ▸ length_trailing_lt hne) (trimEnd_eq_of_append hend) (fun h => hsub (hmem' h))
        (fun h => hsup (hmem' h)) rfl
    obtain ⟨rfl, htrailing⟩ | hspace | ⟨heq, hbackslash⟩ := hends
    · exact .last (by simpa using htyped) hintact htrailing
    · have hne : (zones t).trailing ≠ [] := by
        intro hnil
        rw [hspace, hnil] at hend
        exact absurd hend (by decide)
      exact .next htyped (.inl hspace) hintact hne (hnext hne ⟨[' '], hspace.symm⟩)
    · have hne : (zones t).trailing ≠ [] := by
        intro hnil
        simp [heq, hnil] at hbackslash
      exact .next htyped (.inr ⟨heq, hbackslash⟩) hintact hne (hnext hne ⟨[], heq.symm⟩)

/-- A color command with its braces is one token, and the parser does not know it. -/
theorem exists_unknown {command rest : Text} {ts : List Token} (hcommand : command ∈ colorCommands)
    (h : Lexes (command ++ '{' :: rest) ts) : ∃ x ∈ ts, ¬ x.Known := by
  have hhead : ∃ name : Text, command = '\\' :: name ∧
      Formula.head '\\' (name ++ '{' :: rest) = ⟨.token .command, command, '{' :: rest⟩ := by
    simp only [colorCommands, List.mem_cons, List.not_mem_nil, or_false] at hcommand
    obtain rfl | rfl := hcommand
    · exact ⟨"color".toList, rfl, rfl⟩
    · exact ⟨"textcolor".toList, rfl, rfl⟩
  obtain ⟨name, hname, hhead⟩ := hhead
  rw [hname, List.cons_append] at h
  obtain ⟨x, us, rfl, hkind, hlexeme, -⟩ := h.of_head hhead
  refine ⟨x, .head _, fun hknown => ?_⟩
  have hx : x.commandName = command.tail := by simp [Token.commandName, hkind, hlexeme]
  have hunknown : ∀ command ∈ colorCommands, Formula.Command.ofName command.tail = .unknown ∧
      Formula.Operator.ofCommand? command.tail = none := by decide
  obtain hcommand' | hoperator := hknown hkind
  · exact hcommand' (by rw [hx, (hunknown command hcommand).1])
  · exact hoperator (by rw [hx, (hunknown command hcommand).2])

theorem mentions_eq_false_of_known {command t : Text} {ts : List Token} (hcommand : command ∈ colorCommands)
    (h : Lexes t ts) (hknown : ∀ x ∈ ts, x.Known) : mentions command (stripped t) = false := by
  cases hmentions : mentions command (stripped t) with
  | false => rfl
  | true =>
    exfalso
    obtain ⟨front, w, rest, -, hsplit⟩ := mentions_iff.mp hmentions
    obtain ⟨front', back', ht⟩ := isInfix_stripped t
    have ht : front' ++ front ++ (command ++ '{' :: (w ++ '}' :: rest ++ back')) = t := by
      rw [← ht, hsplit]
      simp
    rw [← ht] at h
    obtain ⟨name, hname, -⟩ := exists_of_mem_colorCommands hcommand
    have hbackslash : ∀ rest : Text, (command ++ rest).head? = some '\\' := by
      intro rest
      rw [hname]
      rfl
    have hseam : Formula.Seam (front' ++ front) (command ++ '{' :: (w ++ '}' :: rest ++ back')) := by
      constructor
      · apply h.unescaped
        intro c hc
        rw [hbackslash, Option.mem_some_iff] at hc
        rw [← hc]
        decide
      · right
        intro c hc
        rw [hbackslash, Option.mem_some_iff] at hc
        rw [← hc]
        decide
    obtain ⟨us, vs, rfl, -, hcolored⟩ := h.split hseam
    obtain ⟨x, hx, hunknown⟩ := exists_unknown hcommand hcolored
    exact hunknown (hknown x (List.mem_append_right _ hx))

/-- Nothing is taken out of a formula but what stands around it. -/
theorem canonical_of_known {t : Text} {ts : List Token} (h : Lexes t ts) (hknown : ∀ x ∈ ts, x.Known) :
    canonical t = names .braced (stripped t) := by
  rw [canonical, spelled, uncolored, dif_neg, dif_neg]
  · rw [mentions_eq_false_of_known (.tail _ (.head _)) h hknown]
    decide
  · rw [mentions_eq_false_of_known (.head _) h hknown]
    decide

end LiveTex.Name

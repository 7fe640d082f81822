import Mathlib.Data.List.Chain
import LiveTex.Proofs.Name.Readback
import LiveTex.Proofs.Name.Runs
import LiveTex.Proofs.Name.Scripts

/-!
Names with scripts of words or of one command, and words behind the name. However such a name is typed, it comes to the
same two spellings. The compact spelling is itself a way to type the name unless something stands behind a command that
lost its braces: that goes on in the command's script, and the spelling stands for another name.
-/

namespace LiveTex.Name

/-! Texts that stay as they are until they are read as names. -/

/-- Nothing can be taken off the end of the text, and a brace that opens in it stands directly behind the mark of a
script, so it is not that of a color command. -/
structure Tame (t : Text) : Prop where
  head : t.head? ≠ some '{'
  marked : t.IsChain fun c d => d = '{' → c = '_' ∨ c = '^'
  last : ∀ c ∈ t.getLast?, Text.isBlank c = false

namespace Tame

variable {s t : Text}

theorem append (hs : Tame s) (ht : Tame t) : Tame (s ++ t) where
  head := by
    rw [List.head?_append]
    cases hhead : s.head? with
    | none => exact ht.head
    | some c => simpa [hhead] using hs.head
  marked := by
    rw [List.isChain_append]
    refine ⟨hs.marked, ht.marked, fun c _ d hd hopen => absurd hd ?_⟩
    rw [hopen]
    exact ht.head
  last := by
    intro c hc
    rw [List.getLast?_append] at hc
    cases hlast : t.getLast? with
    | none =>
      rw [hlast, Option.none_or] at hc
      exact hs.last c hc
    | some d =>
      rw [hlast] at hc
      exact ht.last c (hlast.trans hc)

theorem of_not_mem (h : '{' ∉ t) (hlast : ∀ c ∈ t.getLast?, Text.isBlank c = false) : Tame t where
  head := fun hhead => h (List.mem_of_mem_head? hhead)
  marked := by
    apply List.Pairwise.isChain
    apply List.pairwise_of_forall_mem_list
    rintro c - d hd rfl
    exact absurd hd h
  last := hlast

theorem mentions_eq_false (h : Tame t) : ∀ command ∈ colorCommands, mentions command t = false := by
  intro command hcommand
  rw [Bool.eq_false_iff]
  intro hmentions
  obtain ⟨front, w, rest, -, rfl⟩ := mentions_iff.mp hmentions
  -- The commands end in a letter, and the brace stands behind that.
  obtain ⟨name, rfl⟩ := exists_concat_of_mem_colorCommands hcommand
  have hmarked := h.marked
  rw [show front ++ (name ++ ['r'] ++ '{' :: w ++ '}' :: rest) = (front ++ name) ++ 'r' :: '{' :: (w ++ '}' :: rest) by simp,
    List.isChain_append_cons_cons] at hmarked
  exact absurd (hmarked.2.1 rfl) (by decide)

end Tame

/-- Where an ordinary character begins a tame text, only the scanner of names has something to do. -/
theorem spelled_eq_names {c : Char} {t : Text} (hc : isOrdinary c = true) (h : Tame (c :: t)) (spelling : Spelling) :
    spelled spelling (c :: t) = names spelling (c :: t) := by
  have htrimmed : Text.Trimmed (c :: t) := ⟨by simpa using isBlank_of_isOrdinary hc, h.last⟩
  rw [spelled, stripped_eq_self htrimmed (unbraced?_of_head?_ne h.head), uncolored_eq_self h.mentions_eq_false]

/-! What a script says. -/

/-- A command name. -/
def IsCommand (s : Text) : Prop := ∃ name, s = '\\' :: name ∧ name ≠ [] ∧ AllLetters name

/-- Words with spaces between them, or one command. -/
inductive IsContent (s : Text) : Prop
  | words (hne : s ≠ []) (htrimmed : Text.Trimmed s) (hall : ∀ c ∈ s, isOrdinary c = true ∨ c = ' ')
  | command (h : IsCommand s)

/-- A script behind its mark, and nothing where there is no script. -/
def scriptIn (mark : Char) (spelling : Spelling) (s : Text) : Text := if s = [] then [] else script mark spelling s

section

variable {s : Text} {mark : Char}

theorem isQuiet_of_word {c : Char} (h : isOrdinary c = true ∨ c = ' ') : isQuiet c = true := by
  obtain h | rfl := h
  · exact isQuiet_of_isOrdinary h
  · decide

theorem isOrdinary_of_isAlpha {c : Char} (h : c.isAlpha = true) : isOrdinary c = true :=
  isOrdinary_of_isAlphanum (by simp [Char.isAlphanum, h])

theorem isQuiet_of_letters (h : AllLetters s) : ∀ c ∈ s, isQuiet c = true ∧ c ≠ ' ' := by
  intro c hc
  have hc := isOrdinary_of_isAlpha (h c hc)
  exact ⟨isQuiet_of_isOrdinary hc, (ne_of_isOrdinary hc).2.2.2.2.2⟩

theorem isContent_of_isOrdinary {c : Char} (hc : isOrdinary c = true) : IsContent [c] :=
  .words (by simp) (Text.trimmed_of_mem (by simpa using isBlank_of_isOrdinary hc)) (by simp [hc])

theorem IsContent.ne_nil (h : IsContent s) : s ≠ [] := by
  cases h with
  | words hne => exact hne
  | command h =>
    obtain ⟨name, rfl, -⟩ := h
    exact List.cons_ne_nil _ _

theorem IsContent.trimmed (h : IsContent s) : Text.Trimmed s := by
  cases h with
  | words _ htrimmed => exact htrimmed
  | command h =>
    obtain ⟨name, rfl, -, hletters⟩ := h
    apply Text.trimmed_of_mem
    rintro c (_ | ⟨_, hc⟩)
    · decide
    · exact isBlank_of_isOrdinary (isOrdinary_of_isAlpha (hletters c hc))

theorem IsContent.passed (h : IsContent s) : Passed s := by
  cases h with
  | words _ _ hall => exact Passed.of_quiet fun c hc => isQuiet_of_word (hall c hc)
  | command h =>
    obtain ⟨name, rfl, hne, hletters⟩ := h
    obtain ⟨c, name, rfl⟩ := List.exists_cons_of_ne_nil hne
    apply Passed.escape
    exact Passed.of_quiet fun d hd => isQuiet_of_isOrdinary (isOrdinary_of_isAlpha (hletters d (.tail _ hd)))

theorem IsContent.ne_brace (h : IsContent s) {c : Char} (hc : c ∈ s) : c ≠ '{' ∧ c ≠ '}' := by
  have hquiet : isQuiet c = true ∨ c = '\\' := by
    cases h with
    | words _ _ hall => exact .inl (isQuiet_of_word (hall c hc))
    | command h =>
      obtain ⟨name, rfl, -, hletters⟩ := h
      obtain _ | ⟨_, hc⟩ := hc
      · exact .inr rfl
      · exact .inl (isQuiet_of_isOrdinary (isOrdinary_of_isAlpha (hletters c hc)))
  obtain hquiet | rfl := hquiet
  · simp only [isQuiet, Bool.and_eq_true, bne_iff_ne] at hquiet
    exact ⟨hquiet.1.2, hquiet.2⟩
  · decide

/-- A script needs no braces when it is one character or a command. -/
theorem IsContent.isSingle_iff (h : IsContent s) :
    isSingle s = true ↔ (∃ c, s = [c] ∧ isOrdinary c = true) ∨ IsCommand s := by
  cases h with
  | words hne htrimmed hall =>
    obtain ⟨c, t, rfl⟩ := List.exists_cons_of_ne_nil hne
    have hc : isOrdinary c = true := by
      refine (hall c (.head _)).resolve_right ?_
      rintro rfl
      exact absurd (htrimmed.1 ' ' rfl) (by decide)
    have hbackslash := (ne_of_isOrdinary hc).1
    have hcommand : ¬ IsCommand (c :: t) := by
      rintro ⟨name, hname, -⟩
      exact hbackslash (List.cons.inj hname).1
    cases t with
    | nil => simp [isSingle, hc]
    | cons d t =>
      have hlong : isSingle (c :: d :: t) = false := by
        unfold isSingle
        split
        · next heq => cases heq
        · next heq => exact absurd (List.cons.inj heq).1 hbackslash
        · rfl
      simp [hlong, hcommand]
  | command h =>
    refine iff_of_true ?_ (.inr h)
    obtain ⟨name, rfl, hne, hletters⟩ := h
    obtain ⟨c, name, rfl⟩ := List.exists_cons_of_ne_nil hne
    simpa [isSingle] using ⟨hletters c (.head _), fun d hd => hletters d (.tail _ hd)⟩

/-- A zone is written as what it says. -/
theorem zoneScript_of_content {zone : Text} (spelling : Spelling) (hzone : (unbraced? zone).getD zone = s)
    (hs : s = [] ∨ IsContent s) : zoneScript mark spelling zone = scriptIn mark spelling s := by
  rw [scriptIn]
  obtain rfl | hs := hs
  · simp [zoneScript, hzone]
  · rw [if_neg hs.ne_nil, zoneScript_of_trimmed spelling hzone hs.ne_nil hs.trimmed]

theorem tame_braced {zone : Zone} (h : Marks mark zone) (hs : IsContent s) : Tame (mark :: '{' :: s ++ ['}']) := by
  have hback : Tame (s ++ ['}']) := by
    apply Tame.of_not_mem
    · simpa using fun hopen => (hs.ne_brace hopen).1 rfl
    · simpa using by decide
  refine ⟨?_, ?_, ?_⟩
  · cases h <;> simp
  · rw [List.cons_append, List.cons_append]
    refine .cons_cons (fun _ => by cases h <;> simp) ?_
    obtain ⟨c, t, rfl⟩ := List.exists_cons_of_ne_nil hs.ne_nil
    exact .cons_cons (fun hopen => absurd hopen (hs.ne_brace (.head _)).1) hback.marked
  · rw [List.getLast?_concat]
    simpa using by decide

theorem tame_bare {zone : Zone} (h : Marks mark zone) (hs : IsContent s) : Tame (mark :: s) := by
  apply Tame.of_not_mem
  · intro hopen
    obtain _ | ⟨_, hopen⟩ := hopen
    · cases h
    · exact (hs.ne_brace hopen).1 rfl
  · obtain ⟨c, t, rfl⟩ := List.exists_cons_of_ne_nil hs.ne_nil
    rw [List.getLast?_cons_cons]
    exact hs.trimmed.2

end

/-! The ways to type a script and the words behind a name. -/

/-- The ways to type a script. A command without braces is possible at the end of the text only. -/
inductive TypedScript (mark : Char) (s after : Text) : Text → Prop
  | absent (h : s = []) : TypedScript mark s after []
  | braced (h : IsContent s) : TypedScript mark s after (mark :: '{' :: s ++ ['}'])
  | one {c : Char} (h : s = [c]) (hc : isOrdinary c = true) : TypedScript mark s after [mark, c]
  | command (h : IsCommand s) (hafter : after = []) : TypedScript mark s after (mark :: s)

/-- Words with a space or more in front of each. -/
inductive Spaced : List Text → Text → Prop
  | nil : Spaced [] []
  | cons (gap : Nat) {w : Text} {ws : List Text} {t : Text} (hne : w ≠ []) (hw : ∀ c ∈ w, isOrdinary c = true)
      (h : Spaced ws t) : Spaced (w :: ws) (' ' :: List.replicate gap ' ' ++ w ++ t)

/-- The words with one space in front of each. -/
def spacedOut (ws : List Text) : Text := ws.flatMap (' ' :: ·)

theorem TypedScript.tame {mark : Char} {zone : Zone} (hmark : Marks mark zone) {s after t : Text}
    (h : TypedScript mark s after t) : Tame t := by
  cases h with
  | absent => exact .of_not_mem (by simp) (by simp)
  | braced h => exact tame_braced hmark h
  | one h hc => exact tame_bare hmark (isContent_of_isOrdinary hc)
  | command h => exact tame_bare hmark (.command h)

theorem Spaced.tame {ws : List Text} {t : Text} (h : Spaced ws t) : Tame t := by
  induction h with
  | nil => exact .of_not_mem (by simp) (by simp)
  | @cons gap w ws t hne hw h ih =>
    refine Tame.append (.of_not_mem ?_ fun c hc => ?_) ih
    · intro hopen
      obtain hopen | hopen := List.mem_append.mp hopen
      · obtain _ | ⟨_, hopen⟩ := hopen
        exact absurd (List.eq_of_mem_replicate hopen) (by decide)
      · exact (ne_of_isOrdinary (hw _ hopen)).2.1 rfl
    · rw [List.getLast?_append_of_ne_nil _ hne] at hc
      exact isBlank_of_isOrdinary (hw c (List.mem_of_mem_getLast? hc))

theorem zonesFrom_spaced {ws : List Text} {t : Text} (h : Spaced ws t) :
    zonesFrom (.main true) t = .rest t.tail := by
  apply zonesFrom_main_end
  cases h <;> simp

/-- The scanner finds in the zone of the script what the script says. -/
theorem TypedScript.exists_zone {mark : Char} {zone : Zone} (hmark : Marks mark zone) {s after t : Text}
    (h : TypedScript mark s after t) :
    ∃ u, (unbraced? u).getD u = s ∧
      zonesFrom (.main true) (t ++ after) = (zonesFrom (.main true) after).put zone u := by
  cases h with
  | absent h => exact ⟨[], h.symm, (Zones.put_nil ..).symm⟩
  | braced h =>
    refine ⟨'{' :: s ++ ['}'], by rw [h.passed.unbraced?_braces, Option.getD_some], ?_⟩
    have hscan := zonesFrom_inBraces hmark (fun c hc => h.ne_brace hc) after
    simpa using hscan
  | @one c h hc =>
    refine ⟨[c], ?_, ?_⟩
    · have hbare : unbraced? [c] = none := unbraced?_of_head?_ne (by simpa using (ne_of_isOrdinary hc).2.1)
      rw [hbare, Option.getD_none, h]
    · rw [Zones.put_cons, Zones.put_nil]
      exact zonesFrom_one hmark hc after
  | command h hafter =>
    obtain ⟨name, rfl, hne, hletters⟩ := h
    obtain ⟨c, name, rfl⟩ := List.exists_cons_of_ne_nil hne
    refine ⟨'\\' :: c :: name, by rw [unbraced?_of_head?_ne (by simp), Option.getD_none], ?_⟩
    rw [hafter, zonesFrom_command hmark (isQuiet_of_letters hletters)]
    rfl

/-- The words behind a name stay, with single spaces between them. -/
theorem furtherNames_of_spaced {ws : List Text} {back t : Text} (h : Spaced ws back) (ht : (zones t).trailing = back.tail) :
    furtherNames t = spacedOut ws := by
  induction h generalizing t with
  | nil => exact if_pos ht
  | @cons gap w ws back hne hw h ih =>
    have hzones : zones (List.replicate gap ' ' ++ w ++ back) = ⟨w, [], [], back.tail⟩ := by
      have hstart : Text.trimStart (List.replicate gap ' ' ++ (w ++ back)) = Text.trimStart (w ++ back) :=
        Text.trimStart_append_of_allBlank fun c hc => by rw [List.eq_of_mem_replicate hc]; decide
      have hzones := zones_ordinary_append back hne hw
      rw [zones, zonesFrom_spaced h] at hzones
      rw [List.append_assoc, zones, hstart, hzones]
      simp [Zones.onLine, Zones.rest]
    have htrailing : (zones t).trailing = List.replicate gap ' ' ++ w ++ back := ht
    rw [furtherNames, htrailing, if_neg (by simp [hne]), names_eq, ih (by rw [hzones]), hzones]
    simp [zoneScript, unbraced?, spacedOut]

/-- A name with an optional subscript and an optional superscript, and words behind it. A script that is not there says
nothing. -/
structure Scripted where
  base : Text
  sub : Text
  sup : Text
  words : List Text
  base_ne_nil : base ≠ []
  base_ordinary : ∀ c ∈ base, isOrdinary c = true
  sub_content : sub = [] ∨ IsContent sub
  sup_content : sup = [] ∨ IsContent sup
  words_ordinary : ∀ w ∈ words, w ≠ [] ∧ ∀ c ∈ w, isOrdinary c = true

namespace Scripted

variable {n : Scripted}

/-- The name in a spelling. -/
def text (n : Scripted) (spelling : Spelling) : Text :=
  n.base ++ (scriptIn '_' spelling n.sub ++ (scriptIn '^' spelling n.sup ++ spacedOut n.words))

/-- The ways to type a name. -/
inductive Typed (n : Scripted) : Text → Prop
  | subFirst {s s' back : Text} (hsub : TypedScript '_' n.sub (s' ++ back) s) (hsup : TypedScript '^' n.sup back s')
      (hback : Spaced n.words back) : Typed n (n.base ++ (s ++ (s' ++ back)))
  | supFirst {s s' back : Text} (hsup : TypedScript '^' n.sup (s' ++ back) s) (hsub : TypedScript '_' n.sub back s')
      (hback : Spaced n.words back) : Typed n (n.base ++ (s ++ (s' ++ back)))

/-- Nothing stands behind a command that the compact spelling takes the braces off. -/
def CommandsLast (n : Scripted) : Prop :=
  (IsCommand n.sub → n.sup = [] ∧ n.words = []) ∧ (IsCommand n.sup → n.words = [])

theorem spaced_words (n : Scripted) : Spaced n.words (spacedOut n.words) := by
  have hwords := n.words_ordinary
  generalize n.words = words at hwords ⊢
  induction words with
  | nil => exact .nil
  | cons w ws ih =>
    obtain ⟨hne, hw⟩ := hwords w (.head _)
    exact .cons 0 hne hw (ih fun v hv => hwords v (.tail _ hv))

theorem tame_base (n : Scripted) : Tame n.base := by
  apply Tame.of_not_mem
  · exact fun hopen => (ne_of_isOrdinary (n.base_ordinary _ hopen)).2.1 rfl
  · exact fun c hc => isBlank_of_isOrdinary (n.base_ordinary c (List.mem_of_mem_getLast? hc))

/-- A tame text behind the base of a name is read as a row of names. -/
theorem spelled_base_append (n : Scripted) {t : Text} (ht : Tame t) (spelling : Spelling) :
    spelled spelling (n.base ++ t) = names spelling (n.base ++ t) := by
  have htame := n.tame_base.append ht
  obtain ⟨c, b, hbase⟩ := List.exists_cons_of_ne_nil n.base_ne_nil
  rw [hbase] at htame ⊢
  exact spelled_eq_names (n.base_ordinary c (by simp [hbase])) htame spelling

/-- However a name is typed, the scanner finds its scripts, and the words behind it. -/
theorem exists_zones_of_typed {t : Text} (h : n.Typed t) :
    ∃ zsub zsup back, (unbraced? zsub).getD zsub = n.sub ∧ (unbraced? zsup).getD zsup = n.sup ∧
      Spaced n.words back ∧ zones t = ⟨n.base, zsub, zsup, back.tail⟩ := by
  cases h with
  | @subFirst _ _ back hsub hsup hback =>
    obtain ⟨zsub, hzsub, hscan⟩ := hsub.exists_zone .sub
    obtain ⟨zsup, hzsup, hscan'⟩ := hsup.exists_zone .sup
    refine ⟨zsub, zsup, back, hzsub, hzsup, hback, ?_⟩
    rw [zones_ordinary_append _ n.base_ne_nil n.base_ordinary, hscan, hscan', zonesFrom_spaced hback]
    simp [Zones.onLine, Zones.put, Zones.rest]
  | @supFirst _ _ back hsup hsub hback =>
    obtain ⟨zsub, hzsub, hscan⟩ := hsub.exists_zone .sub
    obtain ⟨zsup, hzsup, hscan'⟩ := hsup.exists_zone .sup
    refine ⟨zsub, zsup, back, hzsub, hzsup, hback, ?_⟩
    rw [zones_ordinary_append _ n.base_ne_nil n.base_ordinary, hscan', hscan, zonesFrom_spaced hback]
    simp [Zones.onLine, Zones.put, Zones.rest]

theorem names_of_typed {t : Text} (h : n.Typed t) (spelling : Spelling) : names spelling t = n.text spelling := by
  obtain ⟨zsub, zsup, back, hsub, hsup, hback, hzones⟩ := exists_zones_of_typed h
  rw [names_eq, furtherNames_of_spaced hback (by rw [hzones]), hzones, text]
  simp only [zoneScript_of_content spelling hsub n.sub_content, zoneScript_of_content spelling hsup n.sup_content]

/-- However a name is typed, it has the same two spellings. -/
theorem spelled_of_typed {t : Text} (h : n.Typed t) (spelling : Spelling) : spelled spelling t = n.text spelling := by
  rw [← names_of_typed h spelling]
  cases h with
  | subFirst hsub hsup hback =>
    exact n.spelled_base_append ((hsub.tame .sub).append ((hsup.tame .sup).append hback.tame)) spelling
  | supFirst hsup hsub hback =>
    exact n.spelled_base_append ((hsup.tame .sup).append ((hsub.tame .sub).append hback.tame)) spelling

/-- A script in the compact spelling is a way to type it, unless it is a command and something follows. -/
theorem typedScript_compact {mark : Char} {s after : Text} (hs : s = [] ∨ IsContent s)
    (hafter : IsCommand s → after = []) : TypedScript mark s after (scriptIn mark .compact s) := by
  obtain rfl | hs := hs
  · exact .absent rfl
  · rw [scriptIn, if_neg hs.ne_nil, script]
    by_cases hsingle : isSingle s = true
    · rw [if_pos (by simp [hsingle])]
      obtain ⟨c, rfl, hc⟩ | hcommand := hs.isSingle_iff.mp hsingle
      · exact .one rfl hc
      · exact .command hcommand (hafter hcommand)
    · rw [if_neg (by simp [hsingle])]
      exact .braced hs

/-- The compact spelling is a way to type the name when nothing stands behind its commands. -/
theorem CommandsLast.typed (h : n.CommandsLast) : n.Typed (n.text .compact) := by
  refine .subFirst (typedScript_compact n.sub_content fun hcommand => ?_)
    (typedScript_compact n.sup_content fun hcommand => ?_) n.spaced_words
  · obtain ⟨hsup, hwords⟩ := h.1 hcommand
    simp [hsup, hwords, scriptIn, spacedOut]
  · simp [h.2 hcommand, spacedOut]

theorem tame_scriptIn {mark : Char} {zone : Zone} (hmark : Marks mark zone) (spelling : Spelling) {s : Text}
    (hs : s = [] ∨ IsContent s) : Tame (scriptIn mark spelling s) := by
  obtain rfl | hs := hs
  · exact .of_not_mem (by simp [scriptIn]) (by simp [scriptIn])
  · rw [scriptIn, if_neg hs.ne_nil, script]
    split
    · exact tame_bare hmark hs
    · exact tame_braced hmark hs

theorem spelled_text (n : Scripted) (spelling spelling' : Spelling) :
    spelled spelling (n.text spelling') = names spelling (n.text spelling') :=
  n.spelled_base_append ((tame_scriptIn .sub spelling' n.sub_content).append
    ((tame_scriptIn .sup spelling' n.sup_content).append n.spaced_words.tame)) spelling

/-! A compact spelling in which something stands behind a command. -/

/-- A mark stands behind the base of a name with a script. -/
theorem exists_text_eq (h : n.sub ≠ [] ∨ n.sup ≠ []) (spelling : Spelling) :
    ∃ mark zone back, Marks mark zone ∧ n.text spelling = n.base ++ mark :: back := by
  have hscript (mark : Char) {s : Text} (hs : s ≠ []) : ∃ back, scriptIn mark spelling s = mark :: back := by
    rw [scriptIn, if_neg hs, script]
    split <;> exact ⟨_, rfl⟩
  by_cases hsub : n.sub = []
  · obtain ⟨back, hback⟩ := hscript '^' (h.resolve_left (not_not.mpr hsub))
    exact ⟨'^', .sup, _, .sup, by rw [text, hsub, hback]; rfl⟩
  · obtain ⟨back, hback⟩ := hscript '_' hsub
    exact ⟨'_', .sub, _, .sub, by rw [text, hback]; rfl⟩

/-- A text that goes on in the line where the name has a script is read as another name. -/
theorem names_ne_of_line (h : n.sub ≠ [] ∨ n.sup ≠ []) {t w m : Text} (hne : w ≠ [])
    (hw : ∀ c ∈ w, isOrdinary c = true) (hmain : (zones t).main = n.base ++ (w ++ m)) :
    names .braced t ≠ n.text .braced := by
  obtain ⟨c, w, rfl⟩ := List.exists_cons_of_ne_nil hne
  obtain ⟨mark, zone, back, hmark, htext⟩ := exists_text_eq h .braced
  rw [names_eq, hmain, htext]
  intro heq
  simp only [List.append_assoc, List.append_cancel_left_eq, List.cons_append] at heq
  have hc := ne_of_isOrdinary (hw c (.head _))
  rw [(List.cons.inj heq).1] at hc
  cases hmark with
  | sub => exact hc.2.2.2.1 rfl
  | sup => exact hc.2.2.2.2.1 rfl

/-- The space behind a command becomes part of the script, and the first word behind it part of the line. -/
theorem exists_main_eq {mark : Char} {zone : Zone} (hmark : Marks mark zone) {s w t : Text} (hs : IsCommand s)
    (hw : ∀ c ∈ w, isOrdinary c = true) :
    ∃ m, (zonesFrom (.main true) (mark :: s ++ ' ' :: (w ++ t))).main = w ++ m := by
  obtain ⟨name, rfl, hname, hletters⟩ := hs
  obtain ⟨c, name, rfl⟩ := List.exists_cons_of_ne_nil hname
  rw [zonesFrom_command hmark (isQuiet_of_letters hletters), zonesFrom_behindCommand_space hmark.ne_main,
    zonesFrom_ordinary true t hw]
  cases hmark <;> exact ⟨_, rfl⟩

/-- A superscript behind a command becomes part of the subscript. -/
theorem names_ne_of_sub (hsub : IsCommand n.sub) (t : Text) :
    names .braced (n.base ++ ('_' :: n.sub ++ '^' :: t)) ≠ n.text .braced := by
  obtain ⟨name, hname, hne, hletters⟩ := id hsub
  obtain ⟨c, name, rfl⟩ := List.exists_cons_of_ne_nil hne
  have hcaret : zonesFrom (.behindCommand .sub) ('^' :: t) = (zonesFrom (.behindCommand .sub) t).push .sub '^' :=
    zonesFrom_behindCommand_cons (by simp) (by decide) (by decide) false t
  have hzones := zones_ordinary_append ('_' :: n.sub ++ '^' :: t) n.base_ne_nil n.base_ordinary
  rw [hname, zonesFrom_command .sub (isQuiet_of_letters hletters), hcaret, ← hname] at hzones
  have hline := head?_main_zonesFrom_ne .sub (s := .behindCommand .sub) (by simp [Scan.behindCommand]) t
  generalize zonesFrom (.behindCommand .sub) t = z at hzones hline
  have hcontent : IsContent n.sub := .command hsub
  have htrim := Text.trim_append_cons (c := '^') (by decide) n.sub z.sub
  rw [Text.trimStart_eq_self hcontent.trimmed.1] at htrim
  generalize Text.trimEnd z.sub = inside at htrim
  have hzone : zoneScript '_' .braced (n.sub ++ '^' :: z.sub) = '_' :: '{' :: (n.sub ++ '^' :: inside) ++ ['}'] := by
    have hbare : unbraced? (n.sub ++ '^' :: z.sub) = none := unbraced?_of_head?_ne (by simp [hname])
    rw [zoneScript, hbare, Option.getD_none, ← htrim]
    rw [hname]
    rfl
  intro heq
  have htext : n.text .braced = n.base ++ ('_' :: '{' :: n.sub ++ '}' ::
      (scriptIn '^' .braced n.sup ++ spacedOut n.words)) := by
    simp [text, scriptIn, hcontent.ne_nil, script]
  have hread : (zones (n.base ++ ('_' :: n.sub ++ '^' :: t))).main = n.base ++ z.main ∧
      (zones (n.base ++ ('_' :: n.sub ++ '^' :: t))).sub = n.sub ++ '^' :: z.sub := by
    rw [hzones]
    exact ⟨rfl, rfl⟩
  rw [names_eq, hread.1, hread.2, hzone, htext, List.append_assoc, List.append_cancel_left_eq] at heq
  cases hmain : z.main with
  | nil =>
    rw [hmain] at heq
    simp at heq
  | cons c m =>
    rw [hmain] at heq hline
    exact hline (congrArg some (List.cons.inj heq).1)

/-- The compact spelling of a command. -/
theorem scriptIn_command {mark : Char} {s : Text} (h : IsCommand s) : scriptIn mark .compact s = mark :: s := by
  have hcontent : IsContent s := .command h
  rw [scriptIn, if_neg hcontent.ne_nil, script, if_pos (by simp [hcontent.isSingle_iff.mpr (.inr h)])]

/-- Where something stands behind a command, the compact spelling is not read as the name. -/
theorem names_compact_ne (h : ¬ n.CommandsLast) : names .braced (n.text .compact) ≠ n.text .braced := by
  have hzones := fun t => zones_ordinary_append t n.base_ne_nil n.base_ordinary
  -- Where words follow, the first one comes to stand on the line.
  have hwords {w : Text} {ws : List Text} (hws : n.words = w :: ws) :
      spacedOut n.words = ' ' :: (w ++ spacedOut ws) ∧ w ≠ [] ∧ ∀ c ∈ w, isOrdinary c = true :=
    ⟨by rw [hws]; rfl, n.words_ordinary w (by rw [hws]; exact .head _)⟩
  by_cases hsub : IsCommand n.sub
  · have hne : n.sub ≠ [] := IsContent.ne_nil (.command hsub)
    by_cases hsup : n.sup = []
    · cases hws : n.words with
      | nil => exact absurd ⟨fun _ => ⟨hsup, hws⟩, fun _ => hws⟩ h
      | cons w ws =>
        obtain ⟨hspaced, hw, hordinary⟩ := hwords hws
        have htext : n.text .compact = n.base ++ ('_' :: n.sub ++ ' ' :: (w ++ spacedOut ws)) := by
          rw [text, scriptIn_command hsub, hsup, hspaced]
          rfl
        obtain ⟨m, hmain⟩ := exists_main_eq (t := spacedOut ws) .sub hsub hordinary
        apply names_ne_of_line (.inl hne) hw hordinary (m := m)
        rw [htext, hzones, Zones.onLine, hmain]
    · have htext : ∃ back, n.text .compact = n.base ++ ('_' :: n.sub ++ '^' :: back) := by
        rw [text, scriptIn_command hsub, scriptIn, if_neg hsup, script]
        split <;> exact ⟨_, rfl⟩
      obtain ⟨back, htext⟩ := htext
      rw [htext]
      exact names_ne_of_sub hsub back
  · have hsup : IsCommand n.sup := by
      by_contra hsup
      exact h ⟨fun hcommand => absurd hcommand hsub, fun hcommand => absurd hcommand hsup⟩
    have hne : n.sup ≠ [] := IsContent.ne_nil (.command hsup)
    cases hws : n.words with
    | nil => exact absurd ⟨fun hcommand => absurd hcommand hsub, fun _ => hws⟩ h
    | cons w ws =>
      obtain ⟨hspaced, hw, hordinary⟩ := hwords hws
      have htext : n.text .compact =
          n.base ++ (scriptIn '_' .compact n.sub ++ ('^' :: n.sup ++ ' ' :: (w ++ spacedOut ws))) := by
        rw [text, scriptIn_command hsup, hspaced]
      obtain ⟨m, hmain⟩ := exists_main_eq (t := spacedOut ws) .sup hsup hordinary
      obtain ⟨zsub, -, hscan⟩ := (typedScript_compact n.sub_content fun hcommand => absurd hcommand hsub).exists_zone .sub
      apply names_ne_of_line (.inr hne) hw hordinary (m := m)
      rw [htext, hzones, hscan, Zones.onLine, Zones.put, hmain]

/-- However a name is typed, its compact spelling stands for the name if and only if nothing stands behind the commands
that the spelling takes the braces off. -/
theorem spellings_agree_iff {t : Text} (h : n.Typed t) :
    (Name.canonical (spelled .compact t) = Name.canonical t ↔ n.CommandsLast) ∧
      (aliases (spelled .compact t) = aliases t ↔ n.CommandsLast) := by
  have hagree (hlast : n.CommandsLast) (spelling : Spelling) :
      spelled spelling (spelled .compact t) = spelled spelling t := by
    rw [spelled_of_typed h, spelled_of_typed hlast.typed, spelled_of_typed h]
  have hlast (hcanonical : Name.canonical (spelled .compact t) = Name.canonical t) : n.CommandsLast := by
    rw [Name.canonical, Name.canonical, spelled_of_typed h, spelled_of_typed h, spelled_text] at hcanonical
    by_contra hnot
    exact names_compact_ne hnot hcanonical
  refine ⟨⟨hlast, fun h => hagree h .braced⟩, fun haliases => hlast (List.cons.inj haliases).1, fun hlast => ?_⟩
  rw [aliases, aliases, Name.canonical, hagree hlast, hagree hlast]
  rfl

theorem spellings_agree_of_last_command :
    let t : Text := "x_\x7b1\x7d^\x7b\\alpha\x7d".toList
    ∃ n : Scripted, n.Typed t ∧ n.CommandsLast ∧ aliases (spelled .compact t) = aliases t := by
  intro t
  have hsub : IsContent ['1'] := isContent_of_isOrdinary (by decide)
  have hsup : IsContent "\\alpha".toList := .command ⟨"alpha".toList, rfl, by decide, by decide⟩
  have hbase : ∀ c ∈ ['x'], isOrdinary c = true := List.forall_mem_singleton.mpr (by decide)
  let n : Scripted := ⟨['x'], ['1'], "\\alpha".toList, [], by decide, hbase, .inr hsub, .inr hsup, by simp⟩
  have htyped : n.Typed t := .subFirst (.braced hsub) (.braced hsup) .nil
  have hlast : n.CommandsLast := by
    refine ⟨fun ⟨name, hname, _⟩ => ?_, fun _ => rfl⟩
    exact absurd (List.cons.inj hname).1 (by decide)
  exact ⟨n, htyped, hlast, (spellings_agree_iff htyped).2.mpr hlast⟩

/-- A command in front of a superscript: what the compact spelling stands for is neither spelling of the name. -/
theorem spellings_differ_of_command_before_superscript :
    let t : Text := "x_\x7b\\alpha\x7d^\x7b2\x7d".toList
    (∃ n : Scripted, n.Typed t) ∧ aliases t = [t, "x_\\alpha^2".toList] ∧
      Name.canonical (spelled .compact t) = "x_\x7b\\alpha^2\x7d".toList ∧
      Name.canonical (spelled .compact t) ≠ Name.canonical t := by
  intro t
  have hsub : IsContent "\\alpha".toList := .command ⟨"alpha".toList, rfl, by decide, by decide⟩
  have hsup : IsContent ['2'] := isContent_of_isOrdinary (by decide)
  have hbase : ∀ c ∈ ['x'], isOrdinary c = true := List.forall_mem_singleton.mpr (by decide)
  let n : Scripted := ⟨['x'], "\\alpha".toList, ['2'], [], by decide, hbase, .inr hsub, .inr hsup, by simp⟩
  have htyped : n.Typed t := .subFirst (.braced hsub) (.braced hsup) .nil
  exact ⟨⟨n, htyped⟩, by decide +kernel, by decide +kernel, by decide +kernel⟩

end Scripted

end LiveTex.Name

import LiveTex.Proofs.Statement.Reading

/-!
Chains of equations. In `a = b = c` the last segment counts, and the one before it when nothing but blanks stands behind
the last `=`. In front of a chain there may be an assignment. Of several `:=` on its line the last one divides the sides,
so a left side may hold others.
-/

namespace LiveTex

namespace Statement

open Text (AllBlank LastPiece)

variable {s t u left right last : Text}

/-! The constant in the place of the command. -/

theorem withPi_cons_of_not_prefix {c : Char} (h : ¬ ['\\', 'p', 'i'] <+: c :: t) : withPi (c :: t) = c :: withPi t := by
  rw [withPi]
  · rintro t rfl rfl
    exact h ⟨_, rfl⟩
  · rintro t rfl rfl
    exact h ⟨_, rfl⟩

theorem withPi_pi (h : ¬ ['{', '}'] <+: t) : withPi ('\\' :: 'p' :: 'i' :: t) = piText ++ withPi t := by
  rw [withPi]
  rintro t rfl
  exact h ⟨_, rfl⟩

/-- A beginning without the character lies in front of it. -/
theorem isPrefix_of_append_cons {p : Text} {c : Char} (h : p <+: s ++ c :: t) (hc : c ∉ p) : p <+: s := by
  obtain hs | ⟨q, rfl⟩ := List.prefix_or_prefix_of_prefix h (List.prefix_append s (c :: t))
  · exact hs
  · cases q with
    | nil => simp
    | cons d q =>
      have hd := List.cons_prefix_cons.mp ((List.prefix_append_right_inj s).mp h)
      exact absurd (by simp [hd.1]) hc

/-- No command runs over a character that is not in its spelling. -/
theorem withPi_append_cons {c : Char} (hc : c ∉ ['\\', 'p', 'i', '{', '}']) (s t : Text) :
    withPi (s ++ c :: t) = withPi s ++ withPi (c :: t) := by
  fun_induction withPi s with
  | case1 s ih =>
    rw [List.append_assoc, ← ih]
    rfl
  | case2 s hs ih =>
    rw [List.append_assoc, ← ih]
    apply withPi_pi
    intro hbegins
    obtain ⟨u, rfl⟩ := isPrefix_of_append_cons hbegins (by simp_all)
    exact hs u rfl
  | case3 d s hbraces hs ih =>
    rw [List.cons_append, List.cons_append, ← ih]
    apply withPi_cons_of_not_prefix
    intro hbegins
    rw [← List.cons_append] at hbegins
    obtain ⟨u, hu⟩ := isPrefix_of_append_cons hbegins (by simp_all)
    obtain ⟨rfl, rfl⟩ := List.cons.inj hu
    exact hs u rfl rfl
  | case4 => rfl

theorem withPi_append_equals (s t : Text) : withPi (s ++ '=' :: t) = withPi s ++ '=' :: withPi t := by
  rw [withPi_append_cons (by decide), withPi_cons t (by decide)]

theorem withPi_join (segments : List Text) :
    withPi (Text.join ['='] segments) = Text.join ['='] (segments.map withPi) := by
  induction segments using List.reverseRecOn with
  | nil => rfl
  | append_singleton front s ih =>
    by_cases hfront : front = []
    · rw [hfront]
      rfl
    · rw [List.map_append, List.map_singleton, Text.join_concat _ hfront, Text.join_concat _ (by simpa using hfront), ← ih]
      simpa using withPi_append_equals (Text.join ['='] front) s

/-- Every character comes from the text or from the constant. -/
theorem mem_withPi {c : Char} (h : c ∈ withPi t) : c ∈ t ∨ c ∈ piText := by
  fun_induction withPi t with
  | case1 t ih | case2 t _ ih =>
    obtain h | h := List.mem_append.mp h
    · exact .inr h
    · exact (ih h).imp_left fun h => by simp [h]
  | case3 d t _ _ ih =>
    obtain rfl | h := List.mem_cons.mp h
    · exact .inl (.head _)
    · exact (ih h).imp_left (.tail _)
  | case4 => exact .inl h

theorem withPi_eq_nil_iff : withPi t = [] ↔ t = [] := by
  fun_induction withPi t <;> simp [piText]

/-- The last character is that of the text, or that of the constant. -/
theorem getLast?_withPi {c : Char} (h : (withPi t).getLast? = some c) : t.getLast? = some c ∨ c = '}' := by
  fun_induction withPi t with
  | case1 t ih | case2 t _ ih =>
    rw [List.getLast?_append] at h
    cases hrest : (withPi t).getLast? with
    | none =>
      rw [hrest] at h
      exact .inr (Option.some.inj h).symm
    | some d =>
      rw [hrest] at h
      refine (ih (hrest.trans h)).imp_left fun hlast => ?_
      simp [List.getLast?_cons, hlast]
  | case3 d t _ _ ih =>
    by_cases ht : t = []
    · subst ht
      exact .inl h
    · rw [List.getLast?_cons_of_ne_nil (by rwa [ne_eq, withPi_eq_nil_iff])] at h
      rw [List.getLast?_cons_of_ne_nil ht]
      exact ih h
  | case4 => exact .inl h

theorem allBlank_withPi_iff : AllBlank (withPi t) ↔ AllBlank t := by
  constructor
  · intro h
    fun_induction withPi t with
    | case1 t ih | case2 t _ ih => exact absurd (h '{' (.head _)) (by decide)
    | case3 d t _ _ ih =>
      intro c hc
      obtain rfl | hc := List.mem_cons.mp hc
      · exact h c (.head _)
      · exact ih (fun d hd => h d (.tail _ hd)) c hc
    | case4 => exact h
  · intro h
    rwa [withPi_eq_self]
    rintro c hc rfl
    exact absurd (h _ hc) (by decide)

/-! The assignment in front. -/

/-- The mark stands at no seam of a chain whose segments do not end in its first half. -/
theorem not_infix_append_equals (hs : ¬ [':', '='] <:+: s) (hlast : s.getLast? ≠ some ':') (ht : ¬ [':', '='] <:+: t) :
    ¬ [':', '='] <:+: s ++ '=' :: t := by
  rintro ⟨front, back, h⟩
  rw [List.append_assoc] at h
  obtain ⟨x, hx, hrest⟩ | ⟨x, hx, hrest⟩ := List.append_eq_append_iff.mp h
  · -- The mark begins in the first segment.
    cases x with
    | nil => cases hrest
    | cons c x =>
      cases x with
      | nil =>
        obtain rfl : ':' = c := (List.cons.inj hrest).1
        exact hlast (by rw [hx]; simp)
      | cons d x =>
        obtain ⟨rfl, rfl, -⟩ : ':' = c ∧ '=' = d ∧ _ := by simpa using hrest
        exact hs ⟨front, x, by rw [hx]; simp⟩
  · -- The mark begins at the seam or behind it.
    cases x with
    | nil => cases hrest
    | cons c x =>
      obtain ⟨rfl, rfl⟩ := List.cons.inj hrest
      exact ht ⟨x, back, by simp⟩

theorem not_infix_join {segments : List Text} (h : ∀ s ∈ segments, '=' ∉ s ∧ s.getLast? ≠ some ':') :
    ¬ [':', '='] <:+: Text.join ['='] segments := by
  have hsegment {s : Text} (hs : '=' ∉ s) : ¬ [':', '='] <:+: s := fun hinside => hs (hinside.subset (by simp))
  induction segments with
  | nil => simp [Text.join]
  | cons s segments ih =>
    have hs := h s (.head _)
    cases segments with
    | nil => exact hsegment hs.1
    | cons s' segments =>
      have hmore := ih fun u hu => h u (.tail _ hu)
      rw [Text.join_cons_cons, List.append_assoc, List.singleton_append]
      exact not_infix_append_equals (hsegment hs.1) hs.2 hmore

/-- On one line the last mark divides the sides. -/
theorem assignment?_append_mark (hleft : '\n' ∉ left) (hright : ¬ [':', '='] <:+: right) :
    assignment? (left ++ ':' :: '=' :: right) = some (left, Text.trimStart right) := by
  have hnone : assignment? ('=' :: right) = none := by
    apply assignment?_eq_none_of_not_infix
    rw [List.infix_cons_iff]
    rintro (hbegins | hinside)
    · obtain ⟨_, h⟩ := hbegins
      cases h
    · exact hright hinside
  have hmark : assignment? (':' :: '=' :: right) = some ([], Text.trimStart right) := by
    have hstart : Text.trimStart (':' :: '=' :: right) = ':' :: '=' :: right :=
      Text.trimStart_eq_self (by simpa using (by decide : Text.isBlank ':' = false))
    rw [assignment?, hnone, hstart]
    simp [Text.after?]
  simpa using assignment?_append hleft hmark

theorem isSuffix_of_after? {rest : Text} (h : Text.after? [':', '='] (Text.trimStart t) = some rest) :
    ':' :: '=' :: rest <:+ t := by
  rw [show ':' :: '=' :: rest = Text.trimStart t from (Text.after?_eq_some_iff.mp h).symm]
  exact List.dropWhile_suffix _

/-- What stands on the right of an assignment ends the text. -/
theorem isSuffix_of_assignment? (h : assignment? t = some (left, right)) : right <:+ t := by
  induction t generalizing left with
  | nil => cases h
  | cons c t ih =>
    have hhere {left : Text} (h : (Text.after? [':', '='] (Text.trimStart (c :: t))).map
        (fun right => ([], Text.trimStart right)) = some (left, right)) : right <:+ c :: t := by
      obtain ⟨rest, hrest, heq⟩ := Option.map_eq_some_iff.mp h
      obtain ⟨-, rfl⟩ := Prod.mk.inj heq
      have hmark := (List.suffix_append [':', '='] rest).trans (isSuffix_of_after? hrest)
      exact (List.dropWhile_suffix _).trans hmark
    rw [assignment?] at h
    split at h
    · exact hhere h
    · split at h
      · next left' right' hmore =>
        obtain ⟨-, rfl⟩ := Prod.mk.inj (Option.some.inj h)
        exact (ih hmore).trans (List.suffix_cons c t)
      · exact hhere h

/-- The text ends in something that is neither blank nor `=`, if there is any text at all. -/
def EndsPlainly (t : Text) : Prop := ∀ c ∈ t.getLast?, Text.isBlank c = false ∧ c ≠ '='

theorem EndsPlainly.of_suffix (ht : EndsPlainly t) (h : s <:+ t) : EndsPlainly s := by
  obtain ⟨front, rfl⟩ := h
  intro c hc
  apply ht
  rw [List.getLast?_append, Option.mem_def, hc]
  rfl

theorem EndsPlainly.trimStart_append (ht : EndsPlainly t) (hne : t ≠ []) (u : Text) :
    Text.trimStart (t ++ u) = Text.trimStart t ++ u := by
  obtain ⟨front, c, rfl⟩ := List.eq_nil_or_concat' t |>.resolve_left hne
  have hc := (ht c (by simp)).1
  rw [List.append_assoc, List.singleton_append, Text.trimStart_append_cons hc, Text.trimStart_append_cons hc,
    List.append_assoc, List.singleton_append]

/-- A mark does not run over a blank. -/
theorem after?_append_blank {b : Char} (hb : Text.isBlank b = true) (t u : Text) :
    Text.after? [':', '='] (t ++ b :: u) = (Text.after? [':', '='] t).map (· ++ b :: u) := by
  have hcolon : ':' ≠ b := by
    rintro rfl
    exact absurd hb (by decide)
  have hequals : '=' ≠ b := by
    rintro rfl
    exact absurd hb (by decide)
  cases t with
  | nil => simp [Text.after?, hcolon]
  | cons c t =>
    cases t with
    | nil => simp [Text.after?, hequals]
    | cons d t =>
      simp only [List.cons_append, Text.after?]
      split <;> (try split) <;> rfl

/-- A text keeps its assignment when something without a mark comes behind it, a blank first. -/
theorem assignment?_append_blank {b : Char} (hb : Text.isBlank b = true) (ht : EndsPlainly t) (hu : ':' ∉ b :: u) :
    assignment? (t ++ b :: u) = (assignment? t).map fun (left, right) => (left, right ++ b :: u) := by
  induction t with
  | nil => exact assignment?_eq_none (.inl hu)
  | cons c t ih =>
    have hmore := ih (ht.of_suffix (List.suffix_cons c t))
    have hhere : (Text.after? [':', '='] (Text.trimStart (c :: (t ++ b :: u)))).map
          (fun right => (([] : Text), Text.trimStart right)) =
        ((Text.after? [':', '='] (Text.trimStart (c :: t))).map fun right => ([], Text.trimStart right)).map
          fun (left, right) => (left, right ++ b :: u) := by
      have hstart := ht.trimStart_append (List.cons_ne_nil c t) (b :: u)
      rw [List.cons_append] at hstart
      rw [hstart, after?_append_blank hb]
      cases hafter : Text.after? [':', '='] (Text.trimStart (c :: t)) with
      | none => rfl
      | some rest =>
        have hmark := ht.of_suffix (isSuffix_of_after? hafter)
        have hne : rest ≠ [] := by
          rintro rfl
          exact (hmark '=' rfl).2 rfl
        have hrest := hmark.of_suffix (List.suffix_append [':', '='] rest)
        simp [hrest.trimStart_append hne]
    rw [List.cons_append, assignment?, assignment?, hmore, hhere]
    by_cases hc : c = '\n'
    · simp only [if_pos hc]
    · simp only [if_neg hc]
      cases assignment? t <;> rfl

/-! The right side. -/

theorem rightSide_of_lastPiece (h : LastPiece '=' last t) (hne : last ≠ []) : rightSide t = last := by
  have hpieces := h.getLast?_pieces
  rw [List.getLast?_eq_head?_reverse, List.head?_eq_some_iff] at hpieces
  obtain ⟨more, hmore⟩ := hpieces
  rw [rightSide, hmore]
  cases more with
  | nil => rfl
  | cons => exact if_neg hne

/-- Behind the last `=` nothing needs to stand. -/
theorem rightSide_concat (h : LastPiece '=' last t) : rightSide (t ++ ['=']) = last := by
  have hpieces := h.getLast?_pieces
  rw [List.getLast?_eq_head?_reverse, List.head?_eq_some_iff] at hpieces
  obtain ⟨more, hmore⟩ := hpieces
  rw [rightSide, Text.pieces_append_cons, List.reverse_append, hmore]
  rfl

/-! Chains. -/

/-- The segment that counts: the last one, or the one before it when the last one is blank. -/
def chosen (segments : List Text) : Text :=
  match segments.reverse with
  | [] => []
  | [only] => only
  | last :: previous :: _ => if AllBlank last then previous else last

theorem chosen_concat (front : List Text) (p s : Text) :
    chosen (front ++ [p, s]) = if AllBlank s then p else s := by
  simp [chosen]

theorem chosen_map_withPi (segments : List Text) : chosen (segments.map withPi) = withPi (chosen segments) := by
  rw [chosen, chosen, ← List.map_reverse]
  obtain _ | ⟨last, _ | ⟨previous, more⟩⟩ := segments.reverse
  · rfl
  · rfl
  · simp only [List.map_cons, allBlank_withPi_iff]
    split <;> rfl

theorem canonical_congr (h : Text.trim s = Text.trim t) : Name.canonical s = Name.canonical t := by
  rw [← canonical_trim, h, canonical_trim]

/-- The right side of a chain is the segment that counts, but for blanks around it. -/
theorem canonical_rightSide_join {segments : List Text} (h : ∀ s ∈ segments, '=' ∉ s) :
    Name.canonical (rightSide (Text.trim (Text.join ['='] segments))) = Name.canonical (chosen segments) := by
  obtain rfl | ⟨front, s, rfl⟩ := List.eq_nil_or_concat' segments
  · rfl
  obtain rfl | ⟨front, p, rfl⟩ := List.eq_nil_or_concat' front
  · have hs := h s (by simp)
    have hjoin : Text.join ['='] ([] ++ [s]) = s := rfl
    rw [hjoin, rightSide_eq_self fun hmem => hs (mem_trim hmem), canonical_trim]
    rfl
  · have hs := h s (by simp)
    have hp := h p (by simp)
    have hjoin := Text.join_concat ['='] (show front ++ [p] ≠ [] by simp) s
    rw [List.append_assoc, List.singleton_append] at hjoin
    rw [List.append_assoc, List.singleton_append, hjoin, chosen_concat, List.append_assoc, List.singleton_append,
      Text.trim_append_cons (by decide)]
    by_cases hblank : AllBlank s
    · -- Nothing is left of the blanks, so the `=` is the last character.
      obtain ⟨last, hlast, htrim⟩ := (Text.lastPiece_join hp front).exists_of_trimStart (by decide)
      have hnil : Text.trimEnd s = [] := by
        have hblanks := Text.trimEnd_append_of_allBlank (t := []) hblank
        rwa [List.nil_append] at hblanks
      rw [hnil, rightSide_concat hlast, if_pos hblank, canonical_congr htrim]
    · have hne : Text.trimEnd s ≠ [] := by
        intro hnil
        obtain ⟨back, hback, hsplit⟩ := Text.exists_blanks_behind s
        rw [hnil, List.nil_append] at hsplit
        exact hblank (hsplit ▸ hback)
      have hlast : LastPiece '=' (Text.trimEnd s) (Text.trimStart (Text.join ['='] (front ++ [p])) ++ '=' :: Text.trimEnd s) :=
        ⟨fun hmem => hs ((Text.isInfix_trimEnd s).subset hmem), .inr ⟨_, rfl⟩⟩
      rw [rightSide_of_lastPiece hlast hne, if_neg hblank, canonical_congr (Text.trim_trimEnd s)]

/-- Blanks and `=` at the end leave the right side alone, but for blanks. -/
theorem canonical_rightSide_append {blanks : Text} (ht : EndsPlainly t) (hblanks : AllBlank blanks) :
    Name.canonical (rightSide (t ++ blanks ++ ['='])) = Name.canonical (rightSide t) := by
  obtain ⟨last, hlast⟩ := Text.exists_lastPiece '=' t
  have hright : rightSide t = last := by
    by_cases hne : t = []
    · subst hne
      obtain ⟨-, hnil | ⟨s, hs⟩⟩ := hlast
      · rw [← hnil]
        rfl
      · exact absurd (congrArg List.length hs) (by simp)
    · exact rightSide_of_lastPiece hlast (hlast.ne_nil hne fun h => (ht '=' h).2 rfl)
  have hequals : '=' ∉ blanks := fun hmem => absurd (hblanks '=' hmem) (by decide)
  have htrim := Text.trim_append_of_allBlank (t := last) Text.allBlank_nil hblanks
  rw [List.nil_append] at htrim
  rw [rightSide_concat (hlast.append hequals), hright, canonical_congr htrim]

theorem withPi_append_blanks {blanks : Text} (s : Text) (hblanks : AllBlank blanks) :
    withPi (s ++ blanks) = withPi s ++ blanks := by
  cases blanks with
  | nil => simp
  | cons b blanks =>
    have hplain : ['\\', 'p', 'i', '{', '}'].all (!Text.isBlank ·) = true := by decide
    have hself : withPi (b :: blanks) = b :: blanks := by
      apply withPi_eq_self
      rintro c hc rfl
      exact absurd (hblanks _ hc) (by decide)
    rw [withPi_append_cons, hself]
    intro hmem
    have hb := List.all_eq_true.mp hplain b hmem
    rw [hblanks b (.head _)] at hb
    cases hb

theorem trimmed_withPi (ht : Text.Trimmed t) : Text.Trimmed (withPi t) := by
  have hbraces : Text.isBlank '{' = false ∧ Text.isBlank '}' = false := by decide
  constructor
  · intro c hc
    have hhead : t.head? = some c ∨ c = '{' := by
      revert hc
      fun_cases withPi t
      · rintro ⟨⟩
        exact .inr rfl
      · rintro ⟨⟩
        exact .inr rfl
      · rintro ⟨⟩
        exact .inl rfl
      · rintro ⟨⟩
    exact hhead.elim (ht.1 c) fun h => h ▸ hbraces.1
  · intro c hc
    exact (getLast?_withPi hc).elim (ht.2 c) fun h => h ▸ hbraces.2

/-- The command may be replaced before the text is trimmed or after. -/
theorem trim_withPi (t : Text) : Text.trim (withPi t) = withPi (Text.trim t) := by
  obtain ⟨front, back, hfront, hback, hsplit⟩ := Text.exists_blanks_around t
  have hpi : withPi t = front ++ withPi (Text.trim t) ++ back := by
    have hquiet : ∀ c ∈ front, c ≠ '\\' := by
      rintro c hc rfl
      exact absurd (hfront _ hc) (by decide)
    conv_lhs => rw [hsplit]
    rw [withPi_append_blanks _ hback, withPi_append _ hquiet]
  rw [hpi, Text.trim_append_of_allBlank hfront hback, Text.trim_eq_self (trimmed_withPi (Text.trimmed_trim t))]

theorem endsPlainly_trim_withPi (ht : (Text.trim t).getLast? ≠ some '=') : EndsPlainly (Text.trim (withPi t)) := by
  intro c hc
  refine ⟨(Text.trimmed_trim _).2 c hc, ?_⟩
  rintro rfl
  rw [trim_withPi] at hc
  exact (getLast?_withPi hc).elim ht (by decide)

theorem exists_trimStart_concat (t : Text) :
    ∃ blanks, AllBlank blanks ∧ (Text.trim t ≠ [] → blanks ≠ []) ∧ Text.trimStart (t ++ [' ']) = Text.trim t ++ blanks := by
  have hspace : AllBlank [' '] := List.forall_mem_singleton.mpr (by decide)
  obtain ⟨front, back, hfront, hback, hsplit⟩ := Text.exists_blanks_around t
  by_cases hnil : Text.trim t = []
  · refine ⟨[], Text.allBlank_nil, fun hne => absurd hnil hne, ?_⟩
    have hall : AllBlank (t ++ [' ']) := List.forall_mem_append.mpr ⟨Text.trim_eq_nil_iff.mp hnil, hspace⟩
    rw [hnil, Text.trimStart, List.dropWhile_eq_nil_iff.mpr hall, List.append_nil]
  · refine ⟨back ++ [' '], List.forall_mem_append.mpr ⟨hback, hspace⟩, fun _ => by simp, ?_⟩
    have hhead : ∀ c ∈ (Text.trim t ++ (back ++ [' '])).head?, Text.isBlank c = false := by
      rw [List.head?_append_of_ne_nil _ hnil]
      exact (Text.trimmed_trim t).1
    conv_lhs => rw [hsplit]
    rw [List.append_assoc, List.append_assoc, Text.trimStart_append_of_allBlank hfront, Text.trimStart_eq_self hhead]

/-- A statement that ends in something else than `=` is not changed by a blank and `=` behind it. -/
theorem read_append_equals {e : Text} (he : (Text.trim e).getLast? ≠ some '=') : read (e ++ [' ', '=']) = read e := by
  have hends := endsPlainly_trim_withPi he
  obtain ⟨blanks, hblanks, hne, hstart⟩ := exists_trimStart_concat (withPi e)
  have htext : Text.trim (withPi (e ++ [' ', '='])) = Text.trim (withPi e) ++ blanks ++ ['='] := by
    have hpi : withPi (e ++ [' ', '=']) = withPi e ++ [' '] ++ '=' :: [] := by
      rw [← List.append_cons, withPi_append_cons (by decide)]
      rfl
    rw [hpi, Text.trim_append_cons (by decide), hstart]
    rfl
  rw [read, read, htext]
  generalize Text.trim (withPi e) = t at hends hne
  have hassignment : assignment? (t ++ blanks ++ ['=']) =
      (assignment? t).map fun (left, right) => (left, right ++ blanks ++ ['=']) := by
    have hcolon : ':' ∉ blanks ++ ['='] := by
      intro hmem
      obtain hmem | hmem := List.mem_append.mp hmem
      · exact absurd (hblanks _ hmem) (by decide)
      · exact absurd hmem (by decide)
    by_cases ht : t = []
    · subst ht
      exact assignment?_eq_none (.inl hcolon)
    · obtain ⟨b, blanks, rfl⟩ := List.exists_cons_of_ne_nil (hne ht)
      simpa using assignment?_append_blank (hblanks b (.head _)) hends hcolon
  rw [hassignment]
  cases hassign : assignment? t with
  | none => simp only [Option.map_none, canonical_rightSide_append hends hblanks]
  | some sides =>
    obtain ⟨left, right⟩ := sides
    have hright := hends.of_suffix (isSuffix_of_assignment? hassign)
    simp only [Option.map_some, canonical_rightSide_append hright hblanks]

/-- Chains of equations, with an assignment in front or without. The left side is everything in front of the mark, but
for the blanks around it, and it is no name when it is blank. The right side is the segment that counts. An `=` at the
end changes nothing, unless there is one already. -/
theorem read_chain {segments : List Text} {left e : Text} (hsegments : ∀ s ∈ segments, '=' ∉ s ∧ s.getLast? ≠ some ':')
    (hleft : '\n' ∉ left) (he : (Text.trim e).getLast? ≠ some '=') :
    read (left ++ [':', '='] ++ Text.join ['='] segments) =
        ⟨Name.canonical (withPi (chosen segments)), if AllBlank left then none else some (Text.trim (withPi left))⟩ ∧
      read (Text.join ['='] segments) = ⟨Name.canonical (withPi (chosen segments)), none⟩ ∧
      read (e ++ [' ', '=']) = read e := by
  have hpieces : ∀ s ∈ segments.map withPi, '=' ∉ s ∧ s.getLast? ≠ some ':' := by
    intro p hp
    obtain ⟨s, hs, rfl⟩ := List.mem_map.mp hp
    obtain ⟨hequals, hcolon⟩ := hsegments s hs
    refine ⟨fun hmem => ?_, fun hlast => ?_⟩
    · exact (mem_withPi hmem).elim hequals (by decide)
    · exact (getLast?_withPi hlast).elim hcolon (by decide)
  have hleft' : '\n' ∉ Text.trimStart (withPi left) := by
    intro hmem
    exact (mem_withPi ((List.dropWhile_suffix _).subset hmem)).elim hleft (by decide)
  have hmark := not_infix_join hpieces
  have hright := canonical_rightSide_join fun s hs => (hpieces s hs).1
  rw [chosen_map_withPi] at hright
  refine ⟨?_, ?_, read_append_equals he⟩
  · have hpi : withPi (left ++ [':', '='] ++ Text.join ['='] segments) =
        withPi left ++ ':' :: '=' :: Text.join ['='] (segments.map withPi) := by
      rw [List.append_assoc, ← withPi_join, ← withPi_cons _ (by decide), ← withPi_cons _ (by decide)]
      exact withPi_append_cons (by decide) _ _
    have hend := Text.trimEnd_append_cons (c := '=') (by decide) [] (Text.join ['='] (segments.map withPi))
    rw [List.nil_append, List.nil_append] at hend
    rw [read, hpi, Text.trim_append_cons (by decide), hend]
    have hassignment := assignment?_append_mark hleft' fun h => hmark (h.trans (Text.isInfix_trimEnd _))
    simp only [hassignment, Text.trimStart_trimEnd, hright, Text.trim_trimStart, Text.trim_eq_nil_iff, allBlank_withPi_iff]
  · have hnone := assignment?_eq_none_of_not_infix fun h => hmark (h.trans (Text.isInfix_trim _))
    rw [read, withPi_join]
    simp only [hnone, hright]

/-- The left side of the last mark holds another one, and a blank segment gives way to the one before it. -/
theorem read_chain_of_two_marks :
    let left : Text := " n := \\pi ".toList
    let segments : List Text := ["2x".toList, " \\pi\x7b\x7d + 1 ".toList, "\n ".toList]
    let e : Text := "f := 3".toList
    (∀ s ∈ segments, '=' ∉ s ∧ s.getLast? ≠ some ':') ∧ '\n' ∉ left ∧ (Text.trim e).getLast? ≠ some '=' ∧
      read (left ++ [':', '='] ++ Text.join ['='] segments) = ⟨"\x7bPI\x7d + 1".toList, some "n := \x7bPI\x7d".toList⟩ ∧
      read (Text.join ['='] segments) = ⟨"\x7bPI\x7d + 1".toList, none⟩ ∧ read (e ++ [' ', '=']) = ⟨['3'], some ['f']⟩ := by
  intro left segments e
  have hsegments : ∀ s ∈ segments, '=' ∉ s ∧ s.getLast? ≠ some ':' := by decide
  have hleft : '\n' ∉ left := by decide
  have he : (Text.trim e).getLast? ≠ some '=' := by decide
  obtain ⟨hassignment, hexpression, hequals⟩ := read_chain hsegments hleft he
  have hcanonical : Name.canonical (withPi (chosen segments)) = "\x7bPI\x7d + 1".toList := by decide +kernel
  have hname : Text.trim (withPi left) = "n := \x7bPI\x7d".toList := by decide
  have hread : read e = ⟨['3'], some ['f']⟩ := by decide +kernel
  rw [hcanonical] at hassignment hexpression
  rw [hname, if_neg (by decide)] at hassignment
  exact ⟨hsegments, hleft, he, hassignment, hexpression, hequals.trans hread⟩

end Statement

end LiveTex

import LiveTex.Proofs.Name.Wrapping
import LiveTex.Proofs.Text.Cuts
import LiveTex.Statement

/-!
What a line says when it holds one `:=` or none, and when it holds no `=` beside that.
-/

namespace LiveTex.Statement

open Text (AllBlank)

theorem withPi_cons {c : Char} (t : Text) (hc : c ≠ '\\') : withPi (c :: t) = c :: withPi t := by
  rw [withPi]
  · rintro t rfl
    exact absurd rfl hc
  · rintro t rfl
    exact absurd rfl hc

theorem withPi_append {s : Text} (t : Text) (hs : ∀ c ∈ s, c ≠ '\\') : withPi (s ++ t) = s ++ withPi t := by
  induction s with
  | nil => rfl
  | cons c s ih =>
    rw [List.cons_append, withPi_cons _ (hs c (.head _)), ih fun d hd => hs d (.tail _ hd)]
    rfl

theorem withPi_eq_self {t : Text} (ht : ∀ c ∈ t, c ≠ '\\') : withPi t = t := by
  have happend := withPi_append [] ht
  rwa [List.append_nil, withPi, List.append_nil] at happend

/-- Without the command there is nothing to write the constant for. -/
theorem withPi_eq_self_of_not_infix {t : Text} (ht : ¬ ['\\', 'p', 'i'] <:+: t) : withPi t = t := by
  induction t with
  | nil => rw [withPi]
  | cons c t ih =>
    have hrest := ih fun h => ht (List.infix_cons h)
    rw [withPi, hrest]
    · rintro u rfl rfl
      exact ht ⟨[], _, rfl⟩
    · rintro u rfl rfl
      exact ht ⟨[], _, rfl⟩

theorem withPi_command {c : Char} (name t : Text) (hp : c ≠ 'p') (hc : c ≠ '\\') (hname : ∀ d ∈ name, d ≠ '\\') :
    withPi ('\\' :: c :: name ++ t) = '\\' :: c :: name ++ withPi t := by
  have hrest : withPi (c :: name ++ t) = c :: name ++ withPi t := by
    apply withPi_append
    intro d hd
    obtain rfl | hd := List.mem_cons.mp hd
    · exact hc
    · exact hname d hd
  have hescape : withPi ('\\' :: (c :: name ++ t)) = '\\' :: withPi (c :: name ++ t) := by
    rw [withPi]
    · rintro t - heq
      exact hp (List.cons.inj heq).1
    · rintro t - heq
      exact hp (List.cons.inj heq).1
  rw [List.cons_append, hescape, hrest]
  rfl

/-- Braces, blanks and color commands hold no `\\pi`. -/
theorem withPi_wrapped {core t : Text} (hcore : ∀ c ∈ core, c ≠ '\\')
    (h : Name.Wrapped Name.colorCommands core t) : withPi t = t := by
  have blank : ∀ {b : Text}, AllBlank b → ∀ c ∈ b, c ≠ '\\' :=
    fun hb c hc => Name.ne_backslash_of_isQuiet (Name.isQuiet_of_isBlank (hb c hc))
  have happend : ∀ rest, withPi (t ++ rest) = t ++ withPi rest := by
    induction h with
    | core => exact fun rest => withPi_append rest hcore
    | @braces t _ ih =>
      intro rest
      have hopen := withPi_cons (t ++ ['}'] ++ rest) (by decide : '{' ≠ '\\')
      have hclose := withPi_cons rest (by decide : '}' ≠ '\\')
      rw [List.cons_append, List.cons_append, hopen, List.append_assoc, ih, List.singleton_append, hclose]
      simp
    | @blanks front t back hfront hback _ ih =>
      intro rest
      rw [List.append_assoc, List.append_assoc, withPi_append _ (blank hfront), ih,
        withPi_append _ (blank hback), List.append_assoc, List.append_assoc]
    | @colored command w t hcommand hw _ ih =>
      intro rest
      have hcolor : ∀ c ∈ '{' :: w ++ ['}'], c ≠ '\\' := by
        intro c hc
        simp only [List.cons_append, List.mem_cons, List.mem_append, List.not_mem_nil, or_false] at hc
        obtain rfl | hc | rfl := hc
        · decide
        · exact Name.ne_backslash_of_isQuiet (Name.isQuiet_of_isColorChar (hw c hc))
        · decide
      have hrest := withPi_append (t ++ rest) hcolor
      rw [ih] at hrest
      have hall : withPi (command ++ ('{' :: w ++ ['}'] ++ (t ++ rest))) =
          command ++ ('{' :: w ++ ['}'] ++ (t ++ withPi rest)) := by
        simp only [Name.colorCommands, List.mem_cons, List.not_mem_nil, or_false] at hcommand
        obtain rfl | rfl := hcommand
        · exact (withPi_command "olor".toList _ (by decide) (by decide) (by simp)).trans (congrArg _ hrest)
        · exact (withPi_command "extcolor".toList _ (by decide) (by decide) (by simp)).trans (congrArg _ hrest)
      simpa using hall
  have hall := happend []
  rwa [List.append_nil, withPi, List.append_nil] at hall

/-- Without the mark there is no assignment. -/
theorem assignment?_eq_none_of_not_infix {t : Text} (h : ¬ [':', '='] <:+: t) : assignment? t = none := by
  induction t with
  | nil => rfl
  | cons c t ih =>
    have hhere : Text.after? [':', '='] (Text.trimStart (c :: t)) = none := by
      cases hafter : Text.after? [':', '='] (Text.trimStart (c :: t)) with
      | none => rfl
      | some rest =>
        obtain ⟨front, hfront⟩ := List.dropWhile_suffix Text.isBlank (l := c :: t)
        rw [← Text.trimStart, Text.after?_eq_some_iff.mp hafter] at hfront
        exact absurd ⟨front, rest, by simpa using hfront⟩ h
    rw [assignment?, ih fun hmem => h (List.infix_cons hmem), hhere]
    simp

theorem assignment?_eq_none {t : Text} (ht : ':' ∉ t ∨ '=' ∉ t) : assignment? t = none :=
  assignment?_eq_none_of_not_infix fun h =>
    ht.elim (fun hcolon => hcolon (h.subset (by simp))) fun hequals => hequals (h.subset (by simp))

/-- What blanks and `:=` follow is the left side. -/
theorem assignment?_of_blanks {b r : Text} (hb : AllBlank b) (hr : ':' ∉ r) :
    ∃ left, AllBlank left ∧ assignment? (b ++ ':' :: '=' :: r) = some (left, Text.trimStart r) := by
  have hstart : Text.trimStart (':' :: '=' :: r) = ':' :: '=' :: r := by
    apply Text.trimStart_eq_self
    simpa using (by decide : Text.isBlank ':' = false)
  induction b with
  | nil =>
    refine ⟨[], Text.allBlank_nil, ?_⟩
    have hnone : assignment? ('=' :: r) = none := assignment?_eq_none (.inl (by simpa using hr))
    rw [List.nil_append, assignment?, hnone, hstart]
    simp [Text.after?]
  | cons c b ih =>
    obtain ⟨left, hleft, hassignment⟩ := ih fun d hd => hb d (.tail _ hd)
    have hhere : Text.trimStart (c :: (b ++ ':' :: '=' :: r)) = ':' :: '=' :: r := by
      have hblanks := Text.trimStart_append_of_allBlank (t := ':' :: '=' :: r) hb
      rwa [hstart] at hblanks
    rw [List.cons_append, assignment?, hassignment, hhere]
    by_cases hc : c = '\n'
    · exact ⟨[], Text.allBlank_nil, by simp [hc, Text.after?]⟩
    · refine ⟨c :: left, ?_, by simp [hc]⟩
      intro d hd
      obtain rfl | hd := List.mem_cons.mp hd
      · exact hb d (.head _)
      · exact hleft d hd

theorem assignment?_append {s t left right : Text} (hs : '\n' ∉ s) (ht : assignment? t = some (left, right)) :
    assignment? (s ++ t) = some (s ++ left, right) := by
  induction s with
  | nil => exact ht
  | cons c s ih =>
    rw [List.cons_append, assignment?, ih fun hmem => hs (.tail _ hmem),
      if_neg (by rintro rfl; exact hs (.head _))]
    rfl

theorem rightSide_eq_self {t : Text} (ht : '=' ∉ t) : rightSide t = t := by
  rw [rightSide, Text.pieces_eq_singleton ht]
  rfl

theorem canonical_trim (t : Text) : Name.canonical (Text.trim t) = Name.canonical t := by
  rw [Name.canonical, Name.canonical, Name.spelled, Name.spelled, Name.stripped_congr (Text.trim_trim t)]

theorem mem_trim {t : Text} {c : Char} (h : c ∈ Text.trim t) : c ∈ t := (Text.isInfix_trim t).subset h

/-- A text without `=` is an expression. -/
theorem read_expression {t : Text} (hpi : withPi t = t) (hequals : '=' ∉ t) : read t = ⟨Name.canonical t, none⟩ := by
  have hnone : assignment? (Text.trim t) = none := assignment?_eq_none (.inr fun hmem => hequals (mem_trim hmem))
  rw [read, hpi, hnone, rightSide_eq_self fun hmem => hequals (mem_trim hmem), canonical_trim]

/-- An assignment of an expression to what stands before `:=`. -/
theorem read_assignment {name front back t : Text} (hname : Text.Trimmed name) (hne : name ≠ [])
    (hline : '\n' ∉ name) (hfront : AllBlank front) (hback : AllBlank back) (ht : Text.Trimmed t) (ht' : t ≠ [])
    (hcolon : ':' ∉ t) (hequals : '=' ∉ t) (hpi : ∀ c ∈ name ++ t, c ≠ '\\') :
    read (name ++ front ++ ':' :: '=' :: back ++ t) = ⟨Name.canonical t, some name⟩ := by
  have hblank : ∀ {b : Text}, AllBlank b → ∀ c ∈ b, c ≠ '\\' :=
    fun hb c hc => Name.ne_backslash_of_isQuiet (Name.isQuiet_of_isBlank (hb c hc))
  have hpi : withPi (name ++ front ++ ':' :: '=' :: back ++ t) = name ++ front ++ ':' :: '=' :: back ++ t := by
    apply withPi_eq_self
    intro c hc
    simp only [List.mem_append, List.mem_cons] at hc
    obtain ((hc | hc) | rfl | rfl | hc) | hc := hc
    · exact hpi c (List.mem_append_left _ hc)
    · exact hblank hfront c hc
    · decide
    · decide
    · exact hblank hback c hc
    · exact hpi c (List.mem_append_right _ hc)
  have htrim : Text.trim (name ++ front ++ ':' :: '=' :: back ++ t) = name ++ front ++ ':' :: '=' :: back ++ t := by
    apply Text.trim_eq_self
    constructor
    · obtain ⟨c, rest, rfl⟩ := List.exists_cons_of_ne_nil hne
      simpa using hname.1
    · rw [List.getLast?_append]
      cases hlast : t.getLast? with
      | none => exact absurd (List.getLast?_eq_none_iff.mp hlast) ht'
      | some c => simpa [hlast] using ht.2
  have hcolon : ':' ∉ back ++ t := by
    intro hmem
    obtain hmem | hmem := List.mem_append.mp hmem
    · exact absurd (hback _ hmem) (by decide)
    · exact hcolon hmem
  obtain ⟨left, hleft, hassignment⟩ := assignment?_of_blanks (r := back ++ t) hfront hcolon
  have hall := assignment?_append hline hassignment
  have hright : Text.trimStart (back ++ t) = t := by
    rw [Text.trimStart_append_of_allBlank hback, Text.trimStart_eq_self ht.1]
  have hleft' : Text.trim (name ++ left) = name := by
    have hblanks := @Text.trim_append_of_allBlank [] name left Text.allBlank_nil hleft
    rwa [List.nil_append, Text.trim_eq_self hname] at hblanks
  rw [hright] at hall
  rw [read, hpi, htrim]
  simp only [List.append_assoc, List.cons_append] at hall ⊢
  rw [hall]
  simp only [hleft', rightSide_eq_self hequals, if_neg hne]

end LiveTex.Statement

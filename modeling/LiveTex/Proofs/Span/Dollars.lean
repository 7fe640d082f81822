import LiveTex.Span.Dollar
import LiveTex.Span.Delimiters

/-!
Mathematics between dollars. Both display modes cut a text in the same way: what a text begins with is found or a
character is passed over. A piece of mathematics is found by its own characters, so it does not matter what follows it.
-/

namespace LiveTex.Dollar

/-- The mathematics that a text begins with, by the display mode. -/
def head? : DisplayMode → (before : Option Char) → Text → Option (Text × Text)
  | .inline => inline?
  | .block => fun _ => block?

/-- The cut of a text at its mathematics. -/
def cut : DisplayMode → Finder
  | .inline => inlines
  | .block => fun _ => blocks

section

variable {mode : DisplayMode} {before : Option Char} {c : Char} {t content rest : Text}

theorem cut_nil (mode : DisplayMode) (before : Option Char) : cut mode before [] = .none [] := by
  cases mode with
  | inline => rw [cut, inlines]
  | block =>
    simp only [cut]
    rw [blocks]

theorem cut_of_some (h : head? mode before (c :: t) = some (content, rest)) :
    cut mode before (c :: t) = (cut mode (some '$') rest).found ⟨[], mode.dollars, content, mode.dollars⟩ := by
  cases mode with
  | inline =>
    rw [cut, inlines]
    split
    · next heq =>
      cases h.symm.trans heq
      rfl
    · next heq => cases h.symm.trans heq
  | block =>
    simp only [cut]
    rw [blocks]
    split
    · next heq =>
      cases h.symm.trans heq
      rfl
    · next heq => cases h.symm.trans heq

theorem cut_of_none (h : head? mode before (c :: t) = none) :
    cut mode before (c :: t) = (cut mode (some c) t).skip c := by
  cases mode with
  | inline =>
    rw [cut, inlines]
    split
    · next heq => cases h.symm.trans heq
    · rfl
  | block =>
    simp only [cut]
    rw [blocks]
    split
    · next heq => cases h.symm.trans heq
    · rfl

theorem eq_append_of_head? (h : head? mode before t = some (content, rest)) :
    t = mode.dollars ++ content ++ mode.dollars ++ rest := by
  cases mode with
  | inline => exact eq_append_of_inline? h
  | block => exact eq_append_of_block? h

/-- Behind mathematics the character before is a dollar. -/
theorem getLast?_append_dollars (mode : DisplayMode) (front content : Text) :
    (front ++ (mode.dollars ++ content ++ mode.dollars)).getLast? = some '$' := by
  cases mode <;> simp [DisplayMode.dollars, List.getLast?_cons, List.getLast?_append]

/-- What holds of a text when it holds of the text behind the first mathematics or behind the first character. -/
theorem cut_induction {P : Option Char → Text → Prop} (mode : DisplayMode) (nil : ∀ before, P before [])
    (found : ∀ before c t content rest, head? mode before (c :: t) = some (content, rest) → P (some '$') rest →
      P before (c :: t))
    (skip : ∀ before c t, head? mode before (c :: t) = none → P (some c) t → P before (c :: t)) (before : Option Char)
    (t : Text) : P before t := by
  induction hlength : t.length using Nat.strongRecOn generalizing before t with
  | _ n ih =>
    cases t with
    | nil => exact nil before
    | cons c t =>
      cases hhead : head? mode before (c :: t) with
      | none => exact skip before c t hhead (ih _ (by rw [← hlength]; exact Nat.lt_succ_self _) _ _ rfl)
      | some p =>
        obtain ⟨content, rest⟩ := p
        refine found before c t content rest hhead (ih _ ?_ _ _ rfl)
        have hdollars : 0 < mode.dollars.length := by cases mode <;> decide
        rw [← hlength, eq_append_of_head? hhead]
        simp only [List.length_append]
        omega

/-- Nothing of the text is left out. -/
theorem text_cut (mode : DisplayMode) (before : Option Char) (t : Text) : (cut mode before t).text = t := by
  induction before, t using cut_induction mode with
  | nil before => rw [cut_nil, Cut.text_none]
  | found before c t content rest hhead ih =>
    rw [cut_of_some hhead, Cut.text_found, ih, eq_append_of_head? hhead]
    simp [Occurrence.whole]
  | skip before c t hhead ih => rw [cut_of_none hhead, Cut.text_skip, ih]

/-- The occurrence is mathematics between dollars. -/
structure Encloses (mode : DisplayMode) (o : Occurrence) : Prop where
  opening : o.opening = mode.dollars
  closing : o.closing = mode.dollars
  found : ∃ before t rest, head? mode before t = some (o.latex, rest)

theorem encloses_of_mem_skip {cut : Cut} (h : ∀ o ∈ cut.occurrences, Encloses mode o) :
    ∀ o ∈ (cut.skip c).occurrences, Encloses mode o := by
  obtain ⟨os, rest⟩ := cut
  cases os with
  | nil => exact h
  | cons o os =>
    intro u hu
    obtain rfl | hu := List.mem_cons.mp hu
    · obtain ⟨hopening, hclosing, hfound⟩ := h o (.head _)
      exact ⟨hopening, hclosing, hfound⟩
    · exact h u (.tail _ hu)

theorem encloses_of_mem_cut (mode : DisplayMode) (before : Option Char) (t : Text) :
    ∀ o ∈ (cut mode before t).occurrences, Encloses mode o := by
  induction before, t using cut_induction mode with
  | nil before => simp [cut_nil, Cut.none]
  | found before c t content rest hhead ih =>
    rw [cut_of_some hhead]
    intro o ho
    obtain rfl | ho := List.mem_cons.mp ho
    · exact ⟨rfl, rfl, before, c :: t, rest, hhead⟩
    · exact ih o ho
  | skip before c t hhead ih =>
    rw [cut_of_none hhead]
    exact encloses_of_mem_skip ih

end

/-- The closing dollars are found by the content, whatever follows them. -/
theorem untilDoubleDollar_append {before : Option Char} {t content rest : Text}
    (h : untilDoubleDollar before t = some (content, rest)) (rest' : Text) :
    untilDoubleDollar before (content ++ ['$', '$'] ++ rest') = some (content, rest') := by
  fun_induction untilDoubleDollar before t generalizing content with
  | case1 | case2 | case4 => simp at h
  | case3 before c d t hcloses =>
    cases h
    have hopen : (before != some '\\') = true := by simp_all
    simp [untilDoubleDollar, hopen]
  | case5 before c d t hcloses hline ih =>
    obtain ⟨⟨content, rest⟩, hfound, hpair⟩ := Option.map_eq_some_iff.mp h
    cases hpair
    have ih := ih hfound
    have ht := eq_append_of_untilDoubleDollar hfound
    -- The character behind `c` is the same, whether it belongs to the content or to the closing dollars.
    obtain ⟨more, hmore⟩ : ∃ more, content ++ ['$', '$'] ++ rest' = d :: more := by
      cases content with
      | nil => exact ⟨_, by rw [← (List.cons.inj ht).1]; rfl⟩
      | cons e content => exact ⟨_, by rw [← (List.cons.inj ht).1]; rfl⟩
    rw [hmore] at ih
    rw [List.cons_append, List.cons_append, hmore, untilDoubleDollar, if_neg hcloses, if_neg hline, ih]
    rfl

/-- A block is found by its own characters. -/
theorem block?_append {t content rest : Text} (h : block? t = some (content, rest)) (rest' : Text) :
    block? (['$', '$'] ++ content ++ ['$', '$'] ++ rest') = some (content, rest') := by
  simp only [block?, Option.bind_eq_bind, Option.bind_eq_some_iff] at h
  obtain ⟨body, hbody, h⟩ := h
  split at h
  · cases h
  · next hblank =>
    have hafter : Text.after? ['$', '$'] (['$', '$'] ++ content ++ ['$', '$'] ++ rest') = some (content ++ ['$', '$'] ++ rest') :=
      Text.after?_eq_some_iff.mpr (by simp)
    have hhead : (content ++ ['$', '$'] ++ rest').head? = body.head? := by
      rw [eq_append_of_untilDoubleDollar h]
      cases content <;> rfl
    simp only [block?, hafter, Option.bind_eq_bind, Option.bind_some, hhead, if_neg hblank]
    exact untilDoubleDollar_append h rest'

/-- The content does not begin with a dollar. -/
theorem head?_of_untilDollar {last : Option Char} {t content rest : Text}
    (h : untilDollar last t = some (content, rest)) : content.head? ≠ some '$' := by
  intro hhead
  obtain ⟨more, rfl⟩ := List.head?_eq_some_iff.mp hhead
  obtain rfl := eq_append_of_untilDollar h
  cases more <;> simp [untilDollar] at h

/-- The content ends with a character that it may end with. -/
theorem ends_of_untilDollar {last : Option Char} {t content rest : Text}
    (h : untilDollar last t = some (content, rest)) : (content.getLast?.or last).any ends = true := by
  fun_induction untilDollar last t generalizing content with
  | case1 | case3 | case5 => simp at h
  | case2 | case4 =>
    cases h
    simp_all
  | case6 last c d t hc hescape ih | case7 last c d t hc hescape ih =>
    obtain ⟨⟨content, rest⟩, hfound, hpair⟩ := Option.map_eq_some_iff.mp h
    cases hpair
    have ih := ih hfound
    cases hlast : content.getLast? <;> simp_all [List.getLast?_cons]

/-- The closing dollar is found by the content, whatever follows it. -/
theorem untilDollar_append {last : Option Char} {t content rest : Text}
    (h : untilDollar last t = some (content, rest)) (rest' : Text) :
    untilDollar last (content ++ ['$'] ++ rest') = some (content, rest') := by
  fun_induction untilDollar last t generalizing content with
  | case1 | case3 | case5 => simp at h
  | case2 last c hcloses =>
    cases h
    have hlast : last.any ends = true := by simp_all
    cases rest' <;> simp [untilDollar, hlast]
  | case4 last d t hlast =>
    cases h
    cases rest' <;> simp [untilDollar, hlast]
  | case6 last c d t hc hescape ih =>
    obtain ⟨⟨content, rest⟩, hfound, hpair⟩ := Option.map_eq_some_iff.mp h
    cases hpair
    simp only [List.cons_append, untilDollar, if_neg hc, if_pos hescape]
    rw [ih hfound]
    rfl
  | case7 last c d t hc hescape ih =>
    obtain ⟨⟨content, rest⟩, hfound, hpair⟩ := Option.map_eq_some_iff.mp h
    cases hpair
    have ih := ih hfound
    have ht := eq_append_of_untilDollar hfound
    obtain ⟨more, hmore⟩ : ∃ more, content ++ ['$'] ++ rest' = d :: more := by
      cases content with
      | nil => exact ⟨_, by rw [← (List.cons.inj ht).1]; rfl⟩
      | cons e content => exact ⟨_, by rw [← (List.cons.inj ht).1]; rfl⟩
    rw [hmore] at ih
    rw [List.cons_append, List.cons_append, hmore, untilDollar, if_neg hc, if_neg hescape, ih]
    rfl

/-- Mathematics in a line is found by its own characters and the one before it. -/
theorem inline?_append {before : Option Char} {t content rest : Text} (h : inline? before t = some (content, rest))
    (rest' : Text) : inline? none (['$'] ++ content ++ ['$'] ++ rest') = some (content, rest') := by
  simp only [inline?, Option.bind_eq_bind, Option.bind_eq_some_iff] at h
  obtain ⟨body, hbody, h⟩ := h
  split at h
  · cases h
  · next hbegins =>
    have hafter : Text.after? ['$'] (['$'] ++ content ++ ['$'] ++ rest') = some (content ++ ['$'] ++ rest') :=
      Text.after?_eq_some_iff.mpr (by simp)
    have hhead : (content ++ ['$'] ++ rest').head? = body.head? := by
      rw [eq_append_of_untilDollar h]
      cases content <;> rfl
    have hbody : body.head?.any begins = true := by simp_all
    simp only [inline?, hafter, Option.bind_eq_bind, Option.bind_some, hhead, hbody]
    exact untilDollar_append h rest'

/-- In the content and its closing dollar, two dollars follow each other at the end only. -/
theorem eq_nil_of_pair_of_untilDollar {last : Option Char} {t content rest front back : Text}
    (h : untilDollar last t = some (content, rest)) (hpair : content ++ ['$'] = front ++ '$' :: '$' :: back) : back = [] := by
  fun_induction untilDollar last t generalizing content front with
  | case1 | case3 | case5 => simp at h
  | case2 | case4 =>
    cases h
    have hlength := congrArg List.length hpair
    simp only [List.length_append, List.length_cons, List.length_nil] at hlength
    omega
  | case6 last c d t hc hescape ih =>
    obtain ⟨⟨content, rest⟩, hfound, heq⟩ := Option.map_eq_some_iff.mp h
    cases heq
    have hhead := head?_of_untilDollar hfound
    obtain _ | ⟨a, _ | ⟨b, front⟩⟩ := front
    · exact absurd (List.cons.inj hpair).1 hc
    · have hrest := (List.cons.inj (List.cons.inj hpair).2).2
      cases content with
      | nil => exact (List.cons.inj hrest).2.symm
      | cons e content => exact absurd (congrArg some (List.cons.inj hrest).1) hhead
    · exact ih hfound (List.cons.inj (List.cons.inj hpair).2).2
  | case7 last c d t hc hescape ih =>
    obtain ⟨⟨content, rest⟩, hfound, heq⟩ := Option.map_eq_some_iff.mp h
    cases heq
    cases front with
    | nil => exact absurd (List.cons.inj hpair).1 hc
    | cons a front => exact ih hfound (List.cons.inj hpair).2

/-- A text whose dollars follow each other at its end only holds no block. -/
theorem blocks_eq_none {t : Text} (h : ∀ front back, t = front ++ '$' :: '$' :: back → back = []) : blocks t = .none t := by
  fun_induction blocks t with
  | case1 => rfl
  | case2 c t content rest hblock ih =>
    have hback := h [] (content ++ ['$', '$'] ++ rest) (by simpa using eq_append_of_block? hblock)
    simp at hback
  | case3 c t hblock ih =>
    rw [ih fun front back ht => h (c :: front) back (by rw [ht]; rfl)]
    rfl

end LiveTex.Dollar

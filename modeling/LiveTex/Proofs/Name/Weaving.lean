import LiveTex.Proofs.Name.Standing

/-!
Identifiers woven into a text. Several replacements one after the other leave a text in which the identifiers
stand between pieces of the original text. A name without an identifier among its runs of letters can only
stand in such a piece.
-/

namespace LiveTex.Name

/-- The second text is the first one with letters in the place of some parts, each next to no letter. -/
inductive Woven (P : Text → Text → Prop) : Text → Text → Prop
  | plain (t : Text) : Woven P t t
  | block {front x b t u : Text} (hblock : P x b) (hletters : AllLetters b) (hne : b ≠ [])
      (hfront : noLetter front.getLast? = true) (hback : noLetter u.head? = true) (hnext : Woven P t u) :
      Woven P (front ++ x ++ t) (front ++ b ++ u)

/-- Wherever the name stands in the second text, it is a piece of the first one, and its surroundings are woven
without it. -/
def StandsBetween (P : Text → Text → Prop) (name t u : Text) : Prop :=
  ∀ front back, u = front ++ name ++ back → noLetter front.getLast? = true → noLetter back.head? = true →
    ∃ t₁ t₂, t = t₁ ++ name ++ t₂ ∧ Woven P t₁ front ∧ Woven P t₂ back

variable {P Q : Text → Text → Prop} {t u v b name front back : Text}

/-- A name at the front that the letters do not stand in ends before them. -/
theorem exists_rest_of_append_eq (hletters : AllLetters b) (hne : b ≠ []) (hfront : noLetter front.getLast? = true)
    (hu : noLetter u.head? = true) (hback : noLetter back.head? = true) (hname : ¬ Stands b name)
    (h : name ++ back = front ++ b ++ u) : ∃ rest, front = name ++ rest ∧ back = rest ++ b ++ u := by
  rw [List.append_assoc] at h
  obtain ⟨rest, hrest, hsplit⟩ | ⟨part, hpart, hsplit⟩ := List.append_eq_append_iff.mp h
  · exact ⟨rest, hrest, by rw [hsplit, List.append_assoc]⟩
  · obtain ⟨extra, hextra, rfl⟩ | ⟨extra, rfl, rfl⟩ := List.append_eq_append_iff.mp hsplit
    · exact absurd ⟨front, extra, by rw [hpart, hextra, List.append_assoc], hfront, noLetter_head?_left hu⟩ hname
    · cases extra with
      | nil =>
        rw [List.append_nil] at hname
        exact absurd ⟨front, [], by rw [hpart, List.append_nil], hfront, rfl⟩ hname
      | cons c extra =>
        have hextra : AllLetters (c :: extra) := fun d hd => hletters d (List.mem_append_right _ hd)
        exact absurd hback (not_noLetter_head? hextra (List.cons_ne_nil _ _))

namespace Woven

theorem mono (h : Woven P t u) (hPQ : ∀ x b, P x b → Q x b) : Woven Q t u := by
  induction h with
  | plain t => exact .plain t
  | block hblock hletters hne hfront hback _ ih => exact .block (hPQ _ _ hblock) hletters hne hfront hback ih

theorem head?_eq (h : Woven P t u) (hu : noLetter u.head? = true) : t.head? = u.head? := by
  cases h with
  | plain => rfl
  | @block front x b t u _ hletters hne =>
    cases front with
    | nil => exact absurd hu (not_noLetter_head? hletters hne)
    | cons c front => rfl

theorem getLast?_eq (h : Woven P t u) (hu : noLetter u.getLast? = true) : t.getLast? = u.getLast? := by
  induction h with
  | plain => rfl
  | @block front x b t u _ hletters hne _ _ _ ih =>
    have hlast := ih (noLetter_getLast?_right hu)
    have hsource : (front ++ x ++ t).getLast? = t.getLast?.or (front ++ x).getLast? := List.getLast?_append
    have hwoven : (front ++ b ++ u).getLast? = u.getLast?.or (front ++ b).getLast? := List.getLast?_append
    rw [hsource, hwoven, hlast]
    cases hsome : u.getLast? with
    | some c => rfl
    | none =>
      rw [List.getLast?_eq_none_iff.mp hsome, List.append_nil] at hu
      exact absurd hu (not_noLetter_getLast? hletters hne)

theorem append (h : Woven P t u) {t' u' : Text} (h' : Woven P t' u') (hu : noLetter u.getLast? = true) :
    Woven P (t ++ t') (u ++ u') := by
  induction h with
  | plain t =>
    cases h' with
    | plain t' => exact .plain _
    | block hblock hletters hne hfront hback hnext =>
      simp only [← List.append_assoc]
      exact .block hblock hletters hne (noLetter_getLast?_append hu hfront) hback hnext
  | @block front x b t u hblock hletters hne hfront hback _ ih =>
    have hhead : noLetter (u ++ u').head? = true := by
      cases u with
      | nil =>
        rw [List.append_nil] at hu
        exact absurd hu (not_noLetter_getLast? hletters hne)
      | cons c u => exact hback
    rw [List.append_assoc, List.append_assoc _ u]
    exact .block hblock hletters hne hfront hhead (ih (noLetter_getLast?_right hu))

/-- A name that no block reaches into stands between blocks. -/
theorem standsBetween (h : Woven P t u) (hname : ∀ x b, P x b → ¬ Stands b name) : StandsBetween P name t u := by
  intro front back hu hfront hback
  induction h generalizing front with
  | plain t => exact ⟨front, back, hu, .plain _, .plain _⟩
  | @block before x b t u hblock hletters hne hbefore hafter hnext ih =>
    rw [List.append_assoc front] at hu
    obtain ⟨inner, rfl, hinner⟩ | ⟨part, hpart, hrest⟩ := List.append_eq_append_iff.mp hu
    · obtain ⟨t₁, t₂, rfl, hleft, hright⟩ := ih inner (by rw [hinner, List.append_assoc]) (noLetter_getLast?_right hfront)
      rw [hinner] at hafter
      refine ⟨before ++ x ++ t₁, t₂, by simp only [List.append_assoc], ?_, hright⟩
      exact .block hblock hletters hne hbefore (noLetter_head?_left hafter) hleft
    · -- The part before the name ends before the block.
      obtain ⟨gap, rfl, rfl⟩ : ∃ gap, before = front ++ gap ∧ part = gap ++ b := by
        obtain ⟨extra, rfl, rfl⟩ | ⟨gap, rfl, rfl⟩ := List.append_eq_append_iff.mp hpart
        · cases extra with
          | nil => exact ⟨[], by simp, rfl⟩
          | cons c extra =>
            have hextra : AllLetters (c :: extra) := fun d hd => hletters d (List.mem_append_left _ hd)
            exact absurd hfront (not_noLetter_getLast? hextra (List.cons_ne_nil _ _))
        · exact ⟨gap, rfl, rfl⟩
      have hgap := noLetter_getLast?_right hbefore
      obtain ⟨rest, rfl, rfl⟩ :=
        exists_rest_of_append_eq hletters hne hgap hafter hback (hname x b hblock) hrest
      refine ⟨front, rest ++ x ++ t, by simp only [List.append_assoc], .plain _, ?_⟩
      exact .block hblock hletters hne (noLetter_getLast?_right hgap) hafter hnext

/-- A name that stands in the woven text stands in the original text. -/
theorem stands_of_stands (h : Woven P t u) (hname : ∀ x b, P x b → ¬ Stands b name) (hstands : Stands name u) :
    Stands name t := by
  obtain ⟨front, back, hu, hfront, hback⟩ := hstands
  obtain ⟨t₁, t₂, ht, hleft, hright⟩ := h.standsBetween hname front back hu hfront hback
  refine ⟨t₁, t₂, ht, ?_, ?_⟩
  · rwa [hleft.getLast?_eq hfront]
  · rwa [hright.head?_eq hback]

/-- Weaving more blocks into a woven text, where no block reaches into what they take the place of. -/
theorem trans (h : Woven P t u) (h' : Woven Q u v) (hname : ∀ x b y c, P x b → Q y c → ¬ Stands b y) :
    Woven (fun x b => P x b ∨ Q x b) t v := by
  induction h' generalizing t with
  | plain => exact h.mono fun _ _ => .inl
  | block hblock hletters hne hfront hback hnext ih =>
    have hsource : noLetter (List.head? _) = true := (hnext.head?_eq hback).symm ▸ hback
    obtain ⟨t₁, t₂, rfl, hleft, hright⟩ :=
      h.standsBetween (fun x b hx => hname x b _ _ hx hblock) _ _ rfl hfront hsource
    have hmore : Woven _ ([] ++ _ ++ _) ([] ++ _ ++ _) := block (.inr hblock) hletters hne rfl hback (ih hright)
    rw [List.append_assoc, List.append_assoc]
    exact (hleft.mono fun _ _ => .inl).append hmore hfront

/-- What a block takes the place of stands in the original text. -/
theorem stands (h : Woven P t u) : Woven (fun x b => P x b ∧ Stands x t) t u := by
  have within (before : Text) (hbefore : before = [] ∨ noLetter u.head? = true) :
      Woven (fun x b => P x b ∧ Stands x (before ++ t)) t u := by
    induction h generalizing before with
    | plain t => exact .plain t
    | @block front x b t u hblock hletters hne hfront hback hnext ih =>
      have hseam : noLetter (before ++ front).getLast? = true := by
        obtain rfl | hhead := hbefore
        · exact hfront
        · cases front with
          | nil => exact absurd hhead (not_noLetter_head? hletters hne)
          | cons c front =>
            rw [List.getLast?_append]
            exact hfront
      have hhead : noLetter t.head? = true := (hnext.head?_eq hback).symm ▸ hback
      have hx : Stands x (before ++ (front ++ x ++ t)) :=
        ⟨before ++ front, t, by simp only [List.append_assoc], hseam, hhead⟩
      have hrest := ih (before ++ (front ++ x)) (.inr hback)
      rw [List.append_assoc before] at hrest
      exact .block ⟨hblock, hx⟩ hletters hne hfront hback hrest
  exact within [] (.inl rfl)

end Woven

/-- No letter is at either end of the name, so it can stand as a whole where it follows itself. -/
def Repeatable (name : Text) : Prop := name ≠ [] ∧ noLetter name.head? = true ∧ noLetter name.getLast? = true

instance (name : Text) : Decidable (Repeatable name) := inferInstanceAs (Decidable (_ ∧ _ ∧ _))

/-- A name is replaced so many times in a row. -/
def Repeats (name ident x b : Text) : Prop :=
  name ≠ [] ∧ ∃ n, x = repeated (n + 1) name ∧ b = repeated (n + 1) ident ∧ (n = 0 ∨ Repeatable name)

section

variable {first : Char} {more : Text}

/-- A character is kept, or the name stands in front and is replaced. -/
theorem replaceEach_cons (ident : Text) (previous : Option Char) (c : Char) (t : Text) :
    replaceEach first more ident previous (c :: t) = c :: replaceEach first more ident (some c) t ∨
      ∃ after, c :: t = first :: more ++ after ∧ noLetter previous = true ∧ noLetter after.head? = true ∧
        replaceEach first more ident previous (c :: t) =
          ident ++ replaceEach first more ident (first :: more).getLast? after := by
  cases hafter : Text.after? (first :: more) (c :: t) with
  | none => exact .inl (replaceEach_of_none previous hafter)
  | some after =>
    rw [replaceEach_of_some previous hafter]
    split
    · next hwhole =>
      rw [Bool.and_eq_true] at hwhole
      exact .inr ⟨after, Text.after?_eq_some_iff.mp hafter, hwhole.1, hwhole.2, rfl⟩
    · exact .inl rfl

/-- Behind a name that has been replaced, the name is replaced as long as it follows itself. -/
theorem exists_repeated (ident t : Text) (ht : noLetter t.head? = true) :
    ∃ n rest, t = repeated n (first :: more) ++ rest ∧ noLetter rest.head? = true ∧
      (n = 0 ∨ Repeatable (first :: more)) ∧
      replaceEach first more ident (first :: more).getLast? t =
        repeated n ident ++ replaceEach first more ident (first :: more).getLast? rest ∧
      ∀ c s, rest = c :: s →
        replaceEach first more ident (first :: more).getLast? rest = c :: replaceEach first more ident (some c) s := by
  induction h : t.length using Nat.strongRecOn generalizing t with
  | ind length ih =>
    cases t with
    | nil => exact ⟨0, [], rfl, rfl, .inl rfl, rfl, nofun⟩
    | cons c t =>
      obtain hkeep | ⟨after, hsplit, hlast, hhead, hreplace⟩ :=
        replaceEach_cons ident (first :: more).getLast? c t
      · refine ⟨0, c :: t, rfl, ht, .inl rfl, rfl, ?_⟩
        rintro _ _ ⟨⟩
        exact hkeep
      · have hshorter : after.length < length := by
          rw [← h, hsplit, List.length_append, List.length_cons]
          omega
        obtain ⟨n, rest, hafter, hrest, -, houtput, hnext⟩ := ih _ hshorter after hhead rfl
        refine ⟨n + 1, rest, ?_, hrest, .inr ⟨List.cons_ne_nil _ _, ?_, hlast⟩, ?_, hnext⟩
        · rw [hsplit, hafter, repeated_succ, List.append_assoc]
        · rwa [hsplit] at ht
        · rw [hreplace, houtput, repeated_succ, List.append_assoc]

/-- Replacing a name weaves its identifier into the text. -/
theorem woven_replaceEach {ident : Text} (hident : AllLetters ident) (hne : ident ≠ []) (front t : Text) :
    Woven (Repeats (first :: more) ident) (front ++ t) (front ++ replaceEach first more ident front.getLast? t) := by
  induction h : t.length using Nat.strongRecOn generalizing front t with
  | ind length ih =>
    cases t with
    | nil =>
      rw [replaceEach]
      exact .plain _
    | cons c t =>
      obtain hkeep | ⟨after, hsplit, hlast, hhead, hreplace⟩ := replaceEach_cons ident front.getLast? c t
      · have hnext := ih t.length (by rw [← h, List.length_cons]; omega) (front ++ [c]) t rfl
        rw [hkeep]
        simpa using hnext
      · obtain ⟨n, rest, hafter, hrest, hends, houtput, hnext⟩ := exists_repeated ident after hhead
        have hwoven : Woven (Repeats (first :: more) ident) rest
            (replaceEach first more ident (first :: more).getLast? rest) ∧
              noLetter (replaceEach first more ident (first :: more).getLast? rest).head? = true := by
          cases rest with
          | nil => exact ⟨by rw [replaceEach]; exact .plain _, by rw [replaceEach]; rfl⟩
          | cons d s =>
            have hshorter : s.length < length := by
              rw [← h, hsplit, hafter]
              simp only [List.length_append, List.length_cons]
              omega
            rw [hnext d s rfl]
            exact ⟨ih s.length hshorter [d] s rfl, hrest⟩
        rw [hreplace, hsplit, houtput, hafter, ← List.append_assoc ident, ← List.append_assoc (first :: more),
          ← repeated_succ, ← repeated_succ, ← List.append_assoc, ← List.append_assoc]
        exact .block ⟨List.cons_ne_nil _ _, n, rfl, rfl, hends⟩ (allLetters_repeated _ hident)
          (repeated_ne_nil n hne) hlast hwoven.2 hwoven.1

end

theorem woven_replaceWhole? {ident : Text} (hident : AllLetters ident) (hne : ident ≠ []) (name t : Text) :
    Woven (Repeats name ident) t ((replaceWhole? t name ident).getD t) := by
  cases name with
  | nil => exact .plain t
  | cons first more =>
    rw [getD_replaceWhole?]
    exact woven_replaceEach hident hne [] t

/-- Identifiers are woven in by one replacement after the other, if no replacement reaches into what stands
where the ones before it have replaced something. -/
theorem Woven.substitute {pairs : List (Text × Text)} (h : Woven P t u)
    (hidents : ∀ p ∈ pairs, AllLetters p.2 ∧ p.2 ≠ []) (hpairs : ∀ p ∈ pairs, ∀ y c, Repeats p.1 p.2 y c → P y c)
    (hapart : ∀ x b, P x b → Stands x t → ∀ p ∈ pairs, ∀ y c, Repeats p.1 p.2 y c → ¬ Stands b y) :
    Woven P t (Name.substitute u pairs) := by
  induction pairs generalizing u with
  | nil => exact h
  | cons pair pairs ih =>
    obtain ⟨hletters, hne⟩ := hidents pair (.head _)
    have hpass := woven_replaceWhole? hletters hne pair.1 u
    have hboth := h.stands.trans hpass fun x b y c hx hy => hapart x b hx.1 hx.2 pair (.head _) y c hy
    refine ih (hboth.mono fun x b hx => ?_) (fun p hp => hidents p (.tail _ hp)) (fun p hp => hpairs p (.tail _ hp))
      fun x b hx hstands p hp => hapart x b hx hstands p (.tail _ hp)
    obtain ⟨hx, -⟩ | hx := hx
    · exact hx
    · exact hpairs pair (.head _) x b hx

end LiveTex.Name

import Mathlib.Data.List.DropRight
import Mathlib.Data.List.Induction
import Mathlib.Data.List.TakeWhile
import LiveTex.Text.Blank

/-!
Trimming. What is left begins and ends with characters that are not blank, and blanks around a text make
no difference.
-/

namespace LiveTex.Text

/-- There are only blank characters. -/
def AllBlank (t : Text) : Prop := ∀ c ∈ t, isBlank c = true

instance : DecidablePred AllBlank := fun t => decidable_of_iff (t.all isBlank = true) List.all_eq_true

theorem allBlank_nil : AllBlank [] := by
  simp [AllBlank]

/-- No blank stands at either end. -/
def Trimmed (t : Text) : Prop := (∀ c ∈ t.head?, isBlank c = false) ∧ ∀ c ∈ t.getLast?, isBlank c = false

/-- The visible characters of ASCII are not blank. -/
theorem isBlank_eq_false {c : Char} (hlow : 0x20 < c.toNat) (hhigh : c.toNat < 0x7f) : isBlank c = false := by
  simp [isBlank, whiteSpace, CharSet.has]
  omega

theorem isBlank_of_isAlphanum {c : Char} (h : c.isAlphanum = true) : isBlank c = false := by
  unfold Char.isAlphanum Char.isAlpha Char.isUpper Char.isLower Char.isDigit at h
  simp only [UInt32.le_iff_toNat_le, Bool.or_eq_true, Bool.and_eq_true, decide_eq_true_eq] at h
  apply isBlank_eq_false
  all_goals
    simp at h
    omega

theorem trimStart_append_of_allBlank {b t : Text} (hb : AllBlank b) : trimStart (b ++ t) = trimStart t :=
  List.dropWhile_append_of_pos hb

theorem trimStart_eq_self {t : Text} (h : ∀ c ∈ t.head?, isBlank c = false) : trimStart t = t := by
  cases t with
  | nil => rfl
  | cons c t =>
    have hc := h c rfl
    rw [trimStart, List.dropWhile_cons_of_neg (by simp [hc])]

theorem trimEnd_concat (t : Text) (c : Char) :
    trimEnd (t ++ [c]) = if isBlank c then trimEnd t else t ++ [c] := by
  induction t with
  | nil => rfl
  | cons d t ih =>
    rw [List.cons_append, trimEnd, ih]
    by_cases hc : isBlank c = true
    · rw [if_pos hc, if_pos hc, trimEnd]
    · rw [if_neg hc, if_neg hc]
      cases t <;> rfl

theorem trimEnd_append_of_allBlank {b t : Text} (hb : AllBlank b) : trimEnd (t ++ b) = trimEnd t := by
  induction b generalizing t with
  | nil => rw [List.append_nil]
  | cons c b ih =>
    have hc := hb c (List.mem_cons_self ..)
    rw [List.append_cons, ih fun d hd => hb d (List.mem_cons_of_mem _ hd), trimEnd_concat, if_pos hc]

theorem trimEnd_eq_self {t : Text} (h : ∀ c ∈ t.getLast?, isBlank c = false) : trimEnd t = t := by
  cases t using List.reverseRecOn with
  | nil => rfl
  | append_singleton t c =>
    have hc := h c (by simp)
    rw [trimEnd_concat, if_neg (by simp [hc])]

theorem trim_eq_self {t : Text} (h : Trimmed t) : trim t = t := by
  rw [trim, trimStart_eq_self h.1, trimEnd_eq_self h.2]

theorem trimEnd_append (s t : Text) :
    trimEnd (s ++ t) = if trimEnd t = [] then trimEnd s else s ++ trimEnd t := by
  induction t using List.reverseRecOn generalizing s with
  | nil => simp [trimEnd]
  | append_singleton t c ih =>
    rw [← List.append_assoc, trimEnd_concat, trimEnd_concat]
    by_cases hc : isBlank c = true
    · rw [if_pos hc, if_pos hc, ih]
    · rw [if_neg hc, if_neg hc, if_neg (by simp), List.append_assoc]

theorem trimmed_of_mem {t : Text} (h : ∀ c ∈ t, isBlank c = false) : Trimmed t :=
  ⟨fun c hc => h c (List.mem_of_mem_head? hc), fun c hc => h c (List.mem_of_mem_getLast? hc)⟩

/-- What stands between two texts does not matter, unless one of them is empty. -/
theorem Trimmed.between {s t : Text} (hs : Trimmed s) (ht : Trimmed t) (hne : s ≠ []) (hne' : t ≠ []) (u : Text) :
    Trimmed (s ++ u ++ t) := by
  constructor
  · obtain ⟨c, s, rfl⟩ := List.exists_cons_of_ne_nil hne
    exact hs.1
  · rw [List.getLast?_append, List.getLast?_eq_some_getLast hne', Option.some_or, ← List.getLast?_eq_some_getLast hne']
    exact ht.2

theorem Trimmed.append {s t : Text} (hs : Trimmed s) (ht : Trimmed t) : Trimmed (s ++ t) := by
  by_cases hne : s = []
  · rwa [hne]
  by_cases hne' : t = []
  · rwa [hne', List.append_nil]
  · simpa using hs.between ht hne hne' []

/-- A text splits into what trimming its end keeps and the blanks behind it. -/
theorem exists_blanks_behind (t : Text) : ∃ back, AllBlank back ∧ t = trimEnd t ++ back := by
  induction t using List.reverseRecOn with
  | nil => exact ⟨[], allBlank_nil, rfl⟩
  | append_singleton t c ih =>
    rw [trimEnd_concat]
    split
    · next hc =>
      obtain ⟨back, hback, ht⟩ := ih
      refine ⟨back ++ [c], ?_, by rw [← List.append_assoc, ← ht]⟩
      intro d hd
      rcases List.mem_append.mp hd with hd | hd
      · exact hback d hd
      · rw [List.mem_singleton.mp hd]
        exact hc
    · exact ⟨[], allBlank_nil, by simp⟩

/-- A text splits into what trimming keeps and the blanks around it. -/
theorem exists_blanks_around (t : Text) :
    ∃ front back, AllBlank front ∧ AllBlank back ∧ t = front ++ trim t ++ back := by
  obtain ⟨back, hback, hsplit⟩ := exists_blanks_behind (trimStart t)
  refine ⟨t.takeWhile isBlank, back, fun c hc => List.all_eq_true.mp List.all_takeWhile c hc, hback, ?_⟩
  rw [List.append_assoc, trim, ← hsplit, trimStart, List.takeWhile_append_dropWhile]

theorem trim_ne_nil {t : Text} (h : ¬ AllBlank t) : trim t ≠ [] := by
  obtain ⟨front, back, hfront, hback, hsplit⟩ := exists_blanks_around t
  intro hnil
  apply h
  rw [hsplit, hnil, List.append_nil]
  exact List.forall_mem_append.mpr ⟨hfront, hback⟩

theorem isInfix_trim (t : Text) : trim t <:+: t := by
  obtain ⟨front, back, -, -, hsplit⟩ := exists_blanks_around t
  exact ⟨front, back, hsplit.symm⟩

theorem isInfix_trimEnd (t : Text) : trimEnd t <:+: t := by
  obtain ⟨back, -, hsplit⟩ := exists_blanks_behind t
  exact ⟨[], back, by simpa using hsplit.symm⟩

theorem isBlank_of_getLast?_trimEnd (t : Text) : ∀ c ∈ (trimEnd t).getLast?, isBlank c = false := by
  induction t using List.reverseRecOn with
  | nil => simp [trimEnd]
  | append_singleton t c ih =>
    rw [trimEnd_concat]
    split
    · exact ih
    · next hc => simpa using hc

theorem trimmed_trim (t : Text) : Trimmed (trim t) := by
  refine ⟨fun c hc => ?_, isBlank_of_getLast?_trimEnd _⟩
  obtain ⟨back, -, hsplit⟩ := exists_blanks_behind (trimStart t)
  have hfirst : (trimStart t).head? = some c := by
    rw [hsplit, List.head?_append, ← trim, hc]
    rfl
  have hhead := List.head?_dropWhile_not isBlank t
  rw [← trimStart, hfirst] at hhead
  exact hhead

theorem trim_trim (t : Text) : trim (trim t) = trim t := trim_eq_self (trimmed_trim t)

theorem trim_append_of_allBlank {front t back : Text} (hfront : AllBlank front) (hback : AllBlank back) :
    trim (front ++ t ++ back) = trim t := by
  rw [trim, List.append_assoc, trimStart_append_of_allBlank hfront, trim]
  by_cases ht : AllBlank t
  · have hall : AllBlank (t ++ back) := by
      intro c hc
      rcases List.mem_append.mp hc with hc | hc
      · exact ht c hc
      · exact hback c hc
    have hnone : ∀ {s : Text}, AllBlank s → trimStart s = [] := by
      intro s hs
      rw [← List.append_nil s, trimStart_append_of_allBlank hs]
      rfl
    rw [hnone hall, hnone ht]
  · -- Some character is kept, so the blanks behind it are not reached from the front.
    have hsplit : trimStart (t ++ back) = trimStart t ++ back := by
      rw [trimStart, trimStart, List.dropWhile_append]
      split
      · next hempty =>
        exfalso
        apply ht
        intro c hc
        rw [List.isEmpty_iff, List.dropWhile_eq_nil_iff] at hempty
        exact hempty c hc
      · rfl
    rw [hsplit, trimEnd_append_of_allBlank hback]

theorem trim_eq_nil_iff {t : Text} : trim t = [] ↔ AllBlank t := by
  constructor
  · intro hnil
    by_contra hblank
    exact trim_ne_nil hblank hnil
  · intro hblank
    have hblanks := trim_append_of_allBlank (t := []) hblank allBlank_nil
    rwa [List.append_nil, List.append_nil] at hblanks

theorem trim_trimStart (t : Text) : trim (trimStart t) = trim t := by
  rw [trim, trimStart, trimStart, List.dropWhile_idempotent, ← trimStart, trim]

theorem trim_trimEnd (t : Text) : trim (trimEnd t) = trim t := by
  obtain ⟨back, hback, hsplit⟩ := exists_blanks_behind t
  have hblanks := trim_append_of_allBlank (t := trimEnd t) allBlank_nil hback
  rw [List.nil_append, ← hsplit] at hblanks
  exact hblanks.symm

/-- Both ends may be trimmed in either order. -/
theorem trimStart_trimEnd (t : Text) : trimStart (trimEnd t) = trim t := by
  have hlast : ∀ c ∈ (trimStart (trimEnd t)).getLast?, isBlank c = false := by
    intro c hc
    obtain ⟨front, hfront⟩ := List.dropWhile_suffix isBlank (l := trimEnd t)
    apply isBlank_of_getLast?_trimEnd t
    rw [← hfront, List.getLast?_append, Option.mem_def, ← trimStart, hc]
    rfl
  rw [← trim_trimEnd, trim, trimEnd_eq_self hlast]

theorem trimStart_append_cons {c : Char} (hc : isBlank c = false) (s t : Text) :
    trimStart (s ++ c :: t) = trimStart s ++ c :: t := by
  induction s with
  | nil => exact trimStart_eq_self (by simpa using hc)
  | cons d s ih =>
    by_cases hd : isBlank d = true
    · have hdrop (u : Text) : trimStart (d :: u) = trimStart u := List.dropWhile_cons_of_pos hd
      rw [List.cons_append, hdrop, hdrop, ih]
    · have hkeep (u : Text) : trimStart (d :: u) = d :: u := List.dropWhile_cons_of_neg hd
      rw [List.cons_append, hkeep, hkeep, List.cons_append]

theorem trimEnd_append_cons {c : Char} (hc : isBlank c = false) (s t : Text) :
    trimEnd (s ++ c :: t) = s ++ c :: trimEnd t := by
  have hend : trimEnd (c :: t) = c :: trimEnd t := by
    rw [trimEnd]
    cases trimEnd t with
    | nil => simp [hc]
    | cons => rfl
  rw [trimEnd_append, hend, if_neg (List.cons_ne_nil _ _)]

/-- In front of a character that is not blank only the start is trimmed, and behind it only the end. -/
theorem trim_append_cons {c : Char} (hc : isBlank c = false) (s t : Text) :
    trim (s ++ c :: t) = trimStart s ++ c :: trimEnd t := by
  rw [trim, trimStart_append_cons hc, trimEnd_append_cons hc]

end LiveTex.Text

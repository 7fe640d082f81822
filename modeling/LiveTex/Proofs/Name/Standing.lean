import LiveTex.Proofs.Formula.Respelling
import LiveTex.Proofs.Name.Renaming

/-!
Where a name stands as a whole token: next to no letter on either side. A name of letters stands exactly
where a longest run of letters is that name, and a name that stands nowhere is replaced nowhere.
-/

namespace LiveTex.Name

/-- The name is in the text with no letter next to it. -/
def Stands (name t : Text) : Prop :=
  ∃ front back, t = front ++ name ++ back ∧ noLetter front.getLast? = true ∧ noLetter back.head? = true

theorem stands_iff_exists_length {name t : Text} : Stands name t ↔
    ∃ n ∈ List.range (t.length + 1), t = t.take n ++ name ++ t.drop (n + name.length) ∧
      noLetter (t.take n).getLast? = true ∧ noLetter (t.drop (n + name.length)).head? = true := by
  constructor
  · rintro ⟨front, back, rfl, hfront, hback⟩
    have htake : (front ++ name ++ back).take front.length = front := by
      rw [List.append_assoc, List.take_left]
    have hdrop : (front ++ name ++ back).drop (front.length + name.length) = back := by
      rw [← List.length_append, List.drop_left]
    refine ⟨front.length, ?_, ?_, ?_, ?_⟩
    · simp only [List.mem_range, List.length_append]
      omega
    · rw [htake, hdrop]
    · rwa [htake]
    · rwa [hdrop]
  · rintro ⟨n, -, hsplit, hfront, hback⟩
    exact ⟨_, _, hsplit, hfront, hback⟩

instance (name t : Text) : Decidable (Stands name t) := decidable_of_iff' _ stands_iff_exists_length

theorem Stands.length_le {name t : Text} (h : Stands name t) : name.length ≤ t.length := by
  obtain ⟨front, back, rfl, -, -⟩ := h
  simp only [List.length_append]
  omega

variable {c : Char} {t u v w name : Text}

theorem noLetter_getLast?_append (h : noLetter u.getLast? = true) (h' : noLetter v.getLast? = true) :
    noLetter (u ++ v).getLast? = true := by
  rw [List.getLast?_append]
  cases hv : v.getLast? with
  | none => simpa using h
  | some c => simpa [hv] using h'

/-- The right part of a text ends like the text, unless it is empty. -/
theorem noLetter_getLast?_right (h : noLetter (u ++ v).getLast? = true) : noLetter v.getLast? = true := by
  rw [List.getLast?_append] at h
  cases hv : v.getLast? with
  | none => rfl
  | some c => simpa [hv] using h

theorem noLetter_head?_left (h : noLetter (u ++ v).head? = true) : noLetter u.head? = true := by
  rw [List.head?_append] at h
  cases hu : u.head? with
  | none => rfl
  | some c => simpa [hu] using h

theorem not_noLetter_getLast? (hu : AllLetters u) (hne : u ≠ []) : noLetter (w ++ u).getLast? ≠ true := by
  have hlast : u.getLast? = some (u.getLast hne) := List.getLast?_eq_some_getLast hne
  rw [List.getLast?_append, hlast, Option.some_or]
  simp [noLetter, hu _ (List.getLast_mem hne)]

theorem not_noLetter_head? (hu : AllLetters u) (hne : u ≠ []) : noLetter (u ++ w).head? ≠ true := by
  obtain ⟨c, v, rfl⟩ := List.exists_cons_of_ne_nil hne
  simp [noLetter, hu c (.head _)]

/-- A character that is no letter parts the runs. -/
theorem runs_append_cons (run u : Text) (hc : c.isAlpha = false) : runs run (u ++ c :: v) = runs run u ++ runs [] v := by
  induction u generalizing run with
  | nil => simp [runs, hc]
  | cons d u ih =>
    rw [List.cons_append, runs, runs]
    split
    · exact ih _
    · rw [ih, List.cons_append]

/-- Behind a character that is no letter, or at the start, the runs begin anew. -/
theorem mem_runs_append_iff (hu : noLetter u.getLast? = true) (hne : w ≠ []) :
    w ∈ runs [] (u ++ v) ↔ w ∈ runs [] u ∨ w ∈ runs [] v := by
  obtain rfl | ⟨u, c, rfl⟩ := List.eq_nil_or_concat u
  · simp [runs, hne]
  · have hc : c.isAlpha = false := by simpa [noLetter] using hu
    rw [List.concat_eq_append, List.append_assoc, List.singleton_append, runs_append_cons [] u hc,
      runs_append_cons [] u hc]
    simp [runs, hne]

theorem stands_of_mem_runs {run : Text} (h : w ∈ runs run t) : Stands w (run ++ t) := by
  induction t generalizing run with
  | nil =>
    obtain rfl := List.mem_singleton.mp h
    exact ⟨[], [], by simp, rfl, rfl⟩
  | cons c t ih =>
    rw [runs] at h
    split at h
    · simpa using ih h
    · next hc =>
      have hc : c.isAlpha = false := by simpa using hc
      obtain rfl | h := List.mem_cons.mp h
      · exact ⟨[], c :: t, rfl, rfl, by simp [noLetter, hc]⟩
      · obtain ⟨front, back, ht, hfront, hback⟩ := ih h
        rw [List.nil_append] at ht
        refine ⟨run ++ [c] ++ front, back, by simp [ht], noLetter_getLast?_append ?_ hfront, hback⟩
        simp [noLetter, hc]

/-- A name of letters stands in a text where it is a longest run of letters. -/
theorem stands_iff_mem_runs (hletters : AllLetters w) (hne : w ≠ []) : Stands w t ↔ w ∈ runs [] t := by
  constructor
  · rintro ⟨front, back, rfl, hfront, hback⟩
    rw [List.append_assoc, mem_runs_append_iff hfront hne, Formula.mem_runs_run hletters hback hne]
    exact .inr (.inl rfl)
  · exact stands_of_mem_runs

/-- A name that stands nowhere is replaced nowhere. -/
theorem replaceWhole?_eq_self {replacement : Text} (h : name ≠ [] → ¬ Stands name t) :
    (replaceWhole? t name replacement).getD t = t := by
  cases name with
  | nil => rfl
  | cons first more =>
    rw [getD_replaceWhole?]
    apply replaceEach_eq_self
    rintro before after rfl ⟨hbefore, hafter⟩
    rw [Option.or_none] at hbefore
    exact h (List.cons_ne_nil _ _) ⟨before, after, rfl, hbefore, hafter⟩

/-- A text so many times in a row. -/
def repeated (n : Nat) (t : Text) : Text := (List.replicate n t).flatten

@[simp] theorem repeated_zero (t : Text) : repeated 0 t = [] := rfl

theorem repeated_succ (n : Nat) (t : Text) : repeated (n + 1) t = t ++ repeated n t := rfl

@[simp] theorem repeated_one (t : Text) : repeated 1 t = t := List.append_nil t

theorem length_repeated (n : Nat) (t : Text) : (repeated n t).length = n * t.length := by simp [repeated]

theorem allLetters_repeated (n : Nat) (h : AllLetters t) : AllLetters (repeated n t) := by
  intro c hc
  obtain ⟨u, hu, hc⟩ := List.mem_flatten.mp hc
  exact h c (List.eq_of_mem_replicate hu ▸ hc)

theorem repeated_ne_nil (n : Nat) (h : t ≠ []) : repeated (n + 1) t ≠ [] :=
  List.append_ne_nil_of_left_ne_nil h _

/-- Repeating a text makes no new run of letters, unless its end runs into its front. -/
theorem mem_runs_of_repeated {n : Nat} (ht : noLetter t.getLast? = true) (hne : w ≠ [])
    (h : w ∈ runs [] (repeated n t)) : w ∈ runs [] t := by
  induction n with
  | zero =>
    rw [repeated_zero, runs, List.mem_singleton] at h
    exact absurd h hne
  | succ n ih =>
    rw [repeated_succ, mem_runs_append_iff ht hne] at h
    exact h.elim id ih

end LiveTex.Name

import LiveTex.Text.Basic

/-!
Escapes. A backslash escapes the character behind it, which may be another backslash.
-/

namespace LiveTex.Name

/-- The text without its escapes: without every backslash that begins one and the character it escapes. -/
def unescaped : Text → Text
  | [] => []
  | c :: t =>
    if c = '\\' then
      match t with
      | [] => []
      | _ :: t => unescaped t
    else c :: unescaped t

/-- The last character is a backslash that escapes what comes behind the text. -/
def endsInEscape : Text → Bool
  | [] => false
  | c :: t =>
    if c = '\\' then
      match t with
      | [] => true
      | _ :: t => endsInEscape t
    else endsInEscape t

section

variable {c : Char} {t : Text}

@[simp] theorem unescaped_nil : unescaped [] = [] := rfl

@[simp] theorem unescaped_escape (c : Char) (t : Text) : unescaped ('\\' :: c :: t) = unescaped t := rfl

theorem unescaped_cons (hc : c ≠ '\\') (t : Text) : unescaped (c :: t) = c :: unescaped t := by
  rw [unescaped.eq_def]
  exact if_neg hc

@[simp] theorem endsInEscape_nil : endsInEscape [] = false := rfl

@[simp] theorem endsInEscape_escape (c : Char) (t : Text) : endsInEscape ('\\' :: c :: t) = endsInEscape t := rfl

theorem endsInEscape_cons (hc : c ≠ '\\') (t : Text) : endsInEscape (c :: t) = endsInEscape t := by
  rw [endsInEscape.eq_def]
  exact if_neg hc

theorem not_mem_unescaped (t : Text) : '\\' ∉ unescaped t := by
  induction t using unescaped.induct with
  | case1 | case2 => simp [unescaped]
  | case3 _ t ih => simpa using ih
  | case4 c t hc ih =>
    rw [unescaped_cons hc]
    simpa using ⟨Ne.symm hc, ih⟩

theorem unescaped_eq_self (h : '\\' ∉ t) : unescaped t = t := by
  induction t with
  | nil => rfl
  | cons c t ih =>
    rw [List.mem_cons, not_or] at h
    rw [unescaped_cons (Ne.symm h.1), ih h.2]

theorem endsInEscape_eq_false (h : '\\' ∉ t) : endsInEscape t = false := by
  induction t with
  | nil => rfl
  | cons c t ih =>
    rw [List.mem_cons, not_or] at h
    rw [endsInEscape_cons (Ne.symm h.1), ih h.2]

theorem unescaped_append {s : Text} (h : endsInEscape s = false) (t : Text) :
    unescaped (s ++ t) = unescaped s ++ unescaped t := by
  induction s using unescaped.induct with
  | case1 => rfl
  | case2 => cases h
  | case3 c s ih => simpa using ih h
  | case4 c s hc ih =>
    rw [endsInEscape_cons hc] at h
    rw [List.cons_append, unescaped_cons hc, unescaped_cons hc, ih h, List.cons_append]

/-- Behind a character that is no backslash no escape is open, whatever stands in front of it. -/
theorem exists_unescaped_append_cons (hc : c ≠ '\\') (s t : Text) :
    ∃ front, unescaped (s ++ c :: t) = front ++ unescaped t := by
  induction s using unescaped.induct with
  | case1 => exact ⟨[c], unescaped_cons hc t⟩
  | case2 => exact ⟨[], rfl⟩
  | case3 d s ih => simpa using ih
  | case4 d s hd ih =>
    obtain ⟨front, hfront⟩ := ih
    exact ⟨d :: front, by rw [List.cons_append, unescaped_cons hd, hfront]; rfl⟩

end

end LiveTex.Name

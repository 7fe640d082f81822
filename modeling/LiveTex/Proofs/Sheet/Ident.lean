import LiveTex.Proofs.Name.Runs
import LiveTex.Sheet.Ident

/-!
Identifiers are letters, and running numbers make them different.
-/

namespace LiveTex.Ident

open Name (AllLetters)

theorem letters_ne_nil (n : Nat) : letters n ≠ [] := by
  rw [letters]
  split <;> simp

theorem toNat_letter {digit : Nat} (h : digit < 26) : (letter digit).toNat = 97 + digit := by
  have hvalid : ('a'.toNat + digit).isValidChar := .inl (by simp; omega)
  rw [letter, Char.ofNat, dif_pos hvalid]
  rfl

theorem isAlpha_letter {digit : Nat} (h : digit < 26) : (letter digit).isAlpha = true := by
  have hnat := toNat_letter h
  unfold Char.isAlpha Char.isLower
  simp [UInt32.le_iff_toNat_le]
  omega

theorem allLetters_letters (n : Nat) : AllLetters (letters n) := by
  induction n using Nat.strongRecOn with
  | ind n ih =>
    intro c hc
    rw [letters] at hc
    split at hc
    · next hlt =>
      rw [List.mem_singleton.mp hc]
      exact isAlpha_letter hlt
    · next hlt =>
      obtain hc | hc := List.mem_append.mp hc
      · exact ih (n / 26) (by omega) c hc
      · rw [List.mem_singleton.mp hc]
        exact isAlpha_letter (Nat.mod_lt n (by omega))

/-- The number that letters spell in base 26. -/
def number (t : Text) : Nat := t.foldl (fun n c => 26 * n + (c.toNat - 97)) 0

theorem number_letters (n : Nat) : number (letters n) = n := by
  induction n using Nat.strongRecOn with
  | ind n ih =>
    rw [letters]
    split
    · next hlt => simp [number, toNat_letter hlt]
    · next hlt =>
      have hrest := ih (n / 26) (by omega)
      have hdigit := toNat_letter (Nat.mod_lt n (by omega : 26 > 0))
      rw [number] at hrest ⊢
      rw [List.foldl_append, hrest, List.foldl_cons, List.foldl_nil, hdigit]
      omega

theorem letters_injective {m n : Nat} (h : letters m = letters n) : m = n := by
  rw [← number_letters m, h, number_letters]

/-- Two identifiers with one stem are equal only if their numbers are. -/
theorem numbered_injective {stem : Text} {m n : Nat} (h : numbered stem m = numbered stem n) : m = n :=
  letters_injective (List.append_cancel_left h)

theorem numbered_ne_nil (stem : Text) (n : Nat) : numbered stem n ≠ [] := by
  simp [numbered, letters_ne_nil]

theorem allLetters_numbered {stem : Text} (hstem : AllLetters stem) (n : Nat) : AllLetters (numbered stem n) := by
  intro c hc
  obtain hc | hc := List.mem_append.mp hc
  · exact hstem c hc
  · exact allLetters_letters n c hc

end LiveTex.Ident

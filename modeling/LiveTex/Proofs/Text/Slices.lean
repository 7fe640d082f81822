import LiveTex.Text.Basic

/-!
Slices. A text is cut at byte offsets. An offset inside a character or behind the end of the text cuts nothing, so a
slice that exists lies between two characters.
-/

namespace LiveTex.Text

/-- The text in front of a byte offset and the text behind it. -/
def splitAt? : Text → (offset : Nat) → Option (Text × Text)
  | t, 0 => some ([], t)
  | [], _ + 1 => none
  | c :: t, offset + 1 =>
    if c.utf8Size ≤ offset + 1 then
      (splitAt? t (offset + 1 - c.utf8Size)).map fun (front, rest) => (c :: front, rest)
    else none

/-- The piece of a text from byte `start` up to byte `stop`. -/
def slice? (t : Text) (start stop : Nat) : Option Text :=
  match splitAt? t start with
  | none => none
  | some (_, rest) => if start ≤ stop then (splitAt? rest (stop - start)).map (·.1) else none

theorem bytes_eq_zero_iff {t : Text} : bytes t = 0 ↔ t = [] := by
  cases t with
  | nil => simp
  | cons c t =>
    have hpos := c.utf8Size_pos
    simp only [bytes_cons, reduceCtorEq, iff_false]
    omega

theorem splitAt?_eq_some_iff {t front rest : Text} {offset : Nat} :
    splitAt? t offset = some (front, rest) ↔ t = front ++ rest ∧ offset = bytes front := by
  fun_induction splitAt? t offset generalizing front with
  | case1 t =>
    constructor
    · intro h
      cases h
      exact ⟨rfl, rfl⟩
    · rintro ⟨rfl, hoffset⟩
      rw [bytes_eq_zero_iff.mp hoffset.symm]
      rfl
  | case2 offset =>
    constructor
    · intro h
      cases h
    · rintro ⟨h, hoffset⟩
      rw [(List.append_eq_nil_iff.mp h.symm).1] at hoffset
      cases hoffset
  | case3 c t offset hfits ih =>
    rw [Option.map_eq_some_iff]
    constructor
    · rintro ⟨⟨front, rest⟩, hfront, hpair⟩
      cases hpair
      obtain ⟨rfl, hoffset⟩ := ih.mp hfront
      refine ⟨rfl, ?_⟩
      rw [bytes_cons]
      omega
    · rintro ⟨h, hoffset⟩
      cases front with
      | nil => cases hoffset
      | cons d front =>
        obtain ⟨rfl, rfl⟩ := List.cons.inj h
        rw [bytes_cons] at hoffset
        exact ⟨(front, rest), ih.mpr ⟨rfl, by omega⟩, rfl⟩
  | case4 c t offset hfits =>
    constructor
    · intro h
      cases h
    · rintro ⟨h, hoffset⟩
      cases front with
      | nil => cases hoffset
      | cons d front =>
        obtain ⟨rfl, rfl⟩ := List.cons.inj h
        rw [bytes_cons] at hoffset
        omega

theorem slice?_eq_some_iff {t piece : Text} {start stop : Nat} : slice? t start stop = some piece ↔
    ∃ front back, t = front ++ piece ++ back ∧ start = bytes front ∧ stop = start + bytes piece := by
  unfold slice?
  constructor
  · intro h
    split at h
    · cases h
    · next front rest hfront =>
      obtain ⟨rfl, hstart⟩ := splitAt?_eq_some_iff.mp hfront
      split at h
      · next hle =>
        obtain ⟨⟨found, back⟩, hpiece, (rfl : found = piece)⟩ := Option.map_eq_some_iff.mp h
        obtain ⟨rfl, hlength⟩ := splitAt?_eq_some_iff.mp hpiece
        exact ⟨front, back, by simp, hstart, by omega⟩
      · cases h
  · rintro ⟨front, back, rfl, rfl, rfl⟩
    have hfront : splitAt? (front ++ piece ++ back) (bytes front) = some (front, piece ++ back) :=
      splitAt?_eq_some_iff.mpr ⟨by simp, rfl⟩
    have hpiece : splitAt? (piece ++ back) (bytes front + bytes piece - bytes front) = some (piece, back) :=
      splitAt?_eq_some_iff.mpr ⟨rfl, by omega⟩
    simp only [hfront, hpiece, Nat.le_add_right, ↓reduceIte, Option.map_some]

/-- Two ways to cut a text at the same byte are one. -/
theorem append_inj_of_bytes {s t s' t' : Text} (h : s ++ t = s' ++ t') (hbytes : bytes s = bytes s') :
    s = s' ∧ t = t' := by
  have hcut : splitAt? (s ++ t) (bytes s) = some (s, t) := splitAt?_eq_some_iff.mpr ⟨rfl, rfl⟩
  have hcut' : splitAt? (s ++ t) (bytes s) = some (s', t') := splitAt?_eq_some_iff.mpr ⟨h, hbytes⟩
  exact Prod.mk.inj (Option.some.inj (hcut.symm.trans hcut'))

/-- A text that is cut further on begins with what is in front of the first cut. -/
theorem exists_append_of_bytes_le {s t s' t' : Text} (h : s ++ t = s' ++ t') (hbytes : bytes s ≤ bytes s') :
    ∃ u, s' = s ++ u ∧ t = u ++ t' := by
  obtain ⟨u, hs, ht⟩ | ⟨u, hs, ht⟩ := List.append_eq_append_iff.mp h
  · exact ⟨u, hs, ht⟩
  · rw [hs, bytes_append] at hbytes
    obtain rfl := bytes_eq_zero_iff.mp (show bytes u = 0 by omega)
    exact ⟨[], by simpa using hs.symm, by simpa using ht.symm⟩

/-- A piece of a text is the slice between the bytes in front of it and its own. -/
theorem slice?_append (front piece back : Text) :
    slice? (front ++ piece ++ back) (bytes front) (bytes front + bytes piece) = some piece :=
  slice?_eq_some_iff.mpr ⟨front, back, rfl, rfl, rfl⟩

end LiveTex.Text

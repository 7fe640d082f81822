import LiveTex.Proofs.Text.Blank

/-!
Texts that are cut at separators: at the first one, at the last one, or at all of them; and pieces that are joined.
-/

namespace LiveTex.Text

variable {separator : Char} {s t last : Text}

/-! The first separator. -/

theorem cutAt_append_cons {p : Char → Bool} {front rest : Text} {c : Char} (hfront : ∀ d ∈ front, p d = false) (hc : p c = true) :
    cutAt p (front ++ c :: rest) = some (front, rest) := by
  induction front with
  | nil => simp [cutAt, hc]
  | cons d front ih =>
    obtain ⟨hd, hfront⟩ := List.forall_mem_cons.mp hfront
    simp [cutAt, hd, ih hfront]

theorem cutAt_eq_none {p : Char → Bool} (ht : ∀ d ∈ t, p d = false) : cutAt p t = none := by
  induction t with
  | nil => rfl
  | cons d t ih =>
    obtain ⟨hd, ht⟩ := List.forall_mem_cons.mp ht
    simp [cutAt, hd, ih ht]

/-! All separators. -/

theorem pieces_ne_nil (separator : Char) (t : Text) : pieces separator t ≠ [] := by
  unfold pieces
  split
  · simp
  · split
    · simp
    · split <;> simp

/-- At a separator the pieces fall into two parts. -/
theorem pieces_append_cons (separator : Char) (s t : Text) :
    pieces separator (s ++ separator :: t) = pieces separator s ++ pieces separator t := by
  induction s with
  | nil => simp [pieces]
  | cons c s ih =>
    by_cases hc : c = separator
    · simp [pieces, hc, ih]
    · obtain ⟨piece, rest, hs⟩ := List.exists_cons_of_ne_nil (pieces_ne_nil separator s)
      simp [pieces, hc, ih, hs]

theorem pieces_eq_singleton (ht : separator ∉ t) : pieces separator t = [t] := by
  induction t with
  | nil => rfl
  | cons c t ih =>
    rw [pieces, if_neg (by rintro rfl; exact ht (.head _)), ih fun hmem => ht (.tail _ hmem)]

/-! The last separator. -/

/-- What stands behind the last separator, or the whole text when there is none. -/
def LastPiece (separator : Char) (last t : Text) : Prop :=
  separator ∉ last ∧ (t = last ∨ ∃ s, t = s ++ separator :: last)

theorem exists_lastPiece (separator : Char) (t : Text) : ∃ last, LastPiece separator last t := by
  induction t with
  | nil => exact ⟨[], by simp, .inl rfl⟩
  | cons c t ih =>
    obtain ⟨last, hlast, rfl | ⟨s, rfl⟩⟩ := ih
    · by_cases hc : c = separator
      · exact ⟨t, hlast, .inr ⟨[], by rw [hc]; rfl⟩⟩
      · exact ⟨c :: t, by simp [hlast, Ne.symm hc], .inl rfl⟩
    · exact ⟨last, hlast, .inr ⟨c :: s, rfl⟩⟩

namespace LastPiece

theorem getLast?_pieces (h : LastPiece separator last t) : (pieces separator t).getLast? = some last := by
  obtain ⟨hlast, rfl | ⟨s, rfl⟩⟩ := h
  · rw [pieces_eq_singleton hlast]
    rfl
  · rw [pieces_append_cons, pieces_eq_singleton hlast, List.getLast?_concat]

theorem append (h : LastPiece separator last t) (hs : separator ∉ s) : LastPiece separator (last ++ s) (t ++ s) := by
  obtain ⟨hlast, rfl | ⟨front, rfl⟩⟩ := h
  · exact ⟨by simp [hlast, hs], .inl rfl⟩
  · exact ⟨by simp [hlast, hs], .inr ⟨front, by simp⟩⟩

/-- Blanks in front of a text are at most in front of its last piece. -/
theorem exists_of_trimStart (h : LastPiece separator last t) (hseparator : isBlank separator = false) :
    ∃ last', LastPiece separator last' (trimStart t) ∧ trim last' = trim last := by
  obtain ⟨hlast, rfl | ⟨s, rfl⟩⟩ := h
  · exact ⟨trimStart t, ⟨fun hmem => hlast ((List.dropWhile_suffix _).subset hmem), .inl rfl⟩, trim_trimStart t⟩
  · exact ⟨last, ⟨hlast, .inr ⟨trimStart s, trimStart_append_cons hseparator s last⟩⟩, rfl⟩

theorem ne_nil (h : LastPiece separator last t) (ht : t ≠ []) (hseparator : t.getLast? ≠ some separator) : last ≠ [] := by
  rintro rfl
  obtain ⟨-, rfl | ⟨s, rfl⟩⟩ := h
  · exact ht rfl
  · exact hseparator (by simp)

end LastPiece

/-! Joined pieces. -/

theorem join_cons_cons (mark p q : Text) (rest : List Text) :
    join mark (p :: q :: rest) = p ++ mark ++ join mark (q :: rest) := rfl

theorem join_concat (mark : Text) {front : List Text} (hfront : front ≠ []) (s : Text) :
    join mark (front ++ [s]) = join mark front ++ mark ++ s := by
  induction front with
  | nil => exact absurd rfl hfront
  | cons p front ih =>
    cases front with
    | nil => rfl
    | cons q front =>
      have hmore := ih (List.cons_ne_nil q front)
      rw [List.cons_append] at hmore
      rw [List.cons_append, List.cons_append, join_cons_cons, hmore, join_cons_cons]
      simp

theorem lastPiece_join {p : Text} (hp : separator ∉ p) (front : List Text) :
    LastPiece separator p (join [separator] (front ++ [p])) := by
  refine ⟨hp, ?_⟩
  by_cases hfront : front = []
  · exact .inl (by rw [hfront]; rfl)
  · exact .inr ⟨join [separator] front, by rw [join_concat _ hfront]; simp⟩

end LiveTex.Text

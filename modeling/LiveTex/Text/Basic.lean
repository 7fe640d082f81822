/-!
Text is a list of characters. Offsets into a text count the bytes of its UTF-8 form, so the length
that positions are measured in is `Text.bytes`, not the number of characters.
-/

namespace LiveTex

/-- Text as the list of its characters. -/
abbrev Text := List Char

namespace Text

/-- The number of bytes of the UTF-8 form. -/
def bytes : Text → Nat
  | [] => 0
  | c :: t => c.utf8Size + bytes t

@[simp] theorem bytes_nil : bytes [] = 0 := rfl

@[simp] theorem bytes_cons (c : Char) (t : Text) : bytes (c :: t) = c.utf8Size + bytes t := rfl

@[simp] theorem bytes_append (s t : Text) : bytes (s ++ t) = bytes s + bytes t := by
  induction s with
  | nil => simp
  | cons c s ih => simp [ih, Nat.add_assoc]

/-- What follows `front`, when the text starts with it. -/
def after? : (front t : Text) → Option Text
  | [], t => some t
  | _ :: _, [] => none
  | f :: front, c :: t => if f = c then after? front t else none

theorem after?_eq_some_iff {front t rest : Text} : after? front t = some rest ↔ t = front ++ rest := by
  induction front generalizing t with
  | nil => simp [after?, eq_comm]
  | cons f front ih =>
    cases t with
    | nil => simp [after?]
    | cons c t =>
      by_cases h : f = c
      · simp [after?, h, ih]
      · simp [after?, h, Ne.symm h]

theorem length_lt_of_after? {front t rest : Text} (h : after? front t = some rest)
    (hfront : front ≠ []) : rest.length < t.length := by
  have hlength := congrArg List.length (after?_eq_some_iff.mp h)
  have := List.length_pos_iff.mpr hfront
  simp only [List.length_append] at hlength
  omega

/-- The text before and after the first character that satisfies `p`, which is dropped. -/
def cutAt (p : Char → Bool) : Text → Option (Text × Text)
  | [] => none
  | c :: t => if p c then some ([], t) else (cutAt p t).map fun (front, rest) => (c :: front, rest)

/-- The text before and after the first place where the mark stands, which is dropped. -/
def cutAround (mark : Text) : Text → Option (Text × Text)
  | [] => none
  | c :: t => match after? mark (c :: t) with
    | some rest => some ([], rest)
    | none => (cutAround mark t).map fun (front, rest) => (c :: front, rest)

/-- The pieces between the separators, in order; a text without a separator is one piece. -/
def pieces (separator : Char) : Text → List Text
  | [] => [[]]
  | c :: t =>
    if c = separator then [] :: pieces separator t
    else match pieces separator t with
      | piece :: rest => (c :: piece) :: rest
      | [] => [[c]]

/-- The pieces with the separator written between neighbours. -/
def join (separator : Text) : List Text → Text
  | [] => []
  | [piece] => piece
  | piece :: rest => piece ++ separator ++ join separator rest

end Text

end LiveTex

import LiveTex.Text.Basic

/-!
Cutting a text at the places where something occurs. The pieces in order make up the text again, so
occurrences cannot overlap and every offset lies between two characters.
-/

namespace LiveTex

/-- An occurrence, the text it follows since the one before, and the mathematics inside it. -/
structure Occurrence where
  gap : Text
  opening : Text
  latex : Text
  closing : Text
  deriving Repr, DecidableEq

/-- The occurrences in a text, and the text after the last one. -/
structure Cut where
  occurrences : List Occurrence
  rest : Text
  deriving Repr, DecidableEq

/-- The occurrence with its delimiters, as it stands in the text. -/
def Occurrence.whole (o : Occurrence) : Text := o.opening ++ o.latex ++ o.closing

/-- The text that was cut. -/
def Cut.text (c : Cut) : Text := c.occurrences.flatMap (fun o => o.gap ++ o.whole) ++ c.rest

/-- No occurrence at all. -/
def Cut.none (t : Text) : Cut := ⟨[], t⟩

/-- Puts a character in front of the text. -/
def Cut.skip (c : Char) (cut : Cut) : Cut :=
  match cut.occurrences with
  | [] => { cut with rest := c :: cut.rest }
  | o :: more => { cut with occurrences := { o with gap := c :: o.gap } :: more }

/-- Puts text in front of the text. -/
def Cut.behind (front : Text) (cut : Cut) : Cut :=
  match cut.occurrences with
  | [] => { cut with rest := front ++ cut.rest }
  | o :: more => { cut with occurrences := { o with gap := front ++ o.gap } :: more }

/-- Puts an occurrence at the front of the text. -/
def Cut.found (o : Occurrence) (cut : Cut) : Cut := { cut with occurrences := o :: cut.occurrences }

@[simp] theorem Cut.text_none (t : Text) : (Cut.none t).text = t := rfl

@[simp] theorem Cut.text_skip (c : Char) (cut : Cut) : (cut.skip c).text = c :: cut.text := by
  unfold Cut.skip Cut.text
  split <;> simp_all [Occurrence.whole]

@[simp] theorem Cut.text_behind (front : Text) (cut : Cut) :
    (cut.behind front).text = front ++ cut.text := by
  unfold Cut.behind Cut.text
  split <;> simp_all [Occurrence.whole]

@[simp] theorem Cut.text_found (o : Occurrence) (cut : Cut) :
    (cut.found o).text = o.gap ++ o.whole ++ cut.text := by
  simp [Cut.found, Cut.text]

/-- A way to cut a text at its occurrences, given the character before it. -/
abbrev Finder := (before : Option Char) → Text → Cut

end LiveTex

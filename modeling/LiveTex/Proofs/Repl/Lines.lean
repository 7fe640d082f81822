import LiveTex.Proofs.Repl.Notices

/-!
What a line does to a sheet that is written line by line: it opens a session, drops one, or leaves the sheet as it
is.
-/

namespace LiveTex

/-- The text that the line opens a session for. -/
def Line.latex? : Line → Option Text
  | .expression latex => some latex
  | _ => none

/-- The texts of the lines that open sessions. -/
def expressions (lines : List Text) : List Text := lines.filterMap fun t => (Line.read t).latex?

namespace Repl

/-- The notices that a line brings about. -/
def notices (r : Repl) : Line → List Notice
  | .expression latex => noticesFrom (r.world.act (.openSession latex true none)).1 0 (r.shown ++ [none])
  | _ => []

/-- The lines have been handled one after the other, with these notices. -/
inductive Handles (start : Repl) : List Text → List Notice → Repl → Prop where
  | refl : start.Handles [] [] start
  | line {lines : List Text} {written : List Notice} {r r' : Repl} {t out : Text} (h : start.Handles lines written r)
      (hline : r.handle (.read t) = some (r', out)) :
      start.Handles (lines ++ [t]) (written ++ r.notices (.read t)) r'

/-- What a line does to the sheet. -/
inductive Handled (r : Repl) : Line → Repl → Prop where
  | opened (latex : Text) : Handled r (.expression latex) (r.openSession latex).1
  | dropped (argument : Text) (i : Nat) (s : Session) (hnumber : sessionNumber? argument = some (i + 1))
      (hs : r.world.session? i = some s) :
      Handled r (.drop argument) { r with world := (r.world.act (.drop i)).1 }
  | kept (line : Line) (hline : line.latex? = none)
      (hdrop : ∀ argument i, line = .drop argument → sessionNumber? argument = some (i + 1) →
        r.world.session? i = none) : Handled r line r

variable {r r' : Repl} {lines : List Text} {t out : Text} {line : Line}

theorem handled_of_handle (h : r.handle line = some (r', out)) : r.Handled line r' := by
  cases line with
  | quit => cases h
  | blank | listVariables | unknown =>
    cases h
    exact .kept _ rfl nofun
  | expression latex =>
    cases h
    exact .opened latex
  | drop argument =>
    simp only [handle, drop, Option.some.injEq] at h
    split at h
    · next hnone =>
      cases h
      refine .kept _ rfl ?_
      rintro _ i ⟨⟩ hnumber
      rw [hnone] at hnumber
      cases hnumber
    · next n hnumber =>
      split at h
      · next habsent =>
        cases h
        refine .kept _ rfl ?_
        rintro _ i ⟨⟩ hnumber'
        obtain rfl := Option.some.inj (hnumber.symm.trans hnumber')
        simpa using habsent
      · next s hs =>
        cases h
        cases n with
        | zero => cases hs
        | succ i => exact .dropped argument i s hnumber (by simpa using hs)

/-- Only a line that opens a session brings about notices. -/
theorem notices_eq_nil (h : line.latex? = none) : r.notices line = [] := by
  cases line with
  | expression => cases h
  | _ => rfl

theorem expressions_append (lines : List Text) (t : Text) :
    expressions (lines ++ [t]) = expressions lines ++ (Line.read t).latex?.toList := by
  rw [expressions, List.filterMap_append]
  cases hlatex : (Line.read t).latex? <;> simp [expressions, hlatex]

theorem expressions_append_of_none (lines : List Text) (h : (Line.read t).latex? = none) :
    expressions (lines ++ [t]) = expressions lines := by
  rw [expressions_append, h, Option.toList_none, List.append_nil]

end Repl

end LiveTex

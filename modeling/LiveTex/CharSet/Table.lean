import LiveTex.CharSet.Basic
import LiveTex.Text.Hexadecimal

/-!
Tables of sets of characters, written as rows of words. A table of one set has its ranges. A table of
many sets cuts the code points from the first one to the last one into runs that are labelled, and the
characters of a set are those whose label is wanted.
-/

namespace LiveTex

/-- The words of a row, which single blanks keep apart. -/
def Text.words (row : String) : List Text := Text.pieces ' ' row.toList

namespace CharSet

/-- A range is written as its first and last code points in hexadecimal, a single code point as itself. -/
def rangeOfWord (word : Text) : Option (Nat × Nat) :=
  match word.cutAt (· == '-') with
  | some (low, high) => do return (← Text.hexValue? low, ← Text.hexValue? high)
  | .none => (Text.hexValue? word).map fun n => (n, n)

def ofRows (rows : List String) : CharSet := ofRanges ((rows.flatMap Text.words).filterMap rangeOfWord)

end CharSet

/-- A code point and how many more behind it share its label. -/
structure Run where
  label : Text
  more : Nat
  deriving Repr, DecidableEq

/-- A division of the code points into runs. -/
abbrev Partition := List Run

/-- A run is written as its label, with a colon and a number in hexadecimal for the code points behind
the first. -/
def Run.ofWord (word : Text) : Run :=
  match word.cutAt (· == ':') with
  | some (label, more) => ⟨label, (Text.hexValue? more).getD 0⟩
  | none => ⟨word, 0⟩

namespace Partition

def ofRows (rows : List String) : Partition := (rows.flatMap Text.words).map Run.ofWord

/-- The label of a code point. -/
def label? : Partition → Nat → Option Text
  | [], _ => none
  | r :: rest, n => if n ≤ r.more then some r.label else label? rest (n - (r.more + 1))

/-- The ranges of code points with a wanted label, where the first run begins at `next`. -/
def ranges (wanted : Text → Bool) (next : Nat) : Partition → List (Nat × Nat)
  | [] => []
  | r :: rest =>
    let later := ranges wanted (next + r.more + 1) rest
    if wanted r.label then (next, next + r.more) :: later else later

/-- The characters with a wanted label. -/
def select (p : Partition) (wanted : Text → Bool) : CharSet := .ofRanges (p.ranges wanted 0)

theorem covers_ranges (p : Partition) (wanted : Text → Bool) (next n : Nat) :
    CharSet.covers (p.ranges wanted next) n =
      (decide (next ≤ n) && (p.label? (n - next)).any wanted) := by
  induction p generalizing next with
  | nil => simp [ranges, label?]
  | cons r rest ih =>
    have htail := ih (next + r.more + 1)
    by_cases hn : next ≤ n
    · by_cases hrun : n - next ≤ r.more
      · have hlater : ¬ next + r.more + 1 ≤ n := by omega
        have hin : n ≤ next + r.more := by omega
        by_cases hw : wanted r.label <;> simp [ranges, label?, htail, hn, hrun, hlater, hin, hw]
      · have hlater : next + r.more + 1 ≤ n := by omega
        have hin : ¬ n ≤ next + r.more := by omega
        have hsub : n - next - (r.more + 1) = n - (next + r.more + 1) := by omega
        by_cases hw : wanted r.label <;>
          simp [ranges, label?, htail, hn, hrun, hlater, hin, hw, hsub]
    · have hlater : ¬ next + r.more + 1 ≤ n := by omega
      by_cases hw : wanted r.label <;> simp [ranges, htail, hn, hlater, hw]

/-- A character is selected exactly when its label is wanted. -/
@[simp] theorem has_select (p : Partition) (wanted : Text → Bool) (c : Char) :
    (p.select wanted).has c = (p.label? c.toNat).any wanted := by
  change CharSet.covers (CharSet.arrange (p.ranges wanted 0)) c.toNat = _
  rw [CharSet.covers_arrange, covers_ranges]
  simp

end Partition

end LiveTex

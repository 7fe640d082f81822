import LiveTex.CharSet.Basic
import LiveTex.Pattern.Fault
import LiveTex.Pattern.Syntax
import LiveTex.Text.Blank
import LiveTex.Text.Case
import LiveTex.Text.Word

/-!
Flags that change how a pattern is read: what its characters and classes stand for, and whether blanks
and comments in it mean something.
-/

namespace LiveTex.Pattern

/-- The flags in force at a place in a pattern. -/
structure Flags where
  caseless : Bool
  multiline : Bool
  dotAll : Bool
  swapGreed : Bool
  unicode : Bool
  carriage : Bool
  /-- Blanks and comments in the pattern mean nothing. -/
  verbose : Bool
  deriving Repr, DecidableEq

namespace Flags

def standard : Flags := ⟨false, false, false, false, true, false, false⟩

/-- Turns the flag that a letter names on or off. -/
def set? (flags : Flags) (letter : Char) (on : Bool) : Option Flags :=
  match letter with
  | 'i' => some { flags with caseless := on }
  | 'm' => some { flags with multiline := on }
  | 's' => some { flags with dotAll := on }
  | 'U' => some { flags with swapGreed := on }
  | 'u' => some { flags with unicode := on }
  | 'R' => some { flags with carriage := on }
  | 'x' => some { flags with verbose := on }
  | _ => none

/-- The text after blanks and comments, which run from `#` to the end of the line. -/
def afterComments (inComment : Bool) : Text → Text
  | [] => []
  | c :: t =>
    if inComment then afterComments (c != '\n') t
    else if Text.isBlank c then afterComments false t
    else if c = '#' then afterComments true t
    else c :: t

theorem length_afterComments_le (inComment : Bool) (t : Text) :
    (afterComments inComment t).length ≤ t.length := by
  fun_induction afterComments inComment t <;> simp_all <;> omega

/-- The text from the next character that means something. -/
def skip (flags : Flags) (t : Text) : Text := if flags.verbose then afterComments false t else t

theorem length_skip_le (flags : Flags) (t : Text) : (flags.skip t).length ≤ t.length := by
  unfold skip
  split
  · exact length_afterComments_le false t
  · exact Nat.le_refl _

/-- The characters up to a closing one, without blanks and comments, and the text behind it. -/
def cutBetween (stop : Char) (inComment : Bool) : Text → Option (Text × Text)
  | [] => none
  | c :: t =>
    if inComment then cutBetween stop (c != '\n') t
    else if Text.isBlank c then cutBetween stop false t
    else if c = '#' then cutBetween stop true t
    else if c = stop then some ([], t)
    else (cutBetween stop false t).map fun (front, rest) => (c :: front, rest)

/-- What means something up to a closing character, and the text behind that one. -/
def cutAt (flags : Flags) (stop : Char) (t : Text) : Option (Text × Text) :=
  if flags.verbose then cutBetween stop false t else t.cutAt (· == stop)

/-- The next character that is not blank. In a comment it is the first one of the comment. -/
def glance (inComment : Bool) : Text → Option Char
  | [] => none
  | c :: t =>
    if Text.isBlank c then glance inComment t
    else if !inComment && c == '#' then glance true t
    else some c

/-- The character that decides whether the hyphen before the text makes a range. -/
def afterHyphen (flags : Flags) (t : Text) : Option Char :=
  if flags.verbose then (glance false t).or t.head? else t.head?

/-- A set with the other cases of its members, when case does not matter. -/
def fold (flags : Flags) (s : CharSet) : CharSet :=
  if !flags.caseless then s else if flags.unicode then s.caseless else s.asciiCaseless

/-- A set under the flags, negated or not. Without Unicode no set reaches beyond ASCII. -/
def close (flags : Flags) (negated : Bool) (s : CharSet) : Except Fault CharSet :=
  let s := flags.fold s
  if !negated then .ok s else if flags.unicode then .ok s.compl else .error .beyondAscii

/-- The word characters. -/
def word (flags : Flags) : CharSet :=
  if flags.unicode then Text.wordChars else Text.wordChars ∩ .ascii

/-- What the dot matches. -/
def dot (flags : Flags) : Except Fault CharSet :=
  if !flags.unicode then .error .beyondAscii
  else if flags.dotAll then .ok .all
  else if flags.carriage then .ok (CharSet.single '\n' ∪ CharSet.single '\r').compl
  else .ok (CharSet.single '\n').compl

def lineEnds (flags : Flags) : LineEnd := if flags.carriage then .carriage else .newline

/-- What a circumflex tests. -/
def start (flags : Flags) : Anchor := if flags.multiline then .lineStart flags.lineEnds else .textStart

/-- What a dollar sign tests. -/
def finish (flags : Flags) : Anchor := if flags.multiline then .lineEnd flags.lineEnds else .textEnd

end Flags

end LiveTex.Pattern

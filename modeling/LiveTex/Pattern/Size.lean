import LiveTex.CharSet.Bytes
import LiveTex.Pattern.Syntax

/-!
How large a pattern is when it is written out as an automaton over bytes, in which every round of a
counted repetition has states of its own. A pattern is refused when the automaton for it, or the one that
reads backwards and remembers no groups, is larger than a limit.
-/

namespace LiveTex.Pattern

/-- Which way an automaton reads. -/
inductive Direction where
  | forward
  | backward
  deriving Repr, DecidableEq

/-- The size of a state, what belongs to its kind aside. -/
def stateSize : Nat := 32

/-- The size of a state that chooses between ranges of bytes. -/
def rangesSize (count : Nat) : Nat := stateSize + 8 * count

/-- The size of a state that goes on in several ways. -/
def forkSize (ways : Nat) : Nat := stateSize + 4 * ways

/-- The sizes of several states together. -/
def total (sizes : List Nat) : Nat := sizes.foldl (· + ·) 0

/-- The largest size. -/
def largestSize : Nat := 10 * 1024 * 1024

/-- Neighbours with the same first element, and what follows it in each. -/
def byHead {α : Type} [DecidableEq α] : List (List α) → List (α × List (List α))
  | [] => []
  | [] :: rest => byHead rest
  | (a :: tail) :: rest => match byHead rest with
    | (b, tails) :: more =>
      if a = b then (a, tail :: tails) :: more else (a, [tail]) :: (b, tails) :: more
    | [] => [(a, [tail])]

/-- What may be left of some sequences up to a number of steps into them, before the end of any. -/
def remainders {α : Type} [DecidableEq α] : (steps : Nat) → List (List α) → List (List (List α))
  | 0, _ => []
  | steps + 1, sequences =>
    if sequences.all (·.isEmpty) then []
    else sequences :: (byHead sequences).flatMap fun (_, tails) => remainders steps tails

/-- How many states the sequences need when each one shares those of the one before as far as both begin
alike. -/
def sharedStates {α : Type} [DecidableEq α] (before : List α) : List (List α) → Nat
  | [] => 0
  | s :: rest =>
    let shared := ((before.zip s).takeWhile fun (a, b) => a = b).length
    s.length - shared + sharedStates s rest

/-- The size of a set. Forwards, sequences of bytes share all they can. Backwards they share their first
bytes only, the ones that are read last. -/
def setSize (direction : Direction) (s : CharSet) : Nat :=
  match s.single? with
  | some c => stateSize * (CharSet.encode c.toNat).length
  | none =>
    if (s \ .ascii).ranges.isEmpty then stateSize + rangesSize s.ranges.length
    else
      let sequences := s.byteRanges
      match direction with
      | .forward =>
        let states := (remainders 4 sequences).eraseDups
        stateSize + total (states.map fun rest => rangesSize (byHead rest).length)
      | .backward =>
        forkSize sequences.length + stateSize + stateSize * sharedStates [] sequences

/-- The bytes of a pattern that is a sequence of characters. -/
def bytes? : Pattern → Option (List Nat)
  | .char s => s.single?.map fun c => CharSet.encode c.toNat
  | .seq p q => do return (← p.bytes?) ++ (← q.bytes?)
  | _ => none

/-- The parts between words that are empty. An empty word before any other counts once. -/
def chunks : List (List Nat) → List (List (List Nat))
  | [] => [[]]
  | [] :: rest => [] :: chunks rest
  | w :: rest => match chunks rest with
    | first :: more => (w :: first) :: more
    | [] => [[w]]

/-- Words with the same first byte put together, in the order of their first bytes. -/
def branches (words : List (List Nat)) : List (List (List Nat)) :=
  ((words.filterMap (·.head?)).eraseDups).map fun b =>
    (words.filter (·.head? == some b)).map (·.drop 1)

/-- The size of a tree of words, which share their beginnings. A word that ends where others go on cuts
those before it from those behind. The fuel is a bound on the length of the words. -/
def treeSize : (fuel : Nat) → List (List Nat) → Nat
  | 0, _ => 0
  | fuel + 1, words =>
    let words := match words.takeWhile (·.isEmpty) with
      | [] => words
      | _ :: more => words.drop more.length
    let parts := chunks words
    let states := parts.map fun part =>
      let next := branches part
      let inner := total (next.map fun tails =>
        if tails.all (·.isEmpty) then 0 else treeSize fuel tails)
      match next.length with
      | 0 => 0
      | 1 => stateSize + inner
      | count => rangesSize count + inner
    forkSize ((parts.filter (!·.isEmpty)).length + (parts.length - 1)) + total states

/-- The size of alternatives, given the sizes of all of them. -/
def optionsSize (direction : Direction) (options : List Pattern) (sizes : Nat) : Nat :=
  match options.mapM bytes? with
  | some words =>
    let words := match direction with
      | .forward => words
      | .backward => words.map List.reverse
    stateSize + treeSize ((words.map (·.length)).foldl max 0 + 1) words
  | none => forkSize options.length + stateSize + sizes

/-- The size of a repetition, given that of one round. -/
def roundsSize (nullable : Bool) (round least : Nat) : Option Nat → Nat
  | none =>
    if least = 0 then
      if nullable then round + forkSize 2 + forkSize 2 + stateSize else forkSize 2 + round
    else least * round + forkSize 2
  | some most =>
    if least = 0 ∧ most = 1 then forkSize 2 + round + stateSize
    else if least = most then least * round
    else
      (if least = 0 then stateSize else least * round) + stateSize +
        (most - least) * (forkSize 2 + round)

/-- The size of a pattern, alone or as the options that it adds to an alternative around it. -/
def size (direction : Direction) : (isOption : Bool) → Pattern → Nat
  | _, .empty | _, .anchor _ => stateSize
  | _, .char s => setSize direction s
  | _, .seq p q => p.size direction false + q.size direction false
  | isOption, .alt p q =>
    let sizes := p.size direction true + q.size direction true
    if isOption then sizes else optionsSize direction (alternatives (.alt p q)) sizes
  | _, .repeated p least most _ => roundsSize p.nullable (p.size direction false) least most
  | _, .group _ p => match direction with
    | .forward => p.size direction false + 2 * stateSize
    | .backward => p.size direction false
termination_by structural _ p => p

/-- Whether every match starts where the text does. -/
def startsText : Pattern → Bool
  | .anchor .textStart => true
  | .seq p q => p.startsText || p.weightless && q.startsText
  | .alt p q => p.startsText && q.startsText
  | .repeated p least _ _ => 0 < least && p.startsText
  | .group _ p => p.startsText
  | _ => false

/-- Whether every match ends where the text does. -/
def endsText : Pattern → Bool
  | .anchor .textEnd => true
  | .seq p q => q.endsText || q.weightless && p.endsText
  | .alt p q => p.endsText && q.endsText
  | .repeated p least _ _ => 0 < least && p.endsText
  | .group _ p => p.endsText
  | _ => false

/-- The size of what finds the start of a match, when it can be anywhere. -/
def approachSize (fixed : Bool) : Nat :=
  if fixed then stateSize else forkSize 2 + rangesSize 1 + stateSize

/-- Whether both automata keep to the limit. The one that reads forwards remembers the whole match. -/
def fits (p : Pattern) : Bool :=
  approachSize p.startsText + 2 * stateSize + p.size .forward false + stateSize ≤ largestSize &&
    approachSize p.endsText + p.size .backward false + stateSize ≤ largestSize

end LiveTex.Pattern

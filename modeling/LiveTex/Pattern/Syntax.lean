import LiveTex.CharSet.Basic

/-!
Search patterns as trees. A pattern matches characters from sets, tests what stands on either side of a
position, and combines such parts in sequence, as alternatives, repeatedly and in groups.
-/

namespace LiveTex

namespace Pattern

/-- What counts as a line end. -/
inductive LineEnd where
  | newline
  /-- A newline, a carriage return, or both as one line end. -/
  | carriage
  deriving Repr, DecidableEq

/-- A condition on a position. -/
inductive Anchor where
  | textStart
  | textEnd
  | lineStart (ends : LineEnd)
  | lineEnd (ends : LineEnd)
  | wordBoundary (word : CharSet)
  | noWordBoundary (word : CharSet)
  | wordStart (word : CharSet)
  | wordEnd (word : CharSet)
  | wordStartHalf (word : CharSet)
  | wordEndHalf (word : CharSet)

/-- Whether the condition holds between two characters; one is missing at an end of the text. -/
def Anchor.holds (before after : Option Char) : Anchor → Bool
  | .textStart => before.isNone
  | .textEnd => after.isNone
  | .lineStart .newline => before.all (· == '\n')
  | .lineEnd .newline => after.all (· == '\n')
  | .lineStart .carriage => before.all (· == '\n') || before == some '\r' && after != some '\n'
  | .lineEnd .carriage => after.all (· == '\r') || after == some '\n' && before != some '\r'
  | .wordBoundary word => before.any word.has != after.any word.has
  | .noWordBoundary word => before.any word.has == after.any word.has
  | .wordStart word => !before.any word.has && after.any word.has
  | .wordEnd word => before.any word.has && !after.any word.has
  | .wordStartHalf word => !before.any word.has
  | .wordEndHalf word => !after.any word.has

end Pattern

/-- A search pattern. -/
inductive Pattern where
  | empty
  | char (set : CharSet)
  | anchor (condition : Pattern.Anchor)
  | seq (first second : Pattern)
  /-- The first alternative is preferred. -/
  | alt (first second : Pattern)
  /-- Between `least` and `most` times, without an upper limit when that is absent. A greedy repetition
  prefers more rounds, the other kind prefers fewer. -/
  | repeated (body : Pattern) (least : Nat) (most : Option Nat) (greedy : Bool)
  /-- A numbered group, whose text is remembered. -/
  | group (index : Nat) (body : Pattern)

namespace Pattern

/-- Whether the pattern can match nothing at all. -/
def nullable : Pattern → Bool
  | .empty | .anchor _ => true
  | .char _ => false
  | .seq p q => p.nullable && q.nullable
  | .alt p q => p.nullable || q.nullable
  | .repeated p least _ _ => least == 0 || p.nullable
  | .group _ p => p.nullable

/-- Whether the pattern takes no character, whatever it matches. -/
def weightless : Pattern → Bool
  | .empty | .anchor _ => true
  | .char _ => false
  | .seq p q | .alt p q => p.weightless && q.weightless
  | .repeated p _ _ _ => p.weightless
  | .group _ p => p.weightless

/-- The alternatives that a pattern leaves to choose from. -/
def alternatives : Pattern → List Pattern
  | .alt p q => p.alternatives ++ q.alternatives
  | p => [p]

/-- The set of a pattern that is one. -/
def set? : Pattern → Option CharSet
  | .char s => some s
  | _ => none

/-- One pattern and the next. Nothing beside a pattern adds nothing to it. -/
def andThen : Pattern → Pattern → Pattern
  | .empty, q => q
  | p, .empty => p
  | p, q => .seq p q

/-- Several patterns one after the other. -/
def sequence (parts : List Pattern) : Pattern := parts.foldr andThen .empty

/-- Several patterns to choose from, the first one preferred. Characters, or sets of several, make one
set. -/
def choice (options : List Pattern) : Pattern :=
  let options := options.flatMap alternatives
  let sets := options.filterMap set?
  if sets.length = options.length && (sets.all (·.single?.isSome) || sets.all (·.single?.isNone)) then
    .char (sets.foldl (· ∪ ·) .none)
  else
    match options.reverse with
    | [] => .empty
    | last :: rest => rest.foldl (fun p q => .alt q p) last

/-- A pattern a number of times. What takes no character is not worth more than one round. -/
def times (p : Pattern) (least : Nat) (most : Option Nat) (greedy : Bool) : Pattern :=
  let least := if p.weightless then min least 1 else least
  let most := if p.weightless then some (min (most.getD 1) 1) else most
  if most = some 0 then .empty
  else if least = 1 ∧ most = some 1 then p
  else .repeated p least most greedy

end Pattern

end LiveTex

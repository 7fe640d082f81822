import LiveTex.Pattern.Brackets
import LiveTex.Pattern.Size

/-!
Reading a pattern. The groups that are open wait on a stack, each with the alternatives it has so far.
-/

namespace LiveTex.Pattern

/-- A pattern that has been read, and how deeply it is nested. -/
structure Part where
  pattern : Pattern
  depth : Nat

/-- A part that is nested no deeper than allowed. -/
def Part.checked (p : Part) : Except Fault Part := if deepest < p.depth then .error .tooDeep else .ok p

/-- Several parts put together by `combine`. One part alone is not nested any deeper. -/
def Part.ofList (combine : List Pattern → Pattern) (parts : List Part) : Part :=
  ⟨combine (parts.map (·.pattern)),
    (parts.map (·.depth)).foldl max 0 + if parts.length < 2 then 0 else 1⟩

/-- A group that is being read; the whole pattern is one, too. -/
structure Scope where
  /-- The number of the group, if it has one. -/
  index : Option Nat
  /-- The flags to return to. -/
  outside : Flags
  /-- Finished alternatives, the last one first. -/
  options : List Part
  /-- The parts of the current alternative, the last one first. -/
  parts : List Part
  /-- Whether the last part is one that can be repeated, and not a change of flags. -/
  repeatable : Bool

namespace Scope

def new (index : Option Nat) (outside : Flags) : Scope := ⟨index, outside, [], [], false⟩

def add (s : Scope) (p : Part) : Scope := { s with parts := p :: s.parts, repeatable := true }

/-- A change of flags takes a place among the parts. -/
def addFlags (s : Scope) : Scope := { s with parts := ⟨.empty, 0⟩ :: s.parts, repeatable := false }

/-- Finishes the current alternative. -/
def finish (s : Scope) : Scope :=
  { s with options := .ofList sequence s.parts.reverse :: s.options, parts := [], repeatable := false }

/-- What stands in the group. -/
def close (s : Scope) : Part := .ofList choice s.finish.options.reverse

/-- The part that the group is. -/
def group (s : Scope) : Part :=
  let body := s.close
  ⟨match s.index with
    | some index => .group index body.pattern
    | none => body.pattern, body.depth + 1⟩

end Scope

structure Reader where
  flags : Flags
  scope : Scope
  outer : List Scope
  groups : Nat
  names : List Text

namespace Reader

def start : Reader := ⟨.standard, .new none .standard, [], 0, []⟩

def add (r : Reader) (pattern : Pattern) (depth : Nat) : Reader :=
  { r with scope := r.scope.add ⟨pattern, depth⟩ }

/-- Opens a group, whose flags hold up to its end. -/
def enter (r : Reader) (index : Option Nat) (flags : Flags) : Reader :=
  { r with flags, scope := .new index r.flags, outer := r.scope :: r.outer }

def enterNumbered (r : Reader) : Reader :=
  { r.enter (some (r.groups + 1)) r.flags with groups := r.groups + 1 }

def leave (r : Reader) : Except Fault Reader :=
  match r.outer with
  | [] => .error .unopenedGroup
  | scope :: outer => do
    return { r with flags := r.scope.outside, scope := scope.add (← r.scope.group.checked), outer }

/-- Puts the last part under a repetition. A question mark behind it turns its greed around. -/
def repeatLast (r : Reader) (least : Nat) (most : Option Nat) (t : Text) :
    Except Fault (Reader × Text) :=
  match r.scope.repeatable, r.scope.parts with
  | true, p :: parts => do
    let (lazy, t) := match t with
      | '?' :: t => (true, t)
      | t => (false, t)
    let p : Part := ⟨p.pattern.times least most (lazy == r.flags.swapGreed), p.depth + 1⟩
    return ({ r with scope := { r.scope with parts := (← p.checked) :: parts } }, t)
  | _, _ => .error .nothingToRepeat

end Reader

/-- The largest count of a repetition. -/
def largestCount : Nat := UInt32.size - 1

/-- A number of rounds, with blanks on both sides. -/
def countNumber (t : Text) : Except Fault Nat :=
  let digits := Text.trim t
  if digits = [] || !digits.all Char.isDigit then .error .count
  else
    let n := digits.foldl (fun n c => 10 * n + (c.toNat - '0'.toNat)) 0
    if largestCount < n then .error .count else .ok n

/-- The counts of a repetition, from between the braces. -/
def counts (t : Text) : Except Fault (Nat × Option Nat) := do
  match t.cutAt (· == ',') with
  | none =>
    let n ← countNumber t
    return (n, some n)
  | some (least, []) => return (← countNumber least, none)
  | some (least, most) =>
    let least ← countNumber least
    let most ← countNumber most
    if least ≤ most then return (least, some most) else throw .count

/-- A character that a group's name may hold, the first one or a later one. -/
def isNameChar (isFirst : Bool) (c : Char) : Bool :=
  if isFirst then c == '_' || Property.alphabetic.has c
  else c == '_' || c == '.' || c == '[' || c == ']' || Text.alphanumeric.has c

/-- The name of a group, up to the angle bracket after it. -/
def groupName (names : List Text) (t : Text) : Except Fault (Text × Text) :=
  match Text.cutAt (· == '>') t with
  | some (first :: more, rest) =>
    if isNameChar true first && more.all (isNameChar false) && !names.contains (first :: more) then
      .ok (first :: more, rest)
    else .error .groupName
  | _ => .error .groupName

/-- Flag letters up to a closing parenthesis or a colon, each at most once, with at most one hyphen that
turns off what follows. -/
def flagLetters (flags : Flags) (seen : List Char) (on : Bool) :
    Text → Except Fault (Flags × Char × Text)
  | [] => .error .flag
  | c :: t =>
    if c = ')' || c = ':' then
      if !on && seen.head? == some '-' || c = ')' && seen == [] then .error .flag
      else .ok (flags, c, t)
    else if seen.contains c then .error .flag
    else if c = '-' then flagLetters flags (c :: seen) false t
    else match flags.set? c on with
      | some flags => flagLetters flags (c :: seen) on t
      | none => .error .flag

namespace Reader

/-- The start of a group, from behind its parenthesis. -/
def openGroup (r : Reader) (t : Text) : Except Fault (Reader × Text) := do
  let t := r.flags.skip t
  let named? := (Text.after? "?P<".toList t).orElse fun _ => Text.after? "?<".toList t
  if ["?=".toList, "?!".toList, "?<=".toList, "?<!".toList].any (·.isPrefixOf t) then throw .lookaround
  match named?, t with
  | some t, _ =>
    let (name, t) ← groupName r.names t
    return ({ r.enterNumbered with names := name :: r.names }, t)
  | none, '?' :: t =>
    let (flags, mark, t) ← flagLetters r.flags [] true t
    if mark = ':' then return (r.enter none flags, t)
    else return ({ r with flags, scope := r.scope.addFlags }, t)
  | none, t => return (r.enterNumbered, t)

/-- Adds a part that an escape or a plain character stands for. -/
def addPrimitive (r : Reader) (p : Primitive) : Except Fault Reader := do
  match p with
  | .set s => return r.add (.char s) 0
  | .anchor a => return r.add (.anchor a) 0
  | p =>
    match ← p.char? r.flags with
    | some c => return r.add (.char (r.flags.fold (.single c))) 0
    | none => throw .escape

/-- Reads the part that begins with `c`. -/
def step (r : Reader) (c : Char) (t : Text) : Except Fault (Reader × Text) :=
  match c with
  | '(' => r.openGroup t
  | ')' => r.leave.map (·, t)
  | '|' => .ok ({ r with scope := r.scope.finish }, t)
  | '[' => do
    let (c, t) ← bracketed r.flags deepest t
    return (r.add (.char c.set) c.depth, t)
  | '?' => r.repeatLast 0 (some 1) t
  | '*' => r.repeatLast 0 none t
  | '+' => r.repeatLast 1 none t
  | '{' => match r.flags.cutAt '}' t with
    | none => .error .count
    | some (inside, t) => do
      let (least, most) ← counts inside
      r.repeatLast least most (r.flags.skip t)
  | '\\' => do
    let (p, t) ← escape r.flags t
    return (← r.addPrimitive p, t)
  | '.' => do return (r.add (.char (← r.flags.dot)) 0, t)
  | '^' => .ok (r.add (.anchor r.flags.start) 0, t)
  | '$' => .ok (r.add (.anchor r.flags.finish) 0, t)
  | c => (r.addPrimitive (.char c)).map (·, t)

/-- Reads to the end. The fuel bounds the parts, each of which takes a character at least. -/
def run (r : Reader) : (fuel : Nat) → Text → Except Fault Reader
  | 0, _ => .ok r
  | fuel + 1, t => match r.flags.skip t with
    | [] => .ok r
    | c :: t => do
      let (r, t) ← r.step c t
      run r fuel t

end Reader

/-- The pattern that a text spells. -/
def read (t : Text) : Except Fault Pattern := do
  let r ← Reader.start.run t.length t
  match r.outer with
  | _ :: _ => throw .unclosedGroup
  | [] =>
    let p ← r.scope.close.checked
    if p.pattern.fits then return p.pattern else throw .tooLarge

end LiveTex.Pattern

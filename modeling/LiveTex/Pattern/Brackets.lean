import LiveTex.Pattern.Escapes

/-!
Reading classes in brackets. A class has characters, ranges and other classes as its items, and
operators between groups of items.
-/

namespace LiveTex.Pattern

/-- How deeply a pattern may be nested. -/
def deepest : Nat := 250

/-- How two parts of a class are combined. -/
inductive ClassOp where
  | inter | diff | symmDiff
  deriving Repr, DecidableEq

def ClassOp.apply : ClassOp → CharSet → CharSet → CharSet
  | .inter => (· ∩ ·)
  | .diff => (· \ ·)
  | .symmDiff => CharSet.symmDiff

/-- The operator at the head of the text. -/
def classOp? : Text → Option (ClassOp × Text)
  | '&' :: '&' :: t => some (.inter, t)
  | '-' :: '-' :: t => some (.diff, t)
  | '~' :: '~' :: t => some (.symmDiff, t)
  | _ => none

/-- A class that has been read, and how deeply it is nested. -/
structure Class where
  set : CharSet
  depth : Nat

/-- A class that is being read: what stands before the last operator, and the items behind it. -/
structure ClassBody where
  before : Option (ClassOp × Class)
  items : CharSet
  count : Nat
  depth : Nat

namespace ClassBody

def new (before : Option (ClassOp × Class)) : ClassBody := ⟨before, .none, 0, 0⟩

def add (b : ClassBody) (s : CharSet) (depth : Nat) : ClassBody :=
  { b with items := b.items ∪ s, count := b.count + 1, depth := max b.depth depth }

/-- What has been read so far. Operators combine sets in which case does not matter when it shall not. -/
def combined (b : ClassBody) (flags : Flags) : Class :=
  let items : Class := ⟨b.items, if b.count < 2 then b.depth else b.depth + 1⟩
  match b.before with
  | none => items
  | some (op, first) =>
    ⟨op.apply (flags.fold first.set) (flags.fold items.set), max first.depth items.depth + 1⟩

end ClassBody

/-- An ASCII class such as `[:alpha:]`, from behind its first bracket. -/
def asciiItem? (flags : Flags) (t : Text) : Option (Except Fault CharSet × Text) := do
  let t ← Text.after? [':'] t
  let (negated, t) := match t with
    | '^' :: t => (true, t)
    | t => (false, t)
  let s ← asciiClass? (t.takeWhile (· != ':'))
  let t ← Text.after? [':', ']'] (t.dropWhile (· != ':'))
  return (flags.close negated s, t)

/-- A character or an escape. -/
def classItem (flags : Flags) : Text → Except Fault (Primitive × Text)
  | [] => .error .unclosedClass
  | '\\' :: t => escape flags t
  | c :: t => .ok (.char c, t)

/-- The character of an end of a range, which is the only member of a set without Unicode beyond ASCII. -/
def Primitive.member (flags : Flags) (p : Primitive) : Except Fault Char := do
  match ← p.char? flags with
  | some c => if flags.unicode || c.toNat < 0x80 then return c else throw .beyondAscii
  | none => throw .classItem

/-- The set of an item. -/
def Primitive.members (flags : Flags) : Primitive → Except Fault CharSet
  | .set s => .ok s
  | p => (p.member flags).map CharSet.single

/-- An item or a range. A hyphen before the closing bracket or before another hyphen makes no range. -/
def classRange (flags : Flags) (t : Text) : Except Fault (CharSet × Text) := do
  let (first, t) ← classItem flags t
  match flags.skip t with
  | [] => throw .unclosedClass
  | '-' :: t =>
    let next := flags.afterHyphen t
    if next == some ']' || next == some '-' then return (← first.members flags, '-' :: t)
    else
      let (last, t) ← classItem flags (flags.skip t)
      let a ← first.member flags
      let b ← last.member flags
      if a ≤ b then return (.range a b, t) else throw .classRange
  | t => return (← first.members flags, t)

/-- Hyphens at the start of a class, which stand for themselves. -/
def leadingHyphens (flags : Flags) (b : ClassBody) (t : Text) : ClassBody × Text :=
  match t with
  | '-' :: t => leadingHyphens flags (b.add (.single '-') 0) (flags.skip t)
  | t => (b, t)
termination_by t.length
decreasing_by
  have := flags.length_skip_le t
  simp only [List.length_cons]
  omega

/-- The rest of a class up to its closing bracket, given how a class inside it is read. The fuel bounds
the items and operators, each of which takes a character. -/
def classBody (flags : Flags) (inner : Text → Except Fault (Class × Text)) (b : ClassBody) :
    (fuel : Nat) → Text → Except Fault (Class × Text)
  | 0, _ => .error .unclosedClass
  | fuel + 1, t =>
    match flags.skip t with
    | [] => .error .unclosedClass
    | ']' :: t => .ok (b.combined flags, t)
    | '[' :: t =>
      match asciiItem? flags t with
      | some (s, t) => do classBody flags inner (b.add (← s) 0) fuel t
      | none => do
        let (c, t) ← inner t
        classBody flags inner (b.add c.set c.depth) fuel t
    | t =>
      match classOp? t with
      | some (op, t) => classBody flags inner (.new (some (op, b.combined flags))) fuel t
      | none => do
        let (s, t) ← classRange flags t
        classBody flags inner (b.add s 0) fuel t

/-- A class from behind its opening bracket, with classes inside it to a number of levels. -/
def bracketed (flags : Flags) : (levels : Nat) → Text → Except Fault (Class × Text)
  | 0, _ => .error .tooDeep
  | levels + 1, t => do
    let (negated, t) := match flags.skip t with
      | '^' :: t => (true, flags.skip t)
      | t => (false, t)
    let (b, t) := leadingHyphens flags (.new none) t
    let (b, t) := match t with
      | ']' :: t => if b.count = 0 then (b.add (.single ']') 0, t) else (b, ']' :: t)
      | t => (b, t)
    let (c, t) ← classBody flags (bracketed flags levels) b (t.length + 1) t
    return (⟨← flags.close negated c.set, c.depth + 1⟩, t)

end LiveTex.Pattern

import LiveTex.Decimal.Reading
import LiveTex.Formula.Expr
import LiveTex.Formula.Token

/-!
From tokens to trees. The grammar, loosest first:

* sum: products joined by `+` and `-`;
* product: a signed operand, then signed operands after `*`, `/` or their commands, and powers that
  simply stand next to what is before them;
* signed operand: any number of signs before a power;
* power: a primary with its factorial marks, an exponent after `^`, and the factorial marks of the power;
* primary: a number, a symbol, a group, bars around a sum, or a command with its arguments.

Signed operands and primaries count as a level of nesting, and the levels are limited. Each rule is
written over the rules one level deeper, so the limit bounds the recursion. The rules that repeat take
the number of tokens left as their bound: every round takes a token.
-/

namespace LiveTex.Formula

/-- The deepest nesting of signs, groups and arguments. -/
def maxDepth : Nat := 256

/-- The largest number of tokens. -/
def maxTokens : Nat := 1024

/-- How a rule reads an expression: it answers with the tokens after it. Between bars, the next bar
closes and does not open. -/
abbrev Rule := (barred : Bool) → List Token → Except Error (Expr × List Token)

/-- The two rules that open a level. -/
structure Level where
  signed : Rule
  primary : Rule

def unexpected (t : Token) (expected : Expected) : Error := .unexpectedToken t.lexeme expected t.start

/-- Passes over a token of the given kind. -/
def expect (kind : Token.Kind) (mark : Char) : List Token → Except Error (List Token)
  | [] => .error (.unexpectedEnd (.closing mark))
  | t :: ts => if t.kind = kind then .ok ts else .error (unexpected t (.closing mark))

/-- What follows a token of the given kind, when one comes next. -/
def passing? (kind : Token.Kind) : List Token → Option (List Token)
  | [] => none
  | t :: ts => if t.kind = kind then some ts else none

/-- Wraps the operand in a factorial for each `!` that follows. -/
def factorials (operand : Expr) : List Token → Expr × List Token
  | [] => (operand, [])
  | t :: ts => if t.kind = .bang then factorials (.factorial operand) ts else (operand, t :: ts)

/-- The commands that are written between two operands. -/
def Operator.ofCommand? (name : Text) : Option Operator :=
  if name = "cdot".toList || name = "times".toList then some .mul
  else if name = "div".toList then some .div
  else none

/-- The operator of a product that a token writes. -/
def Token.factorOperator? (t : Token) : Option Operator :=
  match t.kind with
  | .star => some .mul
  | .slash => some .div
  | .command => Operator.ofCommand? t.commandName
  | _ => none

/-- The operator of a sum that a token writes. -/
def Token.termOperator? (t : Token) : Option Operator :=
  match t.kind with
  | .plus => some .add
  | .minus => some .sub
  | _ => none

/-- Whether a token begins an operand. -/
def Token.beginsOperand (barred : Bool) (t : Token) : Bool :=
  match t.kind with
  | .number | .symbol | .leftParen | .leftBracket | .leftBrace => true
  | .pipe => !barred
  | .command => t.factorOperator?.isNone
  | _ => false

/-- How a product goes on. -/
inductive Continuation where
  | operator (op : Operator) (rest : List Token)
  | juxtaposed
  | none

def Continuation.of (barred : Bool) : List Token → Continuation
  | [] => .none
  | t :: ts => match t.factorOperator? with
    | some op => .operator op ts
    | Option.none => if t.beginsOperand barred then .juxtaposed else .none

/-- The commands that do more than apply one of the functions. -/
inductive Command where
  | fraction | root | abs | log
  | func (f : Func)
  | unknown
  deriving Repr, DecidableEq

def Command.ofName (name : Text) : Command :=
  if name = "frac".toList || name = "dfrac".toList || name = "tfrac".toList then .fraction
  else if name = "sqrt".toList then .root
  else if name = "abs".toList then .abs
  else if name = "log".toList then .log
  else match Func.ofName? name with
    | some f => .func f
    | none => .unknown

/-- Raises a call to the power that was written after the function's name. -/
def raised (call : Expr) : Option Expr → Expr
  | none => call
  | some exponent => .binary .pow call exponent

/-- The base of a logarithm that is written without one. -/
def commonBase : Expr := .number 10.0

namespace Level

variable (deeper : Level)

/-- A primary and its factorial marks. -/
def marked : Rule := fun barred ts => do
  let (e, ts) ← deeper.primary barred ts
  return factorials e ts

/-- A power, given how exponents are read. -/
def power (exponent : Rule) : Rule := fun barred ts => do
  let (base, ts) ← deeper.marked barred ts
  match passing? .caret ts with
  | none => return (base, ts)
  | some ts =>
    let (e, ts) ← exponent barred ts
    return factorials (.binary .pow base e) ts

/-- The factors after the first one. -/
def factors (exponent : Rule) (barred : Bool) :
    (bound : Nat) → Expr → List Token → Except Error (Expr × List Token)
  | 0, left, ts => .ok (left, ts)
  | bound + 1, left, ts => match Continuation.of barred ts with
    | .operator op rest => do
      let (right, ts) ← deeper.signed barred rest
      factors exponent barred bound (.binary op left right) ts
    | .juxtaposed => do
      let (right, ts) ← deeper.power exponent barred ts
      factors exponent barred bound (.binary .mul left right) ts
    | .none => .ok (left, ts)

/-- A signed operand and the factors after it. -/
def product (exponent : Rule) : Rule := fun barred ts => do
  let (e, ts) ← deeper.signed barred ts
  deeper.factors exponent barred ts.length e ts

/-- The terms after the first one. -/
def terms (exponent : Rule) (barred : Bool) :
    (bound : Nat) → Expr → List Token → Except Error (Expr × List Token)
  | 0, left, ts => .ok (left, ts)
  | bound + 1, left, ts => match ts with
    | [] => .ok (left, [])
    | t :: rest => match t.termOperator? with
      | none => .ok (left, t :: rest)
      | some op => do
        let (right, ts) ← deeper.product exponent barred rest
        terms exponent barred bound (.binary op left right) ts

/-- A sum, given how exponents are read. -/
def sumWith (exponent : Rule) : Rule := fun barred ts => do
  let (e, ts) ← deeper.product exponent barred ts
  deeper.terms exponent barred ts.length e ts

/-- An exponent: a group in braces or a signed operand. A group is on the level of the power itself, so
only the tokens bound how often exponents nest in this way. -/
def exponentWithin : (bound : Nat) → Rule
  | 0 => deeper.signed
  | bound + 1 => fun barred ts => match passing? .leftBrace ts with
    | none => deeper.signed barred ts
    | some ts => do
      let (e, ts) ← deeper.sumWith (exponentWithin bound) false ts
      let ts ← expect .rightBrace '}' ts
      return (e, ts)

def exponent : Rule := fun barred ts => deeper.exponentWithin ts.length barred ts

def sum : Rule := fun barred ts => deeper.sumWith (deeper.exponentWithin ts.length) barred ts

/-- A sum up to the mark that closes its group. Bars outside the group are out of reach. -/
def group (close : Token.Kind) (mark : Char) (ts : List Token) : Except Error (Expr × List Token) := do
  let (e, ts) ← deeper.sum false ts
  let ts ← expect close mark ts
  return (e, ts)

/-- A group in braces or a primary, as `\frac` and `\sqrt` take it. -/
def argument : Rule := fun barred ts =>
  match passing? .leftBrace ts with
  | some ts => deeper.group .rightBrace '}' ts
  | none => deeper.primary barred ts

/-- The sums after the first one, each behind a comma. -/
def sumsAfterComma : (bound : Nat) → List Token → Except Error (List Expr × List Token)
  | 0, ts => .ok ([], ts)
  | bound + 1, ts => match passing? .comma ts with
    | none => .ok ([], ts)
    | some ts => do
      let (e, ts) ← deeper.sum false ts
      let (es, ts) ← sumsAfterComma bound ts
      return (e :: es, ts)

/-- Sums with commas between them, up to the closing mark. -/
def listed (close : Token.Kind) (mark : Char) (ts : List Token) :
    Except Error (List Expr × List Token) := do
  let (e, ts) ← deeper.sum false ts
  let (es, ts) ← deeper.sumsAfterComma ts.length ts
  let ts ← expect close mark ts
  return (e :: es, ts)

/-- The arguments of a function: a list in parentheses or braces, or one signed operand. -/
def arguments (barred : Bool) (ts : List Token) : Except Error (List Expr × List Token) :=
  match passing? .leftParen ts, passing? .leftBrace ts with
  | some ts, _ => deeper.listed .rightParen ')' ts
  | none, some ts => deeper.listed .rightBrace '}' ts
  | none, none => do
    let (e, ts) ← deeper.signed barred ts
    return ([e], ts)

/-- The power written between a function's name and its arguments. -/
def functionPower (barred : Bool) (ts : List Token) : Except Error (Option Expr × List Token) :=
  match passing? .caret ts with
  | none => .ok (none, ts)
  | some ts => do
    let (e, ts) ← deeper.exponent barred ts
    return (some e, ts)

/-- The degree of a root, in brackets. -/
def degree (ts : List Token) : Except Error (Option Expr × List Token) :=
  match passing? .leftBracket ts with
  | none => .ok (none, ts)
  | some ts => do
    let (e, ts) ← deeper.group .rightBracket ']' ts
    return (some e, ts)

/-- The base of a logarithm, behind an underscore. -/
def base (barred : Bool) (ts : List Token) : Except Error (Expr × List Token) :=
  match passing? .underscore ts with
  | none => .ok (commonBase, ts)
  | some ts => deeper.argument barred ts

/-- What a command makes of the tokens after it. -/
def command (name : Text) : Rule := fun barred ts =>
  match Command.ofName name with
  | .fraction => do
    let (numerator, ts) ← deeper.argument barred ts
    let (denominator, ts) ← deeper.argument barred ts
    return (.binary .div numerator denominator, ts)
  | .root => do
    let (degree?, ts) ← deeper.degree ts
    let (radicand, ts) ← deeper.argument barred ts
    match degree? with
    | none => return (.sqrt radicand, ts)
    | some degree => return (.root degree radicand, ts)
  | .abs => do
    let (e, ts) ← deeper.argument barred ts
    return (.abs e, ts)
  | .log => do
    let (base, ts) ← deeper.base barred ts
    let (power, ts) ← deeper.functionPower barred ts
    let (args, ts) ← deeper.arguments barred ts
    match args with
    | [e] => return (raised (.log base e) power, ts)
    | _ => .error (.arity name .one args.length)
  | .func f => do
    let (power, ts) ← deeper.functionPower barred ts
    let (args, ts) ← deeper.arguments barred ts
    if f.arity.admits args.length then return (raised (.call f args) power, ts)
    else .error (.arity name f.arity args.length)
  | .unknown => .error (.unknownCommand name)

/-- The body of the rule for signed operands. -/
def signedBody : Rule := fun barred ts =>
  match passing? .plus ts, passing? .minus ts with
  | some ts, _ => deeper.signed barred ts
  | none, some ts => do
    let (e, ts) ← deeper.signed barred ts
    return (.neg e, ts)
  | none, none => deeper.power deeper.exponent barred ts

/-- The body of the rule for primaries. -/
def primaryBody : Rule := fun barred ts =>
  match ts with
  | [] => .error (.unexpectedEnd .operand)
  | t :: ts => match t.kind with
    | .number => .ok (.number (Decimal.read t.lexeme), ts)
    | .symbol => .ok (.symbol t.lexeme, ts)
    | .leftParen => deeper.group .rightParen ')' ts
    | .leftBracket => deeper.group .rightBracket ']' ts
    | .leftBrace => deeper.group .rightBrace '}' ts
    | .pipe => do
      let (e, ts) ← deeper.sum true ts
      let ts ← expect .pipe '|' ts
      return (.abs e, ts)
    | .command => deeper.command t.commandName barred ts
    | _ => .error (unexpected t .operand)

end Level

/-- The rules when so many levels are left. -/
def level : (room : Nat) → Level
  | 0 => ⟨fun _ _ => .error (.nestingTooDeep maxDepth), fun _ _ => .error (.nestingTooDeep maxDepth)⟩
  | room + 1 => ⟨(level room).signedBody, (level room).primaryBody⟩

/-- The tree of a token list. -/
def parse (ts : List Token) : Except Error Expr :=
  if maxTokens < ts.length then .error (.tooLong ts.length maxTokens)
  else do
    let (e, rest) ← (level maxDepth).sum false ts
    match rest with
    | [] => return e
    | t :: _ => .error (unexpected t .endOfInput)

end LiveTex.Formula

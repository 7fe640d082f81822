import LiveTex.Formula.Operation

/-!
Formulas as trees.
-/

namespace LiveTex.Formula

inductive Expr where
  | number (value : Float)
  | symbol (name : Text)
  | neg (operand : Expr)
  | binary (op : Operator) (left right : Expr)
  | factorial (operand : Expr)
  | abs (operand : Expr)
  | sqrt (radicand : Expr)
  | root (degree radicand : Expr)
  | log (base argument : Expr)
  | call (func : Func) (args : List Expr)
  deriving Repr

/-- Values for symbols. -/
abbrev Bindings := Text → Option Float

/-- The ratio of a circle's circumference to its diameter, as the nearest double. -/
def pi : Float := Float.ofBits 0x400921fb54442d18

/-- The base of the natural logarithm, as the nearest double. -/
def euler : Float := Float.ofBits 0x4005bf0a8b145769

/-- The constants that have a value without being bound. -/
def constant? (name : Text) : Option Float :=
  if name = "PI".toList then some pi
  else if name = ['E'] then some euler
  else none

/-- The value of a symbol. A binding hides the constant of the same name. -/
def symbolValue (bindings : Bindings) (name : Text) : Except Error Float :=
  match bindings name with
  | some x => .ok x
  | none => match constant? name with
    | some x => .ok x
    | none => .error (.unboundSymbol name)

mutual

/-- The value of a formula. Operands are evaluated from left to right, a radicand before its degree and
the argument of a logarithm before its base, so the first failure in that order is the one reported. -/
def Expr.value (bindings : Bindings) : Expr → Except Error Float
  | .number x => .ok x
  | .symbol name => symbolValue bindings name
  | .neg e => do
    let x ← e.value bindings
    return -x
  | .binary op l r => do
    let x ← l.value bindings
    let y ← r.value bindings
    return op.apply x y
  | .factorial e => do
    let x ← e.value bindings
    Formula.factorial x
  | .abs e => do
    let x ← e.value bindings
    return x.abs
  | .sqrt e => do
    let x ← e.value bindings
    return x.sqrt
  | .root degree radicand => do
    let x ← radicand.value bindings
    let n ← degree.value bindings
    return nthRoot x n
  | .log base argument => do
    let x ← argument.value bindings
    let b ← base.value bindings
    return logarithm x b
  | .call f args => do
    let xs ← Expr.values bindings args
    return f.apply xs

/-- The values of several formulas, in order. -/
def Expr.values (bindings : Bindings) : List Expr → Except Error (List Float)
  | [] => .ok []
  | e :: rest => do
    let x ← e.value bindings
    let xs ← Expr.values bindings rest
    return x :: xs

end

end LiveTex.Formula

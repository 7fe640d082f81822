import LiveTex.Formula.CubeRoot
import LiveTex.Formula.Error

/-!
The operations of formulas on doubles. Arithmetic is that of IEEE 754: a division by zero is an infinity
or a NaN and never an error.
-/

namespace LiveTex.Formula

/-- The operations written between two operands. -/
inductive Operator where
  | add | sub | mul | div | pow
  deriving Repr, DecidableEq

/-- The functions that have a command of their own and a value for any double. -/
inductive Func where
  | sin | cos | tan | sec | csc | cot
  | arcsin | arccos | arctan
  | sinh | cosh | tanh
  | ln | exp
  | min | max
  deriving Repr, DecidableEq

def Func.all : List Func :=
  [.sin, .cos, .tan, .sec, .csc, .cot, .arcsin, .arccos, .arctan, .sinh, .cosh, .tanh, .ln, .exp,
   .min, .max]

/-- The name of the function's command, without the backslash. -/
def Func.name : Func → Text
  | .sin => "sin".toList
  | .cos => "cos".toList
  | .tan => "tan".toList
  | .sec => "sec".toList
  | .csc => "csc".toList
  | .cot => "cot".toList
  | .arcsin => "arcsin".toList
  | .arccos => "arccos".toList
  | .arctan => "arctan".toList
  | .sinh => "sinh".toList
  | .cosh => "cosh".toList
  | .tanh => "tanh".toList
  | .ln => "ln".toList
  | .exp => "exp".toList
  | .min => "min".toList
  | .max => "max".toList

/-- The function that a command names. -/
def Func.ofName? (name : Text) : Option Func := Func.all.find? (·.name = name)

/-- The least and the greatest of several numbers need at least one; the rest take exactly one. -/
def Func.arity : Func → Arity
  | .min | .max => .oneOrMore
  | _ => .one

theorem Func.mem_all (f : Func) : f ∈ Func.all := by cases f <;> decide

theorem Func.name_injective {f g : Func} (h : f.name = g.name) : f = g := by
  revert h; cases f <;> cases g <;> decide

theorem Func.ofName?_name (f : Func) : Func.ofName? f.name = some f := by
  cases f <;> decide

theorem Func.name_of_ofName? {name : Text} {f : Func} (h : Func.ofName? name = some f) :
    f.name = name := by
  simpa using List.find?_some h

/-- The smaller number; a NaN gives way to the other one, and of equals the first is kept. -/
def smaller (x y : Float) : Float := if x.isNaN then y else if y < x then y else x

/-- The larger number; a NaN gives way to the other one, and of equals the first is kept. -/
def larger (x y : Float) : Float := if x.isNaN then y else if x < y then y else x

def Operator.apply : Operator → Float → Float → Float
  | .add, x, y => x + y
  | .sub, x, y => x - y
  | .mul, x, y => x * y
  | .div, x, y => x / y
  | .pow, x, y => x.pow y

def nan : Float := 0.0 / 0.0

def infinity : Float := 1.0 / 0.0

/-- The value of a function. One-argument functions look at the first argument only. -/
def Func.apply (f : Func) (args : List Float) : Float :=
  let x := args.headD nan
  match f with
  | .sin => x.sin
  | .cos => x.cos
  | .tan => x.tan
  | .sec => 1.0 / x.cos
  | .csc => 1.0 / x.sin
  | .cot => 1.0 / x.tan
  | .arcsin => x.asin
  | .arccos => x.acos
  | .arctan => x.atan
  | .sinh => x.sinh
  | .cosh => x.cosh
  | .tanh => x.tanh
  | .ln => x.log
  | .exp => x.exp
  | .min => args.foldl smaller infinity
  | .max => args.foldl larger (-infinity)

/-- The number without its fraction part. -/
def truncate (x : Float) : Float := if x < 0.0 then x.ceil else x.floor

/-- Whether the number has no fraction part; infinities and NaN do not count. -/
def isWhole (x : Float) : Bool := x - truncate x == 0.0

/-- The largest number whose factorial is finite. -/
def largestFactorial : Float := 170.0

/-- The factorial of a whole number that is not negative. -/
def factorial (x : Float) : Except Error Float :=
  if x < 0.0 || !isWhole x then .error (.factorialDomain x)
  else if largestFactorial < x then .ok infinity
  else
    let n := x.toUInt64.toNat
    .ok ((List.range' 2 (n - 1)).foldl (fun product k => product * Float.ofNat k) 1.0)

/-- The real root of the given degree. Odd roots of negative numbers stay real. -/
def nthRoot (x degree : Float) : Float :=
  if degree == 2.0 then x.sqrt
  else if degree == 3.0 then cubeRoot x
  else
    let odd := isWhole degree && !isWhole (degree / 2.0)
    if x < 0.0 && odd then -(-x).pow (1.0 / degree) else x.pow (1.0 / degree)

/-- The logarithm to the given base, by the exact functions for the bases ten and two. -/
def logarithm (x base : Float) : Float :=
  if base == 10.0 then x.log10
  else if base == 2.0 then x.log2
  else x.log / base.log

end LiveTex.Formula

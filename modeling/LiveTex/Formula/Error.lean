import LiveTex.Decimal.Layout
import LiveTex.Text.Quoted

/-!
Why a formula does not compile, or has no value once it does.
-/

namespace LiveTex.Formula

/-- What the parser was looking for when it met something else. -/
inductive Expected where
  | operand
  | endOfInput
  /-- The mark that ends an open group. -/
  | closing (mark : Char)
  deriving Repr, DecidableEq

/-- How many arguments a function takes. -/
inductive Arity where
  | one
  | oneOrMore
  deriving Repr, DecidableEq

/-- Whether so many arguments may be given. -/
def Arity.admits : Arity → Nat → Bool
  | .one, got => got == 1
  | .oneOrMore, got => 1 ≤ got

inductive Error where
  | unexpectedChar (text : Text) (offset : Nat)
  | unexpectedToken (found : Text) (expected : Expected) (offset : Nat)
  | unexpectedEnd (expected : Expected)
  | nestingTooDeep (limit : Nat)
  | tooLong (tokens limit : Nat)
  | unknownCommand (name : Text)
  | unboundSymbol (name : Text)
  | arity (function : Text) (expected : Arity) (got : Nat)
  /-- The factorial of a number that is not a natural number. -/
  | factorialDomain (value : Float)
  deriving Repr

/-- Whether the error is found while compiling; the others arise from the values at hand. -/
def Error.isSyntax : Error → Bool
  | .unboundSymbol _ | .factorialDomain _ => false
  | _ => true

/-- Numbers in messages: every digit that the shortest decimal needs, and never an exponent. -/
def messageStyle : Decimal.Style where
  plainFrom := none
  plainTo := none
  pointZero := false
  plusSign := false
  tie := .up

/-- A number as messages show it. -/
def messageNumber (x : Float) : Text :=
  match Decimal.Class.of x with
  | .nan => "NaN".toList
  | .infinite negative => Decimal.sign negative ++ "inf".toList
  | .finite negative mantissa exponent => Decimal.layout messageStyle negative mantissa exponent

def Expected.text : Expected → Text
  | .operand => "operand".toList
  | .endOfInput => "end of input".toList
  | .closing mark => [mark]

def Arity.text : Arity → Text
  | .one => ['1']
  | .oneOrMore => "at least 1".toList

/-- The error in words. -/
def Error.message : Error → Text
  | .unexpectedChar text offset =>
    "unexpected character ".toList ++ Text.quoted text ++ " at byte ".toList ++ Decimal.digits offset
  | .unexpectedToken found expected offset =>
    "unexpected ".toList ++ Text.quoted found ++ " at byte ".toList ++ Decimal.digits offset ++
      ", expected ".toList ++ expected.text
  | .unexpectedEnd expected => "unexpected end of input, expected ".toList ++ expected.text
  | .nestingTooDeep limit =>
    "expression nests deeper than ".toList ++ Decimal.digits limit ++ " levels".toList
  | .tooLong tokens limit =>
    "expression has ".toList ++ Decimal.digits tokens ++ " tokens, more than the limit of ".toList ++
      Decimal.digits limit
  | .unknownCommand name => "unknown command \\".toList ++ name
  | .unboundSymbol name => "unbound symbol ".toList ++ name
  | .arity function expected got =>
    ['\\'] ++ function ++ " takes ".toList ++ expected.text ++ " argument(s), got ".toList ++
      Decimal.digits got
  | .factorialDomain value => "factorial is undefined for ".toList ++ messageNumber value

end LiveTex.Formula

import LiveTex.Formula.Lexing
import LiveTex.Formula.Parsing

/-!
A formula: compiled once, evaluated against any number of bindings.
-/

namespace LiveTex

/-- A compiled formula, with the tokens that its tree was read from. -/
structure Formula where
  tokens : List Formula.Token
  expr : Formula.Expr

namespace Formula

/-- Reads a formula. The failures are exactly those that `Error.isSyntax` tells. -/
def compile (source : Text) : Except Error Formula := do
  let ts ← tokenize source
  let e ← parse ts
  return ⟨ts, e⟩

/-- The symbols of a token list, with repetitions. -/
def symbolLexemes (ts : List Token) : List Text :=
  (ts.filter (·.kind = .symbol)).map (·.lexeme)

/-- The distinct symbols, in order of first appearance. Constants are among them, bound or not. -/
def symbols (f : Formula) : List Text := (symbolLexemes f.tokens).eraseDups

/-- The value under the bindings. -/
def evaluate (f : Formula) (bindings : Bindings) : Except Error Float := f.expr.value bindings

end Formula

end LiveTex

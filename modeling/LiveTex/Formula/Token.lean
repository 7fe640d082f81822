import LiveTex.Text.Basic

/-!
The tokens of a formula.
-/

namespace LiveTex.Formula

/-- The kinds of tokens. A command keeps its backslash; a symbol is a longest run of ASCII letters. -/
inductive Token.Kind where
  | number | symbol | command
  | plus | minus | star | slash | caret | underscore | bang | pipe | comma
  | leftParen | rightParen | leftBracket | rightBracket | leftBrace | rightBrace
  deriving Repr, DecidableEq

/-- The kind of a token that is one mark. -/
def Token.Kind.ofMark? : Char → Option Token.Kind
  | '+' => some .plus
  | '-' => some .minus
  | '*' => some .star
  | '/' => some .slash
  | '^' => some .caret
  | '_' => some .underscore
  | '!' => some .bang
  | '|' => some .pipe
  | ',' => some .comma
  | '(' => some .leftParen
  | ')' => some .rightParen
  | '[' => some .leftBracket
  | ']' => some .rightBracket
  | '{' => some .leftBrace
  | '}' => some .rightBrace
  | _ => none

/-- A token with the bytes of the source that it stands for, from `start` up to `stop`. -/
structure Token where
  kind : Token.Kind
  lexeme : Text
  start : Nat
  stop : Nat
  deriving Repr, DecidableEq

/-- The name of a command without its backslash; nothing for other tokens. -/
def Token.commandName (t : Token) : Text :=
  match t.kind with
  | .command => t.lexeme.tail
  | _ => []

end LiveTex.Formula

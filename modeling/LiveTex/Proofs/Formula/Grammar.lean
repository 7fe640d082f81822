import LiveTex.Formula.Parsing

/-!
The grammar of formulas as a relation. A phrase is read from the front of a token list, and it leaves the
rest. The relation knows nothing of the bounds that the rules count down; only the room for nesting is
left. The rules read exactly what the relation derives.
-/

namespace LiveTex.Formula

/-- The token that closes what a token opens. -/
def Token.Kind.closer? : Token.Kind → Option Token.Kind
  | .leftParen => some .rightParen
  | .leftBracket => some .rightBracket
  | .leftBrace => some .rightBrace
  | _ => none

theorem Token.Kind.closer?_eq_some {kind close : Token.Kind} (h : kind.closer? = some close) :
    kind = .leftParen ∧ close = .rightParen ∨ kind = .leftBracket ∧ close = .rightBracket ∨
      kind = .leftBrace ∧ close = .rightBrace := by
  cases kind <;> cases h <;> simp

/-- What can be read. Some phrases go on from an expression on their left. -/
inductive Phrase where
  | signed | primary | power | exponent | argument
  /-- Factorial marks. -/
  | marks (operand : Expr)
  | factors (barred : Bool) (left : Expr)
  | product (barred : Bool)
  | terms (barred : Bool) (left : Expr)
  | sum (barred : Bool)
  /-- Sums behind commas. -/
  | commas
  | arguments
  /-- The power behind a function's name, if there is one. -/
  | raising
  /-- The degree of a root, if there is one. -/
  | degree
  | base

/-- The root with the degree that was read, or a square root. -/
def rooted (radicand : Expr) : List Expr → Expr
  | [] => .sqrt radicand
  | degree :: _ => .root degree radicand

/-- A phrase is read from `ts`: it comes to the expressions `es`, and `rest` is left. -/
inductive Reads : (room : Nat) → Phrase → (ts : List Token) → (es : List Expr) → (rest : List Token) → Prop
  | plus {n t ts es rest} (ht : t.kind = .plus) (h : Reads n .signed ts es rest) :
      Reads (n + 1) .signed (t :: ts) es rest
  | minus {n t ts e rest} (ht : t.kind = .minus) (h : Reads n .signed ts [e] rest) :
      Reads (n + 1) .signed (t :: ts) [.neg e] rest
  | unsigned {n ts es rest} (hplus : passing? .plus ts = none) (hminus : passing? .minus ts = none)
      (h : Reads n .power ts es rest) : Reads (n + 1) .signed ts es rest
  | number {n t ts} (ht : t.kind = .number) :
      Reads (n + 1) .primary (t :: ts) [.number (Decimal.read t.lexeme)] ts
  | symbol {n t ts} (ht : t.kind = .symbol) : Reads (n + 1) .primary (t :: ts) [.symbol t.lexeme] ts
  | group {n t c ts es rest} (ht : t.kind.closer? = some c.kind) (h : Reads n (.sum false) ts es (c :: rest)) :
      Reads (n + 1) .primary (t :: ts) es rest
  | bars {n t c ts e rest} (ht : t.kind = .pipe) (h : Reads n (.sum true) ts [e] (c :: rest))
      (hc : c.kind = .pipe) : Reads (n + 1) .primary (t :: ts) [.abs e] rest
  | fraction {n t ts ts₁ a b rest} (ht : t.kind = .command)
      (hname : Command.ofName t.commandName = .fraction) (hnumerator : Reads n .argument ts [a] ts₁)
      (hdenominator : Reads n .argument ts₁ [b] rest) :
      Reads (n + 1) .primary (t :: ts) [.binary .div a b] rest
  | root {n t ts ts₁ ds e rest} (ht : t.kind = .command) (hname : Command.ofName t.commandName = .root)
      (hdegree : Reads n .degree ts ds ts₁) (hradicand : Reads n .argument ts₁ [e] rest) :
      Reads (n + 1) .primary (t :: ts) [rooted e ds] rest
  | abs {n t ts e rest} (ht : t.kind = .command) (hname : Command.ofName t.commandName = .abs)
      (h : Reads n .argument ts [e] rest) : Reads (n + 1) .primary (t :: ts) [.abs e] rest
  | log {n t ts ts₁ ts₂ b ps e rest} (ht : t.kind = .command)
      (hname : Command.ofName t.commandName = .log) (hbase : Reads n .base ts [b] ts₁)
      (hpower : Reads n .raising ts₁ ps ts₂) (harguments : Reads n .arguments ts₂ [e] rest) :
      Reads (n + 1) .primary (t :: ts) [raised (.log b e) ps.head?] rest
  | func {n t ts ts₁ f ps args rest} (ht : t.kind = .command)
      (hname : Command.ofName t.commandName = .func f) (hpower : Reads n .raising ts ps ts₁)
      (harguments : Reads n .arguments ts₁ args rest) (harity : f.arity.admits args.length = true) :
      Reads (n + 1) .primary (t :: ts) [raised (.call f args) ps.head?] rest
  | marksEnd {n e ts} (hend : passing? .bang ts = none) : Reads n (.marks e) ts [e] ts
  | mark {n t e ts es rest} (ht : t.kind = .bang) (h : Reads n (.marks (.factorial e)) ts es rest) :
      Reads n (.marks e) (t :: ts) es rest
  | power {n ts ts₁ b es rest} (hbase : Reads n .primary ts [b] ts₁)
      (hmarks : Reads n (.marks b) ts₁ es rest) (hend : passing? .caret rest = none) :
      Reads n .power ts es rest
  | raised {n t ts ts₁ ts₂ ts₃ b b' e es rest} (hbase : Reads n .primary ts [b] ts₁)
      (hmarks : Reads n (.marks b) ts₁ [b'] (t :: ts₂)) (ht : t.kind = .caret)
      (hexponent : Reads n .exponent ts₂ [e] ts₃)
      (hmore : Reads n (.marks (.binary .pow b' e)) ts₃ es rest) : Reads n .power ts es rest
  | exponentGroup {n t c ts es rest} (ht : t.kind = .leftBrace) (h : Reads n (.sum false) ts es (c :: rest))
      (hc : c.kind = .rightBrace) : Reads n .exponent (t :: ts) es rest
  | exponentSigned {n ts es rest} (hbrace : passing? .leftBrace ts = none) (h : Reads n .signed ts es rest) :
      Reads n .exponent ts es rest
  | factorsEnd {n barred l ts} (hend : Continuation.of barred ts = .none) :
      Reads n (.factors barred l) ts [l] ts
  | factor {n barred l op ts ts₁ ts₂ r es rest} (hnext : Continuation.of barred ts = .operator op ts₁)
      (hright : Reads n .signed ts₁ [r] ts₂) (hmore : Reads n (.factors barred (.binary op l r)) ts₂ es rest) :
      Reads n (.factors barred l) ts es rest
  | juxtaposed {n barred l ts ts₂ r es rest} (hnext : Continuation.of barred ts = .juxtaposed)
      (hright : Reads n .power ts [r] ts₂) (hmore : Reads n (.factors barred (.binary .mul l r)) ts₂ es rest) :
      Reads n (.factors barred l) ts es rest
  | product {n barred l ts ts₁ es rest} (hfirst : Reads n .signed ts [l] ts₁)
      (hmore : Reads n (.factors barred l) ts₁ es rest) : Reads n (.product barred) ts es rest
  | termsEnd {n barred l ts} (hend : ts.head?.bind Token.termOperator? = none) :
      Reads n (.terms barred l) ts [l] ts
  | term {n barred l op t ts ts₁ r es rest} (ht : t.termOperator? = some op)
      (hright : Reads n (.product barred) ts [r] ts₁)
      (hmore : Reads n (.terms barred (.binary op l r)) ts₁ es rest) :
      Reads n (.terms barred l) (t :: ts) es rest
  | sum {n barred l ts ts₁ es rest} (hfirst : Reads n (.product barred) ts [l] ts₁)
      (hmore : Reads n (.terms barred l) ts₁ es rest) : Reads n (.sum barred) ts es rest
  | argumentGroup {n t c ts es rest} (ht : t.kind = .leftBrace) (h : Reads n (.sum false) ts es (c :: rest))
      (hc : c.kind = .rightBrace) : Reads n .argument (t :: ts) es rest
  | argumentPrimary {n ts es rest} (hbrace : passing? .leftBrace ts = none)
      (h : Reads n .primary ts es rest) : Reads n .argument ts es rest
  | commasEnd {n ts} (hend : passing? .comma ts = none) : Reads n .commas ts [] ts
  | comma {n t ts ts₁ e es rest} (ht : t.kind = .comma) (hfirst : Reads n (.sum false) ts [e] ts₁)
      (hmore : Reads n .commas ts₁ es rest) : Reads n .commas (t :: ts) (e :: es) rest
  | argumentsListed {n t c ts ts₁ e es rest} (ht : t.kind.closer? = some c.kind)
      (hbracket : t.kind ≠ .leftBracket) (hfirst : Reads n (.sum false) ts [e] ts₁)
      (hmore : Reads n .commas ts₁ es (c :: rest)) : Reads n .arguments (t :: ts) (e :: es) rest
  | argumentsSigned {n ts es rest} (hparen : passing? .leftParen ts = none)
      (hbrace : passing? .leftBrace ts = none) (h : Reads n .signed ts es rest) :
      Reads n .arguments ts es rest
  | raisingEnd {n ts} (hend : passing? .caret ts = none) : Reads n .raising ts [] ts
  | raisingPower {n t ts es rest} (ht : t.kind = .caret) (h : Reads n .exponent ts es rest) :
      Reads n .raising (t :: ts) es rest
  | degreeEnd {n ts} (hend : passing? .leftBracket ts = none) : Reads n .degree ts [] ts
  | degreeGroup {n t c ts es rest} (ht : t.kind = .leftBracket) (h : Reads n (.sum false) ts es (c :: rest))
      (hc : c.kind = .rightBracket) : Reads n .degree (t :: ts) es rest
  | baseEnd {n ts} (hend : passing? .underscore ts = none) : Reads n .base ts [commonBase] ts
  | baseArgument {n t ts es rest} (ht : t.kind = .underscore) (h : Reads n .argument ts es rest) :
      Reads n .base (t :: ts) es rest

/-- Whether a phrase always takes a token. -/
def Phrase.advances : Phrase → Bool
  | .signed | .primary | .power | .exponent | .argument | .product _ | .sum _ | .arguments => true
  | _ => false

theorem passing?_eq_some {kind : Token.Kind} {ts rest : List Token} (h : passing? kind ts = some rest) :
    ∃ t, t.kind = kind ∧ ts = t :: rest := by
  cases ts with
  | nil => cases h
  | cons t ts =>
    rw [passing?] at h
    split at h
    · next ht => exact ⟨t, ht, by rw [Option.some.inj h]⟩
    · cases h

theorem Continuation.of_eq_operator {barred : Bool} {ts rest : List Token} {op : Operator}
    (h : Continuation.of barred ts = .operator op rest) :
    ∃ t, t.factorOperator? = some op ∧ ts = t :: rest := by
  cases ts with
  | nil => cases h
  | cons t ts =>
    rw [Continuation.of] at h
    split at h
    · next op' hop => cases h; exact ⟨t, hop, rfl⟩
    · split at h <;> cases h

namespace Reads

variable {n : Nat} {phrase : Phrase} {ts rest : List Token} {es : List Expr}

/-- What a phrase leaves is shorter than what it was read from, or as long if the phrase can be empty. -/
theorem length_le (h : Reads n phrase ts es rest) :
    rest.length + (if phrase.advances then 1 else 0) ≤ ts.length := by
  induction h with
  | factor hnext =>
    obtain ⟨t, -, rfl⟩ := Continuation.of_eq_operator hnext
    simp_all [Phrase.advances]
    omega
  | _ => simp_all [Phrase.advances] <;> omega

theorem length_lt (h : Reads n phrase ts es rest) (hphrase : phrase.advances = true) :
    rest.length < ts.length := by
  have hle := h.length_le
  rw [if_pos hphrase] at hle
  exact hle

/-- A phrase comes to one expression, unless it is a list or can be missing. -/
theorem length_outputs (h : Reads n phrase ts es rest) :
    match phrase with
    | .commas | .arguments => True
    | .raising | .degree => es.length ≤ 1
    | _ => es.length = 1 := by
  induction h with
  | _ => simp_all

end Reads

end LiveTex.Formula

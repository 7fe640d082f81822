import Mathlib.Data.List.Forall2
import LiveTex.Proofs.Formula.Symbols

/-!
Renamed symbols. Tokens whose symbols are renamed are read to the tree whose symbols are renamed, or they
are not read either. No rule looks at the name of a symbol, so nothing is asked of the renaming.
-/

namespace LiveTex.Formula

variable {σ : Text → Text}

mutual

/-- The tree with its symbols renamed. -/
def Expr.rename (σ : Text → Text) : Expr → Expr
  | .number x => .number x
  | .symbol name => .symbol (σ name)
  | .neg e => .neg (e.rename σ)
  | .binary op l r => .binary op (l.rename σ) (r.rename σ)
  | .factorial e => .factorial (e.rename σ)
  | .abs e => .abs (e.rename σ)
  | .sqrt e => .sqrt (e.rename σ)
  | .root degree radicand => .root (degree.rename σ) (radicand.rename σ)
  | .log base argument => .log (base.rename σ) (argument.rename σ)
  | .call f args => .call f (Expr.renameAll σ args)

/-- The trees with their symbols renamed. -/
def Expr.renameAll (σ : Text → Text) : List Expr → List Expr
  | [] => []
  | e :: rest => e.rename σ :: Expr.renameAll σ rest

end

@[simp] theorem Expr.length_renameAll (es : List Expr) : (renameAll σ es).length = es.length := by
  induction es with
  | nil => rfl
  | cons e es ih => simp [renameAll, ih]

theorem raised_rename (e : Expr) (power : Option Expr) :
    raised (e.rename σ) (power.map (Expr.rename σ)) = (raised e power).rename σ := by
  cases power <;> rfl

/-!
The value of a renamed tree.
-/

mutual

/-- A renamed tree has the value of the tree, when the new names stand for what the old ones stood for. -/
theorem Expr.value_rename {b b' : Bindings} : ∀ e : Expr,
    (∀ name ∈ e.names, symbolValue b (σ name) = symbolValue b' name) → (e.rename σ).value b = e.value b'
  | .number _, _ => rfl
  | .symbol name, h => h name (List.mem_singleton_self name)
  | .neg e, h => by rw [rename, value, value, value_rename e h]
  | .factorial e, h => by rw [rename, value, value, value_rename e h]
  | .abs e, h => by rw [rename, value, value, value_rename e h]
  | .sqrt e, h => by rw [rename, value, value, value_rename e h]
  | .binary op l r, h => by
    rw [rename, value, value, value_rename l fun name hname => h name (List.mem_append_left _ hname),
      value_rename r fun name hname => h name (List.mem_append_right _ hname)]
  | .root d r, h => by
    rw [rename, value, value, value_rename r fun name hname => h name (List.mem_append_right _ hname),
      value_rename d fun name hname => h name (List.mem_append_left _ hname)]
  | .log base argument, h => by
    rw [rename, value, value, value_rename argument fun name hname => h name (List.mem_append_right _ hname),
      value_rename base fun name hname => h name (List.mem_append_left _ hname)]
  | .call f args, h => by rw [rename, value, value, values_renameAll args h]

theorem Expr.values_renameAll {b b' : Bindings} : ∀ es : List Expr,
    (∀ name ∈ Expr.namesOfAll es, symbolValue b (σ name) = symbolValue b' name) →
      Expr.values b (Expr.renameAll σ es) = Expr.values b' es
  | [], _ => rfl
  | e :: es, h => by
    rw [renameAll, values, values, value_rename e fun name hname => h name (List.mem_append_left _ hname),
      values_renameAll es fun name hname => h name (List.mem_append_right _ hname)]

end

/-!
What the rules read.
-/

/-- Both fail, or both succeed with related results. -/
def Agree {α β : Type} (R : α → β → Prop) : Except Error α → Except Error β → Prop
  | .ok a, .ok b => R a b
  | .error _, .error _ => True
  | _, _ => False

theorem Agree.bind {α β γ δ : Type} {R : α → β → Prop} {S : γ → δ → Prop} {x : Except Error α} {y : Except Error β}
    {f : α → Except Error γ} {g : β → Except Error δ} (h : Agree R x y)
    (hrest : ∀ a b, R a b → Agree S (f a) (g b)) : Agree S (x >>= f) (y >>= g) := by
  cases x <;> cases y
  · trivial
  · exact h.elim
  · exact h.elim
  · exact hrest _ _ h

theorem Agree.map {α β γ δ : Type} {R : α → β → Prop} {S : γ → δ → Prop} {x : Except Error α} {y : Except Error β}
    {f : α → γ} {g : β → δ} (h : Agree R x y) (hrest : ∀ a b, R a b → S (f a) (g b)) :
    Agree S (x.map f) (y.map g) := by
  cases x <;> cases y
  · trivial
  · exact h.elim
  · exact h.elim
  · exact hrest _ _ h

theorem Agree.map_toOption {α β γ : Type} {R : α → β → Prop} {x : Except Error α} {y : Except Error β} {f : α → γ}
    {g : β → γ} (h : Agree R x y) (hrest : ∀ a b, x = .ok a → R a b → g b = f a) :
    y.toOption.map g = x.toOption.map f := by
  cases x <;> cases y
  · rfl
  · exact h.elim
  · exact h.elim
  · exact congrArg some (hrest _ _ rfl h)

/-- The same token, wherever it stands; a symbol has its new name. -/
structure Token.Renamed (σ : Text → Text) (x y : Token) : Prop where
  kind_eq : y.kind = x.kind
  lexeme_eq : y.lexeme = if x.kind = .symbol then σ x.lexeme else x.lexeme

namespace Token.Renamed

variable {x y : Token}

theorem commandName_eq (h : x.Renamed σ y) : y.commandName = x.commandName := by
  rw [commandName, commandName, h.kind_eq, h.lexeme_eq]
  cases hkind : x.kind <;> simp

theorem factorOperator?_eq (h : x.Renamed σ y) : y.factorOperator? = x.factorOperator? := by
  rw [factorOperator?, factorOperator?, h.kind_eq, h.commandName_eq]

theorem termOperator?_eq (h : x.Renamed σ y) : y.termOperator? = x.termOperator? := by
  rw [termOperator?, termOperator?, h.kind_eq]

theorem beginsOperand_eq (h : x.Renamed σ y) (barred : Bool) : y.beginsOperand barred = x.beginsOperand barred := by
  rw [beginsOperand, beginsOperand, h.kind_eq, h.factorOperator?_eq]

end Token.Renamed

/-- The same tokens with their symbols renamed. -/
abbrev RenamedTokens (σ : Text → Text) : List Token → List Token → Prop := List.Forall₂ (Token.Renamed σ)

/-- What was read is renamed, and so is what is left. -/
inductive After {α : Type} (σ : Text → Text) (f : α → α) : α × List Token → α × List Token → Prop
  | mk {a : α} {ts us : List Token} (h : RenamedTokens σ ts us) : After σ f (a, ts) (f a, us)

section

variable {ts us : List Token}

theorem passing?_renamed (kind : Token.Kind) (h : RenamedTokens σ ts us) :
    passing? kind ts = none ∧ passing? kind us = none ∨
      ∃ ts' us', passing? kind ts = some ts' ∧ passing? kind us = some us' ∧ RenamedTokens σ ts' us' := by
  cases h with
  | nil => exact .inl ⟨rfl, rfl⟩
  | @cons x y ts us hx hts =>
    rw [passing?, passing?, hx.kind_eq]
    split
    · exact .inr ⟨ts, us, rfl, rfl, hts⟩
    · exact .inl ⟨rfl, rfl⟩

theorem agree_expect (kind : Token.Kind) (mark : Char) (h : RenamedTokens σ ts us) :
    Agree (RenamedTokens σ) (expect kind mark ts) (expect kind mark us) := by
  cases h with
  | nil => trivial
  | cons hx hts =>
    rw [expect, expect, hx.kind_eq]
    split
    · exact hts
    · trivial

theorem after_factorials (e : Expr) (h : RenamedTokens σ ts us) :
    After σ (Expr.rename σ) (factorials e ts) (factorials (e.rename σ) us) := by
  induction h generalizing e with
  | nil => exact .mk .nil
  | cons hx hts ih =>
    rw [factorials, factorials, hx.kind_eq]
    split
    · exact ih (.factorial e)
    · exact .mk (.cons hx hts)

/-- A product goes on in the same way. -/
theorem Continuation.of_renamed (barred : Bool) (h : RenamedTokens σ ts us) :
    Continuation.of barred us = Continuation.of barred ts ∧ (∀ op rest, Continuation.of barred ts ≠ .operator op rest) ∨
      ∃ op ts' us', Continuation.of barred ts = .operator op ts' ∧ Continuation.of barred us = .operator op us' ∧
        RenamedTokens σ ts' us' := by
  cases h with
  | nil => exact .inl ⟨rfl, fun _ _ h => by cases h⟩
  | @cons x y ts us hx hts =>
    rw [Continuation.of, Continuation.of, hx.factorOperator?_eq, hx.beginsOperand_eq]
    cases x.factorOperator? with
    | some op => exact .inr ⟨op, ts, us, rfl, rfl, hts⟩
    | none => exact .inl ⟨rfl, fun _ _ h => by simp only at h; split at h <;> cases h⟩

end

/-- The rule reads renamed tokens to the renamed tree. -/
def Rule.Renames (rule : Rule) (σ : Text → Text) : Prop :=
  ∀ barred {ts us}, RenamedTokens σ ts us → Agree (After σ (Expr.rename σ)) (rule barred ts) (rule barred us)

/-- Both rules of the level do. -/
structure Level.Renames (deeper : Level) (σ : Text → Text) : Prop where
  signed : deeper.signed.Renames σ
  primary : deeper.primary.Renames σ

namespace Level.Renames

variable {deeper : Level} {rule : Rule} {ts us : List Token}

theorem marked (h : deeper.Renames σ) : deeper.marked.Renames σ := by
  intro barred ts us hts
  refine .bind (h.primary barred hts) ?_
  rintro _ _ ⟨hts⟩
  exact after_factorials _ hts

theorem power (h : deeper.Renames σ) (hrule : rule.Renames σ) : (deeper.power rule).Renames σ := by
  intro barred ts us hts
  refine .bind (h.marked barred hts) ?_
  rintro _ _ ⟨hts⟩
  simp only
  obtain ⟨hnone, hnone'⟩ | ⟨ts', us', hsome, hsome', hts'⟩ := passing?_renamed .caret hts
  · rw [hnone, hnone']
    exact .mk hts
  · rw [hsome, hsome']
    refine .bind (hrule barred hts') ?_
    rintro _ _ ⟨hts⟩
    exact after_factorials (.binary .pow _ _) hts

theorem factors (h : deeper.Renames σ) (hrule : rule.Renames σ) (barred : Bool) (bound : Nat) (left : Expr)
    (hts : RenamedTokens σ ts us) :
    Agree (After σ (Expr.rename σ)) (deeper.factors rule barred bound left ts)
      (deeper.factors rule barred bound (left.rename σ) us) := by
  induction bound generalizing left ts us with
  | zero => exact .mk hts
  | succ bound ih =>
    rw [Level.factors, Level.factors]
    obtain ⟨heq, hnot⟩ | ⟨op, ts', us', hop, hop', hts'⟩ := Continuation.of_renamed barred hts
    · rw [heq]
      cases hnext : Continuation.of barred ts with
      | operator op rest => exact absurd hnext (hnot op rest)
      | juxtaposed =>
        refine .bind (h.power hrule barred hts) ?_
        rintro _ _ ⟨hts⟩
        exact ih (.binary .mul left _) hts
      | none => exact .mk hts
    · rw [hop, hop']
      refine .bind (h.signed barred hts') ?_
      rintro _ _ ⟨hts⟩
      exact ih (.binary op left _) hts

theorem product (h : deeper.Renames σ) (hrule : rule.Renames σ) : (deeper.product rule).Renames σ := by
  intro barred ts us hts
  refine .bind (h.signed barred hts) ?_
  rintro _ _ ⟨hts⟩
  simp only [← hts.length_eq]
  exact h.factors hrule barred _ _ hts

theorem terms (h : deeper.Renames σ) (hrule : rule.Renames σ) (barred : Bool) (bound : Nat) (left : Expr)
    (hts : RenamedTokens σ ts us) :
    Agree (After σ (Expr.rename σ)) (deeper.terms rule barred bound left ts)
      (deeper.terms rule barred bound (left.rename σ) us) := by
  induction bound generalizing left ts us with
  | zero => exact .mk hts
  | succ bound ih =>
    cases hts with
    | nil => exact .mk .nil
    | @cons x y ts us hx hts =>
      rw [Level.terms, Level.terms, hx.termOperator?_eq]
      cases x.termOperator? with
      | none => exact .mk (.cons hx hts)
      | some op =>
        refine .bind (h.product hrule barred hts) ?_
        rintro _ _ ⟨hts⟩
        exact ih (.binary op left _) hts

theorem sumWith (h : deeper.Renames σ) (hrule : rule.Renames σ) : (deeper.sumWith rule).Renames σ := by
  intro barred ts us hts
  refine .bind (h.product hrule barred hts) ?_
  rintro _ _ ⟨hts⟩
  simp only [← hts.length_eq]
  exact h.terms hrule barred _ _ hts

theorem exponentWithin (h : deeper.Renames σ) (bound : Nat) : (deeper.exponentWithin bound).Renames σ := by
  induction bound with
  | zero => exact h.signed
  | succ bound ih =>
    intro barred ts us hts
    simp only [Level.exponentWithin]
    obtain ⟨hnone, hnone'⟩ | ⟨ts', us', hsome, hsome', hts'⟩ := passing?_renamed .leftBrace hts
    · rw [hnone, hnone']
      exact h.signed barred hts
    · rw [hsome, hsome']
      refine .bind (h.sumWith ih false hts') ?_
      rintro _ _ ⟨hts⟩
      exact .bind (agree_expect _ _ hts) fun _ _ hts => .mk hts

theorem exponent (h : deeper.Renames σ) : deeper.exponent.Renames σ := by
  intro barred ts us hts
  rw [Level.exponent, Level.exponent, ← hts.length_eq]
  exact h.exponentWithin _ barred hts

theorem sum (h : deeper.Renames σ) : deeper.sum.Renames σ := by
  intro barred ts us hts
  rw [Level.sum, Level.sum, ← hts.length_eq]
  exact h.sumWith (h.exponentWithin _) barred hts

theorem group (h : deeper.Renames σ) (close : Token.Kind) (mark : Char) (hts : RenamedTokens σ ts us) :
    Agree (After σ (Expr.rename σ)) (deeper.group close mark ts) (deeper.group close mark us) := by
  refine .bind (h.sum false hts) ?_
  rintro _ _ ⟨hts⟩
  exact .bind (agree_expect _ _ hts) fun _ _ hts => .mk hts

theorem argument (h : deeper.Renames σ) : deeper.argument.Renames σ := by
  intro barred ts us hts
  rw [Level.argument, Level.argument]
  obtain ⟨hnone, hnone'⟩ | ⟨ts', us', hsome, hsome', hts'⟩ := passing?_renamed .leftBrace hts
  · rw [hnone, hnone']
    exact h.primary barred hts
  · rw [hsome, hsome']
    exact h.group _ _ hts'

theorem sumsAfterComma (h : deeper.Renames σ) (bound : Nat) (hts : RenamedTokens σ ts us) :
    Agree (After σ (Expr.renameAll σ)) (deeper.sumsAfterComma bound ts) (deeper.sumsAfterComma bound us) := by
  induction bound generalizing ts us with
  | zero => exact .mk hts
  | succ bound ih =>
    rw [Level.sumsAfterComma, Level.sumsAfterComma]
    obtain ⟨hnone, hnone'⟩ | ⟨ts', us', hsome, hsome', hts'⟩ := passing?_renamed .comma hts
    · rw [hnone, hnone']
      exact .mk hts
    · rw [hsome, hsome']
      refine .bind (h.sum false hts') ?_
      rintro _ _ ⟨hts⟩
      refine .bind (ih hts) ?_
      rintro _ _ ⟨hts⟩
      exact .mk hts

theorem listed (h : deeper.Renames σ) (close : Token.Kind) (mark : Char) (hts : RenamedTokens σ ts us) :
    Agree (After σ (Expr.renameAll σ)) (deeper.listed close mark ts) (deeper.listed close mark us) := by
  refine .bind (h.sum false hts) ?_
  rintro _ _ ⟨hts⟩
  simp only [← hts.length_eq]
  refine .bind (h.sumsAfterComma _ hts) ?_
  rintro _ _ ⟨hts⟩
  exact .bind (agree_expect _ _ hts) fun _ _ hts => .mk hts

theorem arguments (h : deeper.Renames σ) (barred : Bool) (hts : RenamedTokens σ ts us) :
    Agree (After σ (Expr.renameAll σ)) (deeper.arguments barred ts) (deeper.arguments barred us) := by
  rw [Level.arguments, Level.arguments]
  obtain ⟨hparen, hparen'⟩ | ⟨ts', us', hsome, hsome', hts'⟩ := passing?_renamed .leftParen hts
  · rw [hparen, hparen']
    obtain ⟨hbrace, hbrace'⟩ | ⟨ts', us', hsome, hsome', hts'⟩ := passing?_renamed .leftBrace hts
    · rw [hbrace, hbrace']
      refine .bind (h.signed barred hts) ?_
      rintro _ _ ⟨hts⟩
      exact .mk hts
    · rw [hsome, hsome']
      exact h.listed _ _ hts'
  · rw [hsome, hsome']
    exact h.listed _ _ hts'

theorem functionPower (h : deeper.Renames σ) (barred : Bool) (hts : RenamedTokens σ ts us) :
    Agree (After σ (Option.map (Expr.rename σ))) (deeper.functionPower barred ts) (deeper.functionPower barred us) := by
  rw [Level.functionPower, Level.functionPower]
  obtain ⟨hnone, hnone'⟩ | ⟨ts', us', hsome, hsome', hts'⟩ := passing?_renamed .caret hts
  · rw [hnone, hnone']
    exact .mk hts
  · rw [hsome, hsome']
    refine .bind (h.exponent barred hts') ?_
    rintro _ _ ⟨hts⟩
    exact .mk hts

theorem degree (h : deeper.Renames σ) (hts : RenamedTokens σ ts us) :
    Agree (After σ (Option.map (Expr.rename σ))) (deeper.degree ts) (deeper.degree us) := by
  rw [Level.degree, Level.degree]
  obtain ⟨hnone, hnone'⟩ | ⟨ts', us', hsome, hsome', hts'⟩ := passing?_renamed .leftBracket hts
  · rw [hnone, hnone']
    exact .mk hts
  · rw [hsome, hsome']
    refine .bind (h.group _ _ hts') ?_
    rintro _ _ ⟨hts⟩
    exact .mk hts

theorem base (h : deeper.Renames σ) (barred : Bool) (hts : RenamedTokens σ ts us) :
    Agree (After σ (Expr.rename σ)) (deeper.base barred ts) (deeper.base barred us) := by
  rw [Level.base, Level.base]
  obtain ⟨hnone, hnone'⟩ | ⟨ts', us', hsome, hsome', hts'⟩ := passing?_renamed .underscore hts
  · rw [hnone, hnone']
    exact .mk hts
  · rw [hsome, hsome']
    exact h.argument barred hts'

theorem command (h : deeper.Renames σ) (name : Text) : (deeper.command name).Renames σ := by
  intro barred ts us hts
  rw [Level.command, Level.command]
  cases Command.ofName name with
  | fraction =>
    refine .bind (h.argument barred hts) ?_
    rintro _ _ ⟨hts⟩
    refine .bind (h.argument barred hts) ?_
    rintro _ _ ⟨hts⟩
    exact .mk hts
  | root =>
    refine .bind (h.degree hts) ?_
    rintro _ _ @⟨degree?, _, _, hts⟩
    refine .bind (h.argument barred hts) ?_
    rintro _ _ ⟨hts⟩
    cases degree? <;> exact .mk hts
  | abs =>
    refine .bind (h.argument barred hts) ?_
    rintro _ _ ⟨hts⟩
    exact .mk hts
  | log =>
    refine .bind (h.base barred hts) ?_
    rintro _ _ @⟨base, _, _, hts⟩
    refine .bind (h.functionPower barred hts) ?_
    rintro _ _ @⟨power, _, _, hts⟩
    refine .bind (h.arguments barred hts) ?_
    rintro _ _ @⟨args, _, _, hts⟩
    cases args with
    | nil => trivial
    | cons e more =>
      cases more with
      | nil =>
        have hraised : raised (.log (base.rename σ) (e.rename σ)) (power.map (Expr.rename σ)) =
            (raised (.log base e) power).rename σ := raised_rename (.log base e) power
        simp only [Expr.renameAll, hraised]
        exact .mk hts
      | cons => trivial
  | func f =>
    refine .bind (h.functionPower barred hts) ?_
    rintro _ _ @⟨power, _, _, hts⟩
    refine .bind (h.arguments barred hts) ?_
    rintro _ _ @⟨args, _, _, hts⟩
    have hraised : raised (.call f (Expr.renameAll σ args)) (power.map (Expr.rename σ)) =
        (raised (.call f args) power).rename σ := raised_rename (.call f args) power
    simp only [Expr.length_renameAll, hraised]
    split
    · exact .mk hts
    · trivial
  | unknown => trivial

theorem signedBody (h : deeper.Renames σ) : deeper.signedBody.Renames σ := by
  intro barred ts us hts
  rw [Level.signedBody, Level.signedBody]
  obtain ⟨hplus, hplus'⟩ | ⟨ts', us', hsome, hsome', hts'⟩ := passing?_renamed .plus hts
  · rw [hplus, hplus']
    obtain ⟨hminus, hminus'⟩ | ⟨ts', us', hsome, hsome', hts'⟩ := passing?_renamed .minus hts
    · rw [hminus, hminus']
      exact h.power h.exponent barred hts
    · rw [hsome, hsome']
      refine .bind (h.signed barred hts') ?_
      rintro _ _ ⟨hts⟩
      exact .mk hts
  · rw [hsome, hsome']
    exact h.signed barred hts'

theorem primaryBody (h : deeper.Renames σ) : deeper.primaryBody.Renames σ := by
  intro barred ts us hts
  cases hts with
  | nil => trivial
  | @cons x y ts us hx hts =>
    rw [Level.primaryBody, Level.primaryBody, hx.kind_eq]
    have hlexeme := hx.lexeme_eq
    cases hkind : x.kind with
    | number =>
      rw [hlexeme, if_neg (by simp [hkind])]
      exact .mk hts
    | symbol =>
      rw [hlexeme, if_pos hkind]
      exact .mk hts
    | leftParen | leftBracket | leftBrace => exact h.group _ _ hts
    | pipe =>
      refine .bind (h.sum true hts) ?_
      rintro _ _ ⟨hts⟩
      exact .bind (agree_expect _ _ hts) fun _ _ hts => .mk hts
    | command =>
      simp only [hx.commandName_eq]
      exact h.command _ barred hts
    | _ => trivial

end Level.Renames

theorem renames_level (n : Nat) : (level n).Renames σ := by
  induction n with
  | zero => exact ⟨fun _ _ _ _ => trivial, fun _ _ _ _ => trivial⟩
  | succ n ih => exact ⟨ih.signedBody, ih.primaryBody⟩

/-- Parsing commutes with renaming symbols. -/
theorem parse_renamed {ts us : List Token} (h : RenamedTokens σ ts us) :
    Agree (fun e e' => e' = e.rename σ) (parse ts) (parse us) := by
  rw [parse, parse, ← h.length_eq]
  split
  · trivial
  · refine .bind ((renames_level maxDepth).sum false h) ?_
    rintro _ _ ⟨hrest⟩
    cases hrest with
    | nil => rfl
    | cons => trivial

end LiveTex.Formula

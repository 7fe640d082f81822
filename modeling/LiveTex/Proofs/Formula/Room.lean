import LiveTex.Proofs.Formula.Completeness

/-!
The room for nesting. A rule with less room comes to the same result, or it reports that the formula nests
too deep.
-/

namespace LiveTex.Formula

/-- The same result, unless the room did not suffice. -/
def Tighter {α : Type} (x y : Except Error α) : Prop := x = y ∨ x = .error (.nestingTooDeep maxDepth)

namespace Tighter

variable {α β : Type}

theorem rfl {x : Except Error α} : Tighter x x := .inl (Eq.refl x)

theorem trans {x y z : Except Error α} (h : Tighter x y) (h' : Tighter y z) : Tighter x z := by
  obtain rfl | h := h
  · exact h'
  · exact .inr h

theorem bind {x y : Except Error α} {f g : α → Except Error β} (h : Tighter x y)
    (hrest : ∀ a, Tighter (f a) (g a)) : Tighter (x >>= f) (y >>= g) := by
  obtain rfl | rfl := h
  · cases x with
    | error e => exact .rfl
    | ok a => exact hrest a
  · exact .inr (Eq.refl _)

end Tighter

/-- One rule has less room than the other. -/
def Rule.Tighter (rule rule' : Rule) : Prop := ∀ barred ts, Formula.Tighter (rule barred ts) (rule' barred ts)

/-- One level is tighter than the other. -/
structure Level.Tighter (deeper deeper' : Level) : Prop where
  signed : deeper.signed.Tighter deeper'.signed
  primary : deeper.primary.Tighter deeper'.primary

namespace Level.Tighter

variable {deeper deeper' : Level} {exponent exponent' : Rule}

theorem power (h : deeper.Tighter deeper') (hexponent : exponent.Tighter exponent') :
    (deeper.power exponent).Tighter (deeper'.power exponent') := by
  intro barred ts
  refine .bind (.bind (h.primary barred ts) fun _ => .rfl) fun (base, ts) => ?_
  simp only
  cases passing? .caret ts with
  | none => exact .rfl
  | some ts => exact .bind (hexponent barred ts) fun _ => .rfl

theorem factors (h : deeper.Tighter deeper') (hexponent : exponent.Tighter exponent') (barred : Bool) (bound : Nat)
    (left : Expr) (ts : List Token) :
    Formula.Tighter (deeper.factors exponent barred bound left ts) (deeper'.factors exponent' barred bound left ts) := by
  induction bound generalizing left ts with
  | zero => exact .rfl
  | succ bound ih =>
    rw [Level.factors, Level.factors]
    cases Continuation.of barred ts with
    | operator op rest => exact .bind (h.signed barred rest) fun _ => ih _ _
    | juxtaposed => exact .bind (h.power hexponent barred ts) fun _ => ih _ _
    | none => exact .rfl

theorem product (h : deeper.Tighter deeper') (hexponent : exponent.Tighter exponent') :
    (deeper.product exponent).Tighter (deeper'.product exponent') :=
  fun barred ts => .bind (h.signed barred ts) fun _ => h.factors hexponent barred _ _ _

theorem terms (h : deeper.Tighter deeper') (hexponent : exponent.Tighter exponent') (barred : Bool) (bound : Nat)
    (left : Expr) (ts : List Token) :
    Formula.Tighter (deeper.terms exponent barred bound left ts) (deeper'.terms exponent' barred bound left ts) := by
  induction bound generalizing left ts with
  | zero => exact .rfl
  | succ bound ih =>
    cases ts with
    | nil => exact .rfl
    | cons t ts =>
      rw [Level.terms, Level.terms]
      cases t.termOperator? with
      | none => exact .rfl
      | some op => exact .bind (h.product hexponent barred ts) fun _ => ih _ _

theorem sumWith (h : deeper.Tighter deeper') (hexponent : exponent.Tighter exponent') :
    (deeper.sumWith exponent).Tighter (deeper'.sumWith exponent') :=
  fun barred ts => .bind (h.product hexponent barred ts) fun _ => h.terms hexponent barred _ _ _

theorem exponentWithin (h : deeper.Tighter deeper') (bound : Nat) :
    (deeper.exponentWithin bound).Tighter (deeper'.exponentWithin bound) := by
  induction bound with
  | zero => exact h.signed
  | succ bound ih =>
    intro barred ts
    simp only [Level.exponentWithin]
    cases passing? .leftBrace ts with
    | none => exact h.signed barred ts
    | some ts => exact .bind (h.sumWith ih false ts) fun _ => .rfl

theorem sum (h : deeper.Tighter deeper') : deeper.sum.Tighter deeper'.sum :=
  fun barred ts => h.sumWith (h.exponentWithin ts.length) barred ts

theorem group (h : deeper.Tighter deeper') (close : Token.Kind) (mark : Char) (ts : List Token) :
    Formula.Tighter (deeper.group close mark ts) (deeper'.group close mark ts) :=
  .bind (h.sum false ts) fun _ => .rfl

theorem argument (h : deeper.Tighter deeper') : deeper.argument.Tighter deeper'.argument := by
  intro barred ts
  rw [Level.argument, Level.argument]
  cases passing? .leftBrace ts with
  | some ts => exact h.group _ _ ts
  | none => exact h.primary barred ts

theorem sumsAfterComma (h : deeper.Tighter deeper') (bound : Nat) (ts : List Token) :
    Formula.Tighter (deeper.sumsAfterComma bound ts) (deeper'.sumsAfterComma bound ts) := by
  induction bound generalizing ts with
  | zero => exact .rfl
  | succ bound ih =>
    rw [Level.sumsAfterComma, Level.sumsAfterComma]
    cases passing? .comma ts with
    | none => exact .rfl
    | some ts => exact .bind (h.sum false ts) fun _ => .bind (ih _) fun _ => .rfl

theorem listed (h : deeper.Tighter deeper') (close : Token.Kind) (mark : Char) (ts : List Token) :
    Formula.Tighter (deeper.listed close mark ts) (deeper'.listed close mark ts) :=
  .bind (h.sum false ts) fun _ => .bind (h.sumsAfterComma _ _) fun _ => .rfl

theorem arguments (h : deeper.Tighter deeper') (barred : Bool) (ts : List Token) :
    Formula.Tighter (deeper.arguments barred ts) (deeper'.arguments barred ts) := by
  rw [Level.arguments, Level.arguments]
  cases passing? .leftParen ts with
  | some ts => exact h.listed _ _ ts
  | none =>
    cases passing? .leftBrace ts with
    | some ts => exact h.listed _ _ ts
    | none => exact .bind (h.signed barred ts) fun _ => .rfl

theorem functionPower (h : deeper.Tighter deeper') (barred : Bool) (ts : List Token) :
    Formula.Tighter (deeper.functionPower barred ts) (deeper'.functionPower barred ts) := by
  rw [Level.functionPower, Level.functionPower]
  cases passing? .caret ts with
  | none => exact .rfl
  | some ts => exact .bind (h.exponentWithin _ barred ts) fun _ => .rfl

theorem degree (h : deeper.Tighter deeper') (ts : List Token) :
    Formula.Tighter (deeper.degree ts) (deeper'.degree ts) := by
  rw [Level.degree, Level.degree]
  cases passing? .leftBracket ts with
  | none => exact .rfl
  | some ts => exact .bind (h.group _ _ ts) fun _ => .rfl

theorem base (h : deeper.Tighter deeper') (barred : Bool) (ts : List Token) :
    Formula.Tighter (deeper.base barred ts) (deeper'.base barred ts) := by
  rw [Level.base, Level.base]
  cases passing? .underscore ts with
  | none => exact .rfl
  | some ts => exact h.argument barred ts

theorem command (h : deeper.Tighter deeper') (name : Text) : (deeper.command name).Tighter (deeper'.command name) := by
  intro barred ts
  rw [Level.command, Level.command]
  cases Command.ofName name with
  | fraction => exact .bind (h.argument barred ts) fun _ => .bind (h.argument barred _) fun _ => .rfl
  | root => exact .bind (h.degree ts) fun _ => .bind (h.argument barred _) fun _ => .rfl
  | abs => exact .bind (h.argument barred ts) fun _ => .rfl
  | log =>
    exact .bind (h.base barred ts) fun _ => .bind (h.functionPower barred _) fun _ =>
      .bind (h.arguments barred _) fun _ => .rfl
  | func f => exact .bind (h.functionPower barred ts) fun _ => .bind (h.arguments barred _) fun _ => .rfl
  | unknown => exact .rfl

theorem signedBody (h : deeper.Tighter deeper') : deeper.signedBody.Tighter deeper'.signedBody := by
  intro barred ts
  rw [Level.signedBody, Level.signedBody]
  cases passing? .plus ts with
  | some ts => exact h.signed barred ts
  | none =>
    cases passing? .minus ts with
    | some ts => exact .bind (h.signed barred ts) fun _ => .rfl
    | none => exact h.power (fun barred ts => h.exponentWithin _ barred ts) barred ts

theorem primaryBody (h : deeper.Tighter deeper') : deeper.primaryBody.Tighter deeper'.primaryBody := by
  intro barred ts
  cases ts with
  | nil => exact .rfl
  | cons t ts =>
    rw [Level.primaryBody, Level.primaryBody]
    cases t.kind with
    | leftParen | leftBracket | leftBrace => exact h.group _ _ ts
    | pipe => exact .bind (h.sum true ts) fun _ => .rfl
    | command => exact h.command _ barred ts
    | _ => exact .rfl

end Level.Tighter

/-- One level less is tighter. -/
theorem tighter_level_succ (n : Nat) : (level n).Tighter (level (n + 1)) := by
  induction n with
  | zero => exact ⟨fun _ _ => .inr rfl, fun _ _ => .inr rfl⟩
  | succ n ih => exact ⟨ih.signedBody, ih.primaryBody⟩

/-- Less room is tighter. -/
theorem tighter_level (levels n : Nat) : (level n).Tighter (level (levels + n)) := by
  induction levels with
  | zero =>
    rw [Nat.zero_add]
    exact ⟨fun _ _ => .rfl, fun _ _ => .rfl⟩
  | succ levels ih =>
    have hnext := tighter_level_succ (levels + n)
    rw [Nat.add_right_comm]
    exact ⟨fun barred ts => (ih.signed barred ts).trans (hnext.signed barred ts),
      fun barred ts => (ih.primary barred ts).trans (hnext.primary barred ts)⟩

/-- A formula that can be read with more room is parsed to the same tree, or it nests too deep. -/
theorem parse_of_reads {levels : Nat} {ts : List Token} {e : Expr} (hlength : ts.length ≤ maxTokens)
    (h : Reads (levels + maxDepth) (.sum false) ts [e] []) :
    parse ts = .ok e ∨ parse ts = .error (.nestingTooDeep maxDepth) := by
  obtain ⟨e', he, hsum⟩ := h.runs ts.length (Nat.le_refl _)
  cases he
  rw [parse, if_neg (Nat.not_lt_of_le hlength)]
  obtain heq | htight := (tighter_level levels maxDepth).sum false ts
  · left
    rw [heq, Level.sum, hsum]
    rfl
  · right
    rw [htight]
    rfl

/-- What parsing comes to, when it is known how much room the tokens need. -/
theorem parse_eq_of_reads_iff {ts : List Token} {e : Expr} {k : Nat}
    (h : ∀ n, Reads n (.sum false) ts [e] [] ↔ k ≤ n) : parse ts =
      if maxTokens < ts.length then .error (.tooLong ts.length maxTokens)
      else if maxDepth < k then .error (.nestingTooDeep maxDepth) else .ok e := by
  split
  · next hlong => rw [parse, if_pos hlong]
  · next hlong =>
    have hlength : ts.length ≤ maxTokens := Nat.le_of_not_lt hlong
    split
    · next hdeep =>
      have hreads : Reads (k - maxDepth + maxDepth) (.sum false) ts [e] [] := (h _).mpr (by omega)
      refine (parse_of_reads hlength hreads).resolve_left fun hok => ?_
      have hroom := (h maxDepth).mp (parse_eq_ok_iff.mp hok).2
      omega
    · next hdeep => exact parse_eq_ok_iff.mpr ⟨hlength, (h maxDepth).mpr (Nat.le_of_not_lt hdeep)⟩

end LiveTex.Formula

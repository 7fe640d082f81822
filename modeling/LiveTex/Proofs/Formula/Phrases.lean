import LiveTex.Proofs.Formula.Completeness

/-!
Phrases read off their first tokens. Where the first token settles which rule of the grammar applies, a
phrase is read exactly when the parts of this rule are.
-/

namespace LiveTex.Formula

variable {n : Nat} {barred : Bool} {t : Token} {ts rest : List Token} {e : Expr} {es : List Expr}

theorem reads_marks_bang_iff (ht : t.kind = .bang) :
    Reads n (.marks e) (t :: ts) es rest ↔ Reads n (.marks (.factorial e)) ts es rest := by
  refine ⟨fun h => ?_, .mark ht⟩
  cases h with
  | marksEnd hend => simp [ht] at hend
  | mark _ h => exact h

theorem reads_marks_end_iff (hend : passing? .bang ts = none) :
    Reads n (.marks e) ts es rest ↔ es = [e] ∧ rest = ts := by
  constructor
  · intro h
    cases h with
    | marksEnd => exact ⟨rfl, rfl⟩
    | mark ht => simp [ht] at hend
  · rintro ⟨rfl, rfl⟩
    exact .marksEnd hend

/-- The rest of a power when its base has been read as far as `b`: marks, an exponent, and marks. -/
inductive PowerFrom (n : Nat) (b : Expr) (ts : List Token) : List Expr → List Token → Prop
  | power {es : List Expr} {rest : List Token} (hmarks : Reads n (.marks b) ts es rest)
      (hend : passing? .caret rest = none) : PowerFrom n b ts es rest
  | raised {t : Token} {ts₂ ts₃ rest : List Token} {b' e : Expr} {es : List Expr}
      (hmarks : Reads n (.marks b) ts [b'] (t :: ts₂)) (ht : t.kind = .caret)
      (hexponent : Reads n .exponent ts₂ [e] ts₃) (hmore : Reads n (.marks (.binary .pow b' e)) ts₃ es rest) :
      PowerFrom n b ts es rest

theorem reads_power_iff :
    Reads n .power ts es rest ↔ ∃ b ts₁, Reads n .primary ts [b] ts₁ ∧ PowerFrom n b ts₁ es rest := by
  constructor
  · intro h
    cases h with
    | power hbase hmarks hend => exact ⟨_, _, hbase, .power hmarks hend⟩
    | raised hbase hmarks ht hexponent hmore => exact ⟨_, _, hbase, .raised hmarks ht hexponent hmore⟩
  · rintro ⟨b, ts₁, hbase, hmarks | ⟨hmarks, ht, hexponent, hmore⟩⟩
    · exact .power hbase hmarks ‹_›
    · exact .raised hbase hmarks ht hexponent hmore

theorem powerFrom_bang_iff (ht : t.kind = .bang) :
    PowerFrom n e (t :: ts) es rest ↔ PowerFrom n (.factorial e) ts es rest := by
  constructor
  · rintro (⟨hmarks, hend⟩ | ⟨hmarks, hcaret, hexponent, hmore⟩)
    · exact .power ((reads_marks_bang_iff ht).mp hmarks) hend
    · exact .raised ((reads_marks_bang_iff ht).mp hmarks) hcaret hexponent hmore
  · rintro (⟨hmarks, hend⟩ | ⟨hmarks, hcaret, hexponent, hmore⟩)
    · exact .power ((reads_marks_bang_iff ht).mpr hmarks) hend
    · exact .raised ((reads_marks_bang_iff ht).mpr hmarks) hcaret hexponent hmore

theorem powerFrom_end_iff (hbang : passing? .bang ts = none) (hcaret : passing? .caret ts = none) :
    PowerFrom n e ts es rest ↔ es = [e] ∧ rest = ts := by
  constructor
  · rintro (⟨hmarks, -⟩ | ⟨hmarks, ht, -⟩)
    · exact (reads_marks_end_iff hbang).mp hmarks
    · obtain ⟨-, rfl⟩ := (reads_marks_end_iff hbang).mp hmarks
      simp [ht] at hcaret
  · rintro ⟨rfl, rfl⟩
    exact .power (.marksEnd hbang) hcaret

theorem powerFrom_caret_iff (ht : t.kind = .caret) : PowerFrom n e (t :: ts) es rest ↔
    ∃ x ts₁, Reads n .exponent ts [x] ts₁ ∧ Reads n (.marks (.binary .pow e x)) ts₁ es rest := by
  have hbang : passing? .bang (t :: ts) = none := by simp [ht]
  constructor
  · rintro (⟨hmarks, hend⟩ | ⟨hmarks, -, hexponent, hmore⟩)
    · obtain ⟨-, rfl⟩ := (reads_marks_end_iff hbang).mp hmarks
      simp [ht] at hend
    · obtain ⟨hb, htail⟩ := (reads_marks_end_iff hbang).mp hmarks
      cases hb
      cases htail
      exact ⟨_, _, hexponent, hmore⟩
  · rintro ⟨x, ts₁, hexponent, hmore⟩
    exact .raised (.marksEnd hbang) ht hexponent hmore

theorem reads_signed_minus_iff (ht : t.kind = .minus) : Reads n .signed (t :: ts) es rest ↔
    ∃ m, n = m + 1 ∧ ∃ e, es = [.neg e] ∧ Reads m .signed ts [e] rest := by
  constructor
  · intro h
    cases h with
    | plus hplus => simp [ht] at hplus
    | minus _ h => exact ⟨_, rfl, _, rfl, h⟩
    | unsigned _ hminus => simp [ht] at hminus
  · rintro ⟨m, rfl, e, rfl, h⟩
    exact .minus ht h

theorem reads_signed_unsigned_iff (hplus : passing? .plus ts = none) (hminus : passing? .minus ts = none) :
    Reads n .signed ts es rest ↔ ∃ m, n = m + 1 ∧ Reads m .power ts es rest := by
  constructor
  · intro h
    cases h with
    | plus ht => simp [ht] at hplus
    | minus ht => simp [ht] at hminus
    | unsigned _ _ h => exact ⟨_, rfl, h⟩
  · rintro ⟨m, rfl, h⟩
    exact .unsigned hplus hminus h

theorem reads_factors_operator_iff {op : Operator} (ht : t.factorOperator? = some op) :
    Reads n (.factors barred e) (t :: ts) es rest ↔
      ∃ r ts₁, Reads n .signed ts [r] ts₁ ∧ Reads n (.factors barred (.binary op e r)) ts₁ es rest := by
  have hnext : Continuation.of barred (t :: ts) = .operator op ts := by simp [Continuation.of, ht]
  constructor
  · intro h
    cases h with
    | factorsEnd hend => simp [hnext] at hend
    | factor hnext' hright hmore =>
      rw [hnext] at hnext'
      cases hnext'
      exact ⟨_, _, hright, hmore⟩
    | juxtaposed hnext' => simp [hnext] at hnext'
  · rintro ⟨r, ts₁, hright, hmore⟩
    exact .factor hnext hright hmore

theorem reads_factors_juxtaposed_iff (hnext : Continuation.of barred ts = .juxtaposed) :
    Reads n (.factors barred e) ts es rest ↔
      ∃ r ts₁, Reads n .power ts [r] ts₁ ∧ Reads n (.factors barred (.binary .mul e r)) ts₁ es rest := by
  constructor
  · intro h
    cases h with
    | factorsEnd hend => simp [hnext] at hend
    | factor hnext' => simp [hnext] at hnext'
    | juxtaposed _ hright hmore => exact ⟨_, _, hright, hmore⟩
  · rintro ⟨r, ts₁, hright, hmore⟩
    exact .juxtaposed hnext hright hmore

theorem reads_factors_end_iff (hend : Continuation.of barred ts = .none) :
    Reads n (.factors barred e) ts es rest ↔ es = [e] ∧ rest = ts := by
  constructor
  · intro h
    cases h with
    | factorsEnd => exact ⟨rfl, rfl⟩
    | factor hnext => simp [hend] at hnext
    | juxtaposed hnext => simp [hend] at hnext
  · rintro ⟨rfl, rfl⟩
    exact .factorsEnd hend

theorem reads_product_iff : Reads n (.product barred) ts es rest ↔
    ∃ l ts₁, Reads n .signed ts [l] ts₁ ∧ Reads n (.factors barred l) ts₁ es rest := by
  constructor
  · rintro ⟨hfirst, hmore⟩
    exact ⟨_, _, ‹_›, ‹_›⟩
  · rintro ⟨l, ts₁, hfirst, hmore⟩
    exact .product hfirst hmore

theorem reads_terms_operator_iff {op : Operator} (ht : t.termOperator? = some op) :
    Reads n (.terms barred e) (t :: ts) es rest ↔
      ∃ r ts₁, Reads n (.product barred) ts [r] ts₁ ∧ Reads n (.terms barred (.binary op e r)) ts₁ es rest := by
  constructor
  · intro h
    cases h with
    | termsEnd hend => simp [ht] at hend
    | term ht' hright hmore =>
      rw [ht] at ht'
      cases ht'
      exact ⟨_, _, hright, hmore⟩
  · rintro ⟨r, ts₁, hright, hmore⟩
    exact .term ht hright hmore

theorem reads_terms_end_iff (hend : ts.head?.bind Token.termOperator? = none) :
    Reads n (.terms barred e) ts es rest ↔ es = [e] ∧ rest = ts := by
  constructor
  · intro h
    cases h with
    | termsEnd => exact ⟨rfl, rfl⟩
    | term ht => simp [ht] at hend
  · rintro ⟨rfl, rfl⟩
    exact .termsEnd hend

theorem reads_sum_iff : Reads n (.sum barred) ts es rest ↔
    ∃ l ts₁, Reads n (.product barred) ts [l] ts₁ ∧ Reads n (.terms barred l) ts₁ es rest := by
  constructor
  · intro h
    cases h with
    | sum hfirst hmore => exact ⟨_, _, hfirst, hmore⟩
  · rintro ⟨l, ts₁, hfirst, hmore⟩
    exact .sum hfirst hmore

/-!
Groups and lists.
-/

theorem reads_exponent_braces_iff (ht : t.kind = .leftBrace) : Reads n .exponent (t :: ts) es rest ↔
    ∃ c, c.kind = .rightBrace ∧ Reads n (.sum false) ts es (c :: rest) := by
  constructor
  · intro h
    cases h with
    | exponentGroup _ h hc => exact ⟨_, hc, h⟩
    | exponentSigned hbrace => simp [ht] at hbrace
  · rintro ⟨c, hc, h⟩
    exact .exponentGroup ht h hc

theorem reads_argument_braces_iff (ht : t.kind = .leftBrace) : Reads n .argument (t :: ts) es rest ↔
    ∃ c, c.kind = .rightBrace ∧ Reads n (.sum false) ts es (c :: rest) := by
  constructor
  · intro h
    cases h with
    | argumentGroup _ h hc => exact ⟨_, hc, h⟩
    | argumentPrimary hbrace => simp [ht] at hbrace
  · rintro ⟨c, hc, h⟩
    exact .argumentGroup ht h hc

theorem reads_degree_brackets_iff (ht : t.kind = .leftBracket) : Reads n .degree (t :: ts) es rest ↔
    ∃ c, c.kind = .rightBracket ∧ Reads n (.sum false) ts es (c :: rest) := by
  constructor
  · intro h
    cases h with
    | degreeEnd hend => simp [ht] at hend
    | degreeGroup _ h hc => exact ⟨_, hc, h⟩
  · rintro ⟨c, hc, h⟩
    exact .degreeGroup ht h hc

theorem reads_degree_end_iff (hend : passing? .leftBracket ts = none) :
    Reads n .degree ts es rest ↔ es = [] ∧ rest = ts := by
  constructor
  · intro h
    cases h with
    | degreeEnd => exact ⟨rfl, rfl⟩
    | degreeGroup ht => simp [ht] at hend
  · rintro ⟨rfl, rfl⟩
    exact .degreeEnd hend

theorem reads_base_underscore_iff (ht : t.kind = .underscore) :
    Reads n .base (t :: ts) es rest ↔ Reads n .argument ts es rest := by
  refine ⟨fun h => ?_, .baseArgument ht⟩
  cases h with
  | baseEnd hend => simp [ht] at hend
  | baseArgument _ h => exact h

theorem reads_raising_end_iff (hend : passing? .caret ts = none) :
    Reads n .raising ts es rest ↔ es = [] ∧ rest = ts := by
  constructor
  · intro h
    cases h with
    | raisingEnd => exact ⟨rfl, rfl⟩
    | raisingPower ht => simp [ht] at hend
  · rintro ⟨rfl, rfl⟩
    exact .raisingEnd hend

theorem reads_commas_comma_iff (ht : t.kind = .comma) : Reads n .commas (t :: ts) es rest ↔
    ∃ e ts₁, Reads n (.sum false) ts [e] ts₁ ∧ ∃ es', Reads n .commas ts₁ es' rest ∧ es = e :: es' := by
  constructor
  · intro h
    cases h with
    | commasEnd hend => simp [ht] at hend
    | comma _ hfirst hmore => exact ⟨_, _, hfirst, _, hmore, rfl⟩
  · rintro ⟨e, ts₁, hfirst, es', hmore, rfl⟩
    exact .comma ht hfirst hmore

theorem reads_commas_end_iff (hend : passing? .comma ts = none) :
    Reads n .commas ts es rest ↔ es = [] ∧ rest = ts := by
  constructor
  · intro h
    cases h with
    | commasEnd => exact ⟨rfl, rfl⟩
    | comma ht => simp [ht] at hend
  · rintro ⟨rfl, rfl⟩
    exact .commasEnd hend

theorem Token.Kind.closer?_leftParen {close : Token.Kind} :
    Token.Kind.leftParen.closer? = some close ↔ close = .rightParen := by
  simp [closer?, eq_comm]

/-- Arguments in parentheses are sums behind commas, but for the first comma. -/
theorem reads_arguments_parens_iff {comma : Token} (ht : t.kind = .leftParen) (hcomma : comma.kind = .comma) :
    Reads n .arguments (t :: ts) es rest ↔
      ∃ c, c.kind = .rightParen ∧ Reads n .commas (comma :: ts) es (c :: rest) := by
  constructor
  · intro h
    cases h with
    | argumentsListed hc _ hfirst hmore =>
      exact ⟨_, Token.Kind.closer?_leftParen.mp (ht ▸ hc), .comma hcomma hfirst hmore⟩
    | argumentsSigned hparen => simp [ht] at hparen
  · rintro ⟨c, hc, h⟩
    obtain ⟨e, ts₁, hfirst, es', hmore, rfl⟩ := (reads_commas_comma_iff hcomma).mp h
    exact .argumentsListed (by rw [ht, hc]; rfl) (by simp [ht]) hfirst hmore

/-!
Primaries.
-/

theorem reads_primary_number_iff (ht : t.kind = .number) : Reads n .primary (t :: ts) es rest ↔
    ∃ m, n = m + 1 ∧ es = [.number (Decimal.read t.lexeme)] ∧ rest = ts := by
  constructor
  · intro h
    cases h with
    | number => exact ⟨_, rfl, rfl, rfl⟩
    | group hc => simp [ht, Token.Kind.closer?] at hc
    | _ => simp_all
  · rintro ⟨m, rfl, rfl, rfl⟩
    exact .number ht

theorem reads_primary_symbol_iff (ht : t.kind = .symbol) : Reads n .primary (t :: ts) es rest ↔
    ∃ m, n = m + 1 ∧ es = [.symbol t.lexeme] ∧ rest = ts := by
  constructor
  · intro h
    cases h with
    | symbol => exact ⟨_, rfl, rfl, rfl⟩
    | group hc => simp [ht, Token.Kind.closer?] at hc
    | _ => simp_all
  · rintro ⟨m, rfl, rfl, rfl⟩
    exact .symbol ht

theorem reads_primary_parens_iff (ht : t.kind = .leftParen) : Reads n .primary (t :: ts) es rest ↔
    ∃ m, n = m + 1 ∧ ∃ c, c.kind = .rightParen ∧ Reads m (.sum false) ts es (c :: rest) := by
  constructor
  · intro h
    cases h with
    | group hc h => exact ⟨_, rfl, _, Token.Kind.closer?_leftParen.mp (ht ▸ hc), h⟩
    | _ => simp_all
  · rintro ⟨m, rfl, c, hc, h⟩
    exact .group (by rw [ht, hc]; rfl) h

theorem reads_primary_bars_iff (ht : t.kind = .pipe) : Reads n .primary (t :: ts) es rest ↔
    ∃ m, n = m + 1 ∧ ∃ e, (∃ c, c.kind = .pipe ∧ Reads m (.sum true) ts [e] (c :: rest)) ∧ es = [.abs e] := by
  constructor
  · intro h
    cases h with
    | group hc => simp [ht, Token.Kind.closer?] at hc
    | bars _ h hc => exact ⟨_, rfl, _, ⟨_, hc, h⟩, rfl⟩
    | _ => simp_all
  · rintro ⟨m, rfl, e, ⟨c, hc, h⟩, rfl⟩
    exact .bars ht h hc

section

variable (ht : t.kind = .command)

include ht

theorem reads_primary_fraction_iff (hname : Command.ofName t.commandName = .fraction) :
    Reads n .primary (t :: ts) es rest ↔ ∃ m, n = m + 1 ∧ ∃ a ts₁, Reads m .argument ts [a] ts₁ ∧
      ∃ b ts₂, Reads m .argument ts₁ [b] ts₂ ∧ es = [.binary .div a b] ∧ rest = ts₂ := by
  constructor
  · intro h
    cases h with
    | group hc => simp [ht, Token.Kind.closer?] at hc
    | fraction _ _ hnumerator hdenominator => exact ⟨_, rfl, _, _, hnumerator, _, _, hdenominator, rfl, rfl⟩
    | _ => simp_all
  · rintro ⟨m, rfl, a, ts₁, hnumerator, b, ts₂, hdenominator, rfl, rfl⟩
    exact .fraction ht hname hnumerator hdenominator

theorem reads_primary_root_iff (hname : Command.ofName t.commandName = .root) :
    Reads n .primary (t :: ts) es rest ↔ ∃ m, n = m + 1 ∧ ∃ ds ts₁, Reads m .degree ts ds ts₁ ∧
      ∃ e ts₂, Reads m .argument ts₁ [e] ts₂ ∧ es = [rooted e ds] ∧ rest = ts₂ := by
  constructor
  · intro h
    cases h with
    | group hc => simp [ht, Token.Kind.closer?] at hc
    | root _ _ hdegree hradicand => exact ⟨_, rfl, _, _, hdegree, _, _, hradicand, rfl, rfl⟩
    | _ => simp_all
  · rintro ⟨m, rfl, ds, ts₁, hdegree, e, ts₂, hradicand, rfl, rfl⟩
    exact .root ht hname hdegree hradicand

theorem reads_primary_log_iff (hname : Command.ofName t.commandName = .log) :
    Reads n .primary (t :: ts) es rest ↔ ∃ m, n = m + 1 ∧ ∃ b ts₁, Reads m .base ts [b] ts₁ ∧
      ∃ ps ts₂, Reads m .raising ts₁ ps ts₂ ∧ ∃ e ts₃, Reads m .arguments ts₂ [e] ts₃ ∧
        es = [raised (.log b e) ps.head?] ∧ rest = ts₃ := by
  constructor
  · intro h
    cases h with
    | group hc => simp [ht, Token.Kind.closer?] at hc
    | log _ _ hbase hpower harguments => exact ⟨_, rfl, _, _, hbase, _, _, hpower, _, _, harguments, rfl, rfl⟩
    | _ => simp_all
  · rintro ⟨m, rfl, b, ts₁, hbase, ps, ts₂, hpower, e, ts₃, harguments, rfl, rfl⟩
    exact .log ht hname hbase hpower harguments

theorem reads_primary_func_iff {f : Func} (hname : Command.ofName t.commandName = .func f) :
    Reads n .primary (t :: ts) es rest ↔ ∃ m, n = m + 1 ∧ ∃ ps ts₁, Reads m .raising ts ps ts₁ ∧
      ∃ args ts₂, Reads m .arguments ts₁ args ts₂ ∧ f.arity.admits args.length = true ∧
        es = [raised (.call f args) ps.head?] ∧ rest = ts₂ := by
  constructor
  · intro h
    cases h with
    | group hc => simp [ht, Token.Kind.closer?] at hc
    | func _ hname' hpower harguments harity =>
      rw [hname] at hname'
      cases hname'
      exact ⟨_, rfl, _, _, hpower, _, _, harguments, harity, rfl, rfl⟩
    | _ => simp_all
  · rintro ⟨m, rfl, ps, ts₁, hpower, args, ts₂, harguments, harity, rfl, rfl⟩
    exact .func ht hname hpower harguments harity

end

end LiveTex.Formula

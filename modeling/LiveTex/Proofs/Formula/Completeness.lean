import LiveTex.Proofs.Formula.Soundness

/-!
What the grammar derives, the rules read, whichever bounds they start from, as long as the bounds are not
below the number of tokens. So a derivation settles what parsing comes to.
-/

namespace LiveTex.Formula

/-- A rule reads one expression. -/
def Rule.Gives (rule : Rule) (barred : Bool) (ts : List Token) (es : List Expr) (rest : List Token) : Prop :=
  ∃ e, es = [e] ∧ rule barred ts = .ok (e, rest)

theorem Rule.gives_singleton {rule : Rule} {barred : Bool} {ts rest : List Token} {e : Expr} :
    rule.Gives barred ts [e] rest ↔ rule barred ts = .ok (e, rest) := by
  constructor
  · rintro ⟨e', he, hok⟩
    cases he
    exact hok
  · exact fun hok => ⟨e, rfl, hok⟩

/-- A rule reads the same exponents as the rule with a bound, from so many tokens. -/
def Level.ReadsExponents (deeper : Level) (most : Nat) (rule : Rule) : Prop :=
  ∀ barred ts es rest, ts.length ≤ most →
    (∀ bound, ts.length ≤ bound → (deeper.exponentWithin bound).Gives barred ts es rest) →
    rule.Gives barred ts es rest

open Level in
/-- What the rules with so much room make of a phrase. -/
def Phrase.Runs (room : Nat) (phrase : Phrase) (ts : List Token) (es : List Expr) (rest : List Token) : Prop :=
  match phrase with
  | .signed => ∀ barred, (level room).signed.Gives barred ts es rest
  | .primary => ∀ barred, (level room).primary.Gives barred ts es rest
  | .power => ∀ barred exponent, (level room).ReadsExponents ts.length exponent →
      ((level room).power exponent).Gives barred ts es rest
  | .exponent => ∀ barred bound, ts.length ≤ bound → ((level room).exponentWithin bound).Gives barred ts es rest
  | .argument => ∀ barred, (level room).argument.Gives barred ts es rest
  | .marks operand => ∃ e, es = [e] ∧ factorials operand ts = (e, rest)
  | .factors barred left => ∀ bound rounds, ts.length ≤ bound → ts.length ≤ rounds →
      ∃ e, es = [e] ∧ (level room).factors ((level room).exponentWithin bound) barred rounds left ts = .ok (e, rest)
  | .product barred => ∀ bound, ts.length ≤ bound →
      ((level room).product ((level room).exponentWithin bound)).Gives barred ts es rest
  | .terms barred left => ∀ bound rounds, ts.length ≤ bound → ts.length ≤ rounds →
      ∃ e, es = [e] ∧ (level room).terms ((level room).exponentWithin bound) barred rounds left ts = .ok (e, rest)
  | .sum barred => ∀ bound, ts.length ≤ bound →
      ((level room).sumWith ((level room).exponentWithin bound)).Gives barred ts es rest
  | .commas => ∀ rounds, ts.length ≤ rounds → (level room).sumsAfterComma rounds ts = .ok (es, rest)
  | .arguments => ∀ barred, (level room).arguments barred ts = .ok (es, rest)
  | .raising => ∀ barred, (level room).functionPower barred ts = .ok (es.head?, rest)
  | .degree => (level room).degree ts = .ok (es.head?, rest)
  | .base => ∀ barred, Rule.Gives (level room).base barred ts es rest

@[simp] theorem passing?_cons (kind : Token.Kind) (t : Token) (ts : List Token) :
    passing? kind (t :: ts) = if t.kind = kind then some ts else none := rfl

theorem level_signed (n : Nat) : (level (n + 1)).signed = (level n).signedBody := rfl

theorem level_primary (n : Nat) : (level (n + 1)).primary = (level n).primaryBody := rfl

namespace Level

variable {n : Nat} {ts rest : List Token} {es : List Expr} {e : Expr} {t c : Token}

theorem expect_cons {kind : Token.Kind} (mark : Char) (ht : t.kind = kind) : expect kind mark (t :: ts) = .ok ts :=
  if_pos ht

theorem readsExponents_exponentWithin (deeper : Level) {most bound : Nat} (h : most ≤ bound) :
    deeper.ReadsExponents most (deeper.exponentWithin bound) :=
  fun _ _ _ _ hmost hreads => hreads bound (Nat.le_trans hmost h)

theorem readsExponents_exponent (deeper : Level) (most : Nat) : deeper.ReadsExponents most deeper.exponent :=
  fun _ _ _ _ _ hreads => hreads _ (Nat.le_refl _)

/-- A group of braces, brackets or parentheses, whatever mark its error would name. -/
theorem group_of_runs {close : Token.Kind} (hc : c.kind = close) (h : (Phrase.sum false).Runs n ts es (c :: rest)) :
    ∃ e, es = [e] ∧ ∀ mark, (level n).group close mark ts = .ok (e, rest) := by
  obtain ⟨e, rfl, hsum⟩ := h ts.length (Nat.le_refl _)
  refine ⟨e, rfl, fun mark => ?_⟩
  rw [group, Level.sum, hsum, ok_bind]
  simp only [expect_cons mark hc]
  rfl

end Level

open Level in
/-- The rules read what the grammar derives. -/
theorem Reads.runs {n : Nat} {phrase : Phrase} {ts rest : List Token} {es : List Expr}
    (h : Reads n phrase ts es rest) : phrase.Runs n ts es rest := by
  induction h with
  | plus ht _ ih =>
    intro barred
    obtain ⟨e, rfl, hok⟩ := ih barred
    refine ⟨e, rfl, ?_⟩
    rw [level_signed, signedBody, passing?_cons, if_pos ht]
    exact hok
  | minus ht _ ih =>
    intro barred
    have hok := Rule.gives_singleton.mp (ih barred)
    refine ⟨_, rfl, ?_⟩
    rw [level_signed, signedBody, passing?_cons, passing?_cons, if_pos ht, if_neg (by simp [ht])]
    simp only [hok, ok_bind]
    rfl
  | unsigned hplus hminus _ ih =>
    intro barred
    obtain ⟨e, rfl, hok⟩ := ih barred _ (readsExponents_exponent _ _)
    refine ⟨e, rfl, ?_⟩
    rw [level_signed, signedBody, hplus, hminus]
    exact hok
  | number ht =>
    intro barred
    refine ⟨_, rfl, ?_⟩
    simp only [level_primary, primaryBody, ht]
  | symbol ht =>
    intro barred
    refine ⟨_, rfl, ?_⟩
    simp only [level_primary, primaryBody, ht]
  | group ht _ ih =>
    intro barred
    obtain ⟨e, rfl, hgroup⟩ := group_of_runs rfl ih
    refine ⟨e, rfl, ?_⟩
    rw [level_primary, primaryBody]
    split <;> simp_all [Token.Kind.closer?]
  | @bars n t c ts e rest ht _ hc ih =>
    intro barred
    have hok := Rule.gives_singleton.mp (ih ts.length (Nat.le_refl _))
    refine ⟨_, rfl, ?_⟩
    simp only [level_primary, primaryBody, ht, Level.sum, hok, ok_bind, expect_cons '|' hc]
    rfl
  | fraction ht hname _ _ ihNumerator ihDenominator =>
    intro barred
    have hnumerator := Rule.gives_singleton.mp (ihNumerator barred)
    have hdenominator := Rule.gives_singleton.mp (ihDenominator barred)
    refine ⟨_, rfl, ?_⟩
    simp only [level_primary, primaryBody, ht, command, hname, hnumerator, ok_bind, hdenominator]
    rfl
  | @root n t ts ts₁ ds e rest ht hname hds _ ihDegree ihRadicand =>
    intro barred
    have hradicand := Rule.gives_singleton.mp (ihRadicand barred)
    refine ⟨_, rfl, ?_⟩
    have hdegree : (level n).degree ts = .ok (ds.head?, ts₁) := ihDegree
    simp only [level_primary, primaryBody, ht, command, hname, hdegree, hradicand, ok_bind]
    cases ds <;> rfl
  | abs ht hname _ ih =>
    intro barred
    have hok := Rule.gives_singleton.mp (ih barred)
    refine ⟨_, rfl, ?_⟩
    simp only [level_primary, primaryBody, ht, command, hname, hok, ok_bind]
    rfl
  | @log n t ts ts₁ ts₂ b ps e rest ht hname _ _ _ ihBase ihPower ihArguments =>
    intro barred
    have hbase := Rule.gives_singleton.mp (ihBase barred)
    have hpower : (level n).functionPower barred ts₁ = .ok (ps.head?, ts₂) := ihPower barred
    have harguments : (level n).arguments barred ts₂ = .ok ([e], rest) := ihArguments barred
    refine ⟨_, rfl, ?_⟩
    simp only [level_primary, primaryBody, ht, command, hname, hbase, hpower, harguments, ok_bind]
    rfl
  | @func n t ts ts₁ f ps args rest ht hname _ _ harity ihPower ihArguments =>
    intro barred
    have hpower : (level n).functionPower barred ts = .ok (ps.head?, ts₁) := ihPower barred
    have harguments : (level n).arguments barred ts₁ = .ok (args, rest) := ihArguments barred
    refine ⟨_, rfl, ?_⟩
    simp only [level_primary, primaryBody, ht, command, hname, hpower, harguments, ok_bind, harity]
    rfl
  | @marksEnd n e ts hend =>
    refine ⟨e, rfl, ?_⟩
    cases ts with
    | nil => rfl
    | cons t ts =>
      rw [factorials, if_neg]
      intro ht
      simp [ht] at hend
  | mark ht _ ih =>
    obtain ⟨e', rfl, hok⟩ := ih
    refine ⟨e', rfl, ?_⟩
    rw [factorials, if_pos ht, hok]
  | power _ _ hend ihBase ihMarks =>
    intro barred exponent _
    have hprimary := Rule.gives_singleton.mp (ihBase barred)
    obtain ⟨e, rfl, hmarks⟩ := ihMarks
    refine ⟨e, rfl, ?_⟩
    simp only [Level.power, marked, hprimary, ok_bind, hmarks]
    simp only [hend, pure, Except.pure, ok_bind]
  | @raised n t ts ts₁ ts₂ ts₃ b b' e es rest hbase hmarks ht _ _ ihBase ihMarks ihExponent ihMore =>
    intro barred exponent hexponent
    have hprimary := Rule.gives_singleton.mp (ihBase barred)
    obtain ⟨y, hy, hfirst⟩ := ihMarks
    cases hy
    have hlength := hbase.length_le
    have hlength' := hmarks.length_le
    simp only [Phrase.advances, if_true, Bool.false_eq_true, if_false, List.length_cons] at hlength hlength'
    have hraised := Rule.gives_singleton.mp (hexponent barred ts₂ [e] ts₃ (by omega) (ihExponent barred))
    obtain ⟨e', rfl, hmore⟩ := ihMore
    refine ⟨e', rfl, ?_⟩
    simp only [Level.power, marked, hprimary, ok_bind, hfirst, pure, Except.pure, passing?_cons, ht, if_true, hraised,
      hmore]
  | @exponentGroup n t c ts es rest ht hsum hc ih =>
    intro barred bound hbound
    obtain ⟨bound, rfl⟩ : ∃ b, bound = b + 1 := ⟨bound - 1, by simp at hbound; omega⟩
    obtain ⟨e, rfl, hok⟩ := ih bound (by simpa using hbound)
    refine ⟨e, rfl, ?_⟩
    simp only [exponentWithin, passing?_cons, ht, if_true, hok, ok_bind, expect_cons '}' hc]
    rfl
  | @exponentSigned n ts es rest hbrace _ ih =>
    intro barred bound _
    obtain ⟨e, rfl, hok⟩ := ih barred
    refine ⟨e, rfl, ?_⟩
    cases bound with
    | zero => exact hok
    | succ bound => simp only [exponentWithin, hbrace, hok]
  | @factorsEnd n barred l ts hend =>
    intro bound rounds _ _
    refine ⟨l, rfl, ?_⟩
    cases rounds with
    | zero => rfl
    | succ rounds => simp only [Level.factors, hend]
  | @factor n barred l op ts ts₁ ts₂ r es rest hnext hright _ ihRight ihMore =>
    intro bound rounds hbound hrounds
    obtain ⟨t, -, rfl⟩ := Continuation.of_eq_operator hnext
    have hlength := hright.length_lt rfl
    simp only [List.length_cons] at hbound hrounds
    obtain ⟨rounds, rfl⟩ : ∃ k, rounds = k + 1 := ⟨rounds - 1, by omega⟩
    have hsigned := Rule.gives_singleton.mp (ihRight barred)
    obtain ⟨e, rfl, hmore⟩ := ihMore bound rounds (by omega) (by omega)
    refine ⟨e, rfl, ?_⟩
    simp only [Level.factors, hnext, hsigned, ok_bind, hmore]
  | @juxtaposed n barred l ts ts₂ r es rest hnext hright _ ihRight ihMore =>
    intro bound rounds hbound hrounds
    have hlength := hright.length_lt rfl
    obtain ⟨rounds, rfl⟩ : ∃ k, rounds = k + 1 := ⟨rounds - 1, by omega⟩
    have hpower := Rule.gives_singleton.mp (ihRight barred _ (readsExponents_exponentWithin _ hbound))
    obtain ⟨e, rfl, hmore⟩ := ihMore bound rounds (by omega) (by omega)
    refine ⟨e, rfl, ?_⟩
    simp only [Level.factors, hnext, hpower, ok_bind, hmore]
  | @product n barred l ts ts₁ es rest hfirst _ ihFirst ihMore =>
    intro bound hbound
    have hlength := hfirst.length_lt rfl
    have hsigned := Rule.gives_singleton.mp (ihFirst barred)
    obtain ⟨e, rfl, hmore⟩ := ihMore bound ts₁.length (by omega) (Nat.le_refl _)
    refine ⟨e, rfl, ?_⟩
    simp only [Level.product, hsigned, ok_bind, hmore]
  | @termsEnd n barred l ts hend =>
    intro bound rounds _ _
    refine ⟨l, rfl, ?_⟩
    cases rounds with
    | zero => rfl
    | succ rounds =>
      cases ts with
      | nil => rfl
      | cons t ts =>
        have hnone : t.termOperator? = none := hend
        simp only [Level.terms, hnone]
  | @term n barred l op t ts ts₁ r es rest hop hright _ ihRight ihMore =>
    intro bound rounds hbound hrounds
    have hlength := hright.length_lt rfl
    simp only [List.length_cons] at hbound hrounds
    obtain ⟨rounds, rfl⟩ : ∃ k, rounds = k + 1 := ⟨rounds - 1, by omega⟩
    have hproduct := Rule.gives_singleton.mp (ihRight bound (by omega))
    obtain ⟨e, rfl, hmore⟩ := ihMore bound rounds (by omega) (by omega)
    refine ⟨e, rfl, ?_⟩
    simp only [Level.terms, hop, hproduct, ok_bind, hmore]
  | @sum n barred l ts ts₁ es rest hfirst _ ihFirst ihMore =>
    intro bound hbound
    have hlength := hfirst.length_lt rfl
    have hproduct := Rule.gives_singleton.mp (ihFirst bound hbound)
    obtain ⟨e, rfl, hmore⟩ := ihMore bound ts₁.length (by omega) (Nat.le_refl _)
    refine ⟨e, rfl, ?_⟩
    simp only [Level.sumWith, hproduct, ok_bind, hmore]
  | @argumentGroup n t c ts es rest ht _ hc ih =>
    intro barred
    obtain ⟨e, rfl, hok⟩ := group_of_runs hc ih
    refine ⟨e, rfl, ?_⟩
    simp only [argument, passing?_cons, ht, if_true, hok]
  | @argumentPrimary n ts es rest hbrace _ ih =>
    intro barred
    obtain ⟨e, rfl, hok⟩ := ih barred
    refine ⟨e, rfl, ?_⟩
    simp only [argument, hbrace, hok]
  | @commasEnd n ts hend =>
    intro rounds _
    cases rounds with
    | zero => rfl
    | succ rounds => simp only [sumsAfterComma, hend]
  | @comma n t ts ts₁ e es rest ht hfirst _ ihFirst ihMore =>
    intro rounds hrounds
    have hlength := hfirst.length_lt rfl
    simp only [List.length_cons] at hrounds
    obtain ⟨rounds, rfl⟩ : ∃ k, rounds = k + 1 := ⟨rounds - 1, by omega⟩
    have hsum := Rule.gives_singleton.mp (ihFirst ts.length (Nat.le_refl _))
    have hmore := ihMore rounds (by omega)
    simp only [sumsAfterComma, passing?_cons, ht, if_true, Level.sum, hsum, ok_bind, hmore]
    rfl
  | @argumentsListed n t c ts ts₁ e es rest ht hbracket _ _ ihFirst ihMore =>
    intro barred
    have hsum := Rule.gives_singleton.mp (ihFirst ts.length (Nat.le_refl _))
    have hmore := ihMore ts₁.length (Nat.le_refl _)
    have hlisted (mark : Char) : (level n).listed c.kind mark ts = .ok (e :: es, rest) := by
      simp only [listed, Level.sum, hsum, ok_bind, hmore, expect_cons mark rfl]
      rfl
    rw [Level.arguments, passing?_cons, passing?_cons]
    cases hkind : t.kind <;> simp_all [Token.Kind.closer?]
  | @argumentsSigned n ts es rest hparen hbrace _ ih =>
    intro barred
    obtain ⟨e, rfl, hok⟩ := ih barred
    simp only [Level.arguments, hparen, hbrace, hok, ok_bind]
    rfl
  | @raisingEnd n ts hend =>
    intro barred
    simp only [functionPower, hend, List.head?_nil]
  | @raisingPower n t ts es rest ht _ ih =>
    intro barred
    obtain ⟨e, rfl, hok⟩ := ih barred ts.length (Nat.le_refl _)
    simp only [functionPower, passing?_cons, ht, if_true, Level.exponent, hok, ok_bind]
    rfl
  | @degreeEnd n ts hend =>
    rw [Phrase.Runs, Level.degree, hend]
    rfl
  | @degreeGroup n t c ts es rest ht _ hc ih =>
    obtain ⟨e, rfl, hok⟩ := group_of_runs hc ih
    rw [Phrase.Runs, Level.degree, passing?_cons, if_pos ht]
    simp only [hok, ok_bind]
    rfl
  | @baseEnd n ts hend =>
    intro barred
    refine ⟨_, rfl, ?_⟩
    simp only [Level.base, hend]
  | @baseArgument n t ts es rest ht _ ih =>
    intro barred
    obtain ⟨e, rfl, hok⟩ := ih barred
    refine ⟨e, rfl, ?_⟩
    simp only [Level.base, passing?_cons, ht, if_true, hok]

/-- A formula is parsed when it is a sum with as much room as there may be, and not too long. -/
theorem parse_eq_ok_iff {ts : List Token} {e : Expr} :
    parse ts = .ok e ↔ ts.length ≤ maxTokens ∧ Reads maxDepth (.sum false) ts [e] [] := by
  refine ⟨reads_of_parse, ?_⟩
  rintro ⟨hlength, hreads⟩
  have hsum := Rule.gives_singleton.mp (hreads.runs ts.length (Nat.le_refl _))
  rw [parse, if_neg (Nat.not_lt_of_le hlength), Level.sum, hsum, ok_bind]
  rfl

end LiveTex.Formula

import LiveTex.Proofs.Formula.Grammar

/-!
What the rules read, the grammar derives. Rules with a bound are sound as long as the bound is not below
the number of tokens, so that they never stop early.
-/

namespace LiveTex.Formula

theorem bind_eq_ok {α β : Type} {x : Except Error α} {f : α → Except Error β} {b : β}
    (h : x >>= f = .ok b) : ∃ a, x = .ok a ∧ f a = .ok b := by
  cases x with
  | error e => cases h
  | ok a => exact ⟨a, rfl, h⟩

theorem ok_bind {α β : Type} (a : α) (f : α → Except Error β) : (Except.ok a >>= f) = f a := rfl

theorem expect_eq_ok {kind : Token.Kind} {mark : Char} {ts rest : List Token}
    (h : expect kind mark ts = .ok rest) : ∃ t, t.kind = kind ∧ ts = t :: rest := by
  cases ts with
  | nil => cases h
  | cons t ts =>
    rw [expect] at h
    split at h
    · next ht => cases h; exact ⟨t, ht, rfl⟩
    · cases h

/-- Taking up factorial marks is a phrase of its own. -/
theorem reads_factorials (n : Nat) (e : Expr) (ts : List Token) :
    Reads n (.marks e) ts [(factorials e ts).1] (factorials e ts).2 := by
  induction ts generalizing e with
  | nil => exact .marksEnd rfl
  | cons t ts ih =>
    rw [factorials]
    split
    · next ht => exact .mark ht (ih _)
    · next ht => exact .marksEnd (by simp [passing?, ht])

/-- What a rule reads from at most `bound` tokens, the phrase derives. -/
def Rule.Sound (rule : Rule) (n bound : Nat) (phrase : Bool → Phrase) : Prop :=
  ∀ barred ts e rest, ts.length ≤ bound → rule barred ts = .ok (e, rest) →
    Reads n (phrase barred) ts [e] rest

namespace Level

variable {n bound : Nat} {deeper : Level}

/-- The two rules of the level read what the grammar derives with so much room. -/
structure Sound (deeper : Level) (n : Nat) : Prop where
  signed : ∀ bound, deeper.signed.Sound n bound fun _ => .signed
  primary : ∀ bound, deeper.primary.Sound n bound fun _ => .primary

theorem sound_power {exponent : Rule} (h : deeper.Sound n)
    (hexponent : exponent.Sound n bound fun _ => .exponent) :
    (deeper.power exponent).Sound n bound fun _ => .power := by
  intro barred ts e rest hbound hok
  rw [power, marked] at hok
  obtain ⟨⟨b', ts₂⟩, hmarked, hok⟩ := bind_eq_ok hok
  obtain ⟨⟨b, ts₁⟩, hbase, hmarks⟩ := bind_eq_ok hmarked
  have hbase := h.primary bound barred ts b ts₁ hbound hbase
  have hfactorials := reads_factorials n b ts₁
  rw [Except.ok.inj hmarks] at hfactorials
  simp only at hok
  split at hok
  · next hend =>
    cases hok
    exact .power hbase hfactorials hend
  · next ts₃ hcaret =>
    obtain ⟨t, ht, rfl⟩ := passing?_eq_some hcaret
    obtain ⟨⟨x, ts₄⟩, hx, hok⟩ := bind_eq_ok hok
    have hlength := hfactorials.length_le
    have hlength' := hbase.length_lt rfl
    simp only [List.length_cons] at hlength
    have hx := hexponent barred ts₃ x ts₄ (by omega) hx
    have hmore := reads_factorials n (.binary .pow b' x) ts₄
    rw [Except.ok.inj hok] at hmore
    exact .raised hbase hfactorials ht hx hmore

theorem sound_factors {exponent : Rule} (h : deeper.Sound n)
    (hexponent : exponent.Sound n bound fun _ => .exponent) (barred : Bool) (rounds : Nat) (l : Expr)
    (ts : List Token) (e : Expr) (rest : List Token) (hbound : ts.length ≤ bound)
    (hrounds : ts.length ≤ rounds) (hok : deeper.factors exponent barred rounds l ts = .ok (e, rest)) :
    Reads n (.factors barred l) ts [e] rest := by
  induction rounds generalizing l ts with
  | zero =>
    rw [List.eq_nil_of_length_eq_zero (Nat.le_zero.mp hrounds), factors] at *
    cases hok
    exact .factorsEnd rfl
  | succ rounds ih =>
    rw [factors] at hok
    split at hok
    · next op ts₁ hnext =>
      obtain ⟨t, hop, rfl⟩ := Continuation.of_eq_operator hnext
      obtain ⟨⟨r, ts₂⟩, hright, hok⟩ := bind_eq_ok hok
      simp only [List.length_cons] at hbound hrounds
      have hright := h.signed bound barred ts₁ r ts₂ (by omega) hright
      have hlength := hright.length_lt rfl
      exact .factor hnext hright (ih _ _ (by omega) (by omega) hok)
    · next hnext =>
      obtain ⟨⟨r, ts₂⟩, hright, hok⟩ := bind_eq_ok hok
      have hright := sound_power h hexponent barred ts r ts₂ hbound hright
      have hlength := hright.length_lt rfl
      exact .juxtaposed hnext hright (ih _ _ (by omega) (by omega) hok)
    · next hend =>
      cases hok
      exact .factorsEnd hend

theorem sound_product {exponent : Rule} (h : deeper.Sound n)
    (hexponent : exponent.Sound n bound fun _ => .exponent) :
    (deeper.product exponent).Sound n bound .product := by
  intro barred ts e rest hbound hok
  obtain ⟨⟨l, ts₁⟩, hfirst, hok⟩ := bind_eq_ok hok
  have hfirst := h.signed bound barred ts l ts₁ hbound hfirst
  have hlength := hfirst.length_lt rfl
  exact .product hfirst (sound_factors h hexponent barred _ l ts₁ e rest (by omega) (Nat.le_refl _) hok)

theorem sound_terms {exponent : Rule} (h : deeper.Sound n)
    (hexponent : exponent.Sound n bound fun _ => .exponent) (barred : Bool) (rounds : Nat) (l : Expr)
    (ts : List Token) (e : Expr) (rest : List Token) (hbound : ts.length ≤ bound)
    (hrounds : ts.length ≤ rounds) (hok : deeper.terms exponent barred rounds l ts = .ok (e, rest)) :
    Reads n (.terms barred l) ts [e] rest := by
  induction rounds generalizing l ts with
  | zero =>
    rw [List.eq_nil_of_length_eq_zero (Nat.le_zero.mp hrounds), terms] at *
    cases hok
    exact .termsEnd rfl
  | succ rounds ih =>
    rw [terms.eq_def] at hok
    cases ts with
    | nil =>
      cases hok
      exact .termsEnd rfl
    | cons t ts =>
      simp only at hok
      split at hok
      · next hend =>
        cases hok
        exact .termsEnd hend
      · next op hop =>
        obtain ⟨⟨r, ts₁⟩, hright, hok⟩ := bind_eq_ok hok
        simp only [List.length_cons] at hbound hrounds
        have hright := sound_product h hexponent barred ts r ts₁ (by omega) hright
        have hlength := hright.length_lt rfl
        exact .term hop hright (ih _ _ (by omega) (by omega) hok)

theorem sound_sumWith {exponent : Rule} (h : deeper.Sound n)
    (hexponent : exponent.Sound n bound fun _ => .exponent) :
    (deeper.sumWith exponent).Sound n bound .sum := by
  intro barred ts e rest hbound hok
  obtain ⟨⟨l, ts₁⟩, hfirst, hok⟩ := bind_eq_ok hok
  have hfirst := sound_product h hexponent barred ts l ts₁ hbound hfirst
  have hlength := hfirst.length_lt rfl
  exact .sum hfirst (sound_terms h hexponent barred _ l ts₁ e rest (by omega) (Nat.le_refl _) hok)

theorem sound_exponentWithin (h : deeper.Sound n) (bound : Nat) :
    (deeper.exponentWithin bound).Sound n bound fun _ => .exponent := by
  induction bound with
  | zero =>
    intro barred ts e rest hbound hok
    have hnil := List.eq_nil_of_length_eq_zero (Nat.le_zero.mp hbound)
    exact .exponentSigned (by rw [hnil]; rfl) (h.signed 0 barred ts e rest hbound hok)
  | succ bound ih =>
    intro barred ts e rest hbound hok
    simp only [exponentWithin] at hok
    split at hok
    · next hbrace => exact .exponentSigned hbrace (h.signed _ barred ts e rest hbound hok)
    · next ts₁ hbrace =>
      obtain ⟨t, ht, rfl⟩ := passing?_eq_some hbrace
      obtain ⟨⟨x, ts₂⟩, hsum, hok⟩ := bind_eq_ok hok
      obtain ⟨ts₃, hclose, hok⟩ := bind_eq_ok hok
      obtain ⟨c, hc, rfl⟩ := expect_eq_ok hclose
      cases hok
      have hsum := sound_sumWith h ih false ts₁ x _ (by simpa using hbound) hsum
      exact .exponentGroup ht hsum hc

theorem sound_exponent (h : deeper.Sound n) (bound : Nat) :
    deeper.exponent.Sound n bound fun _ => .exponent :=
  fun barred ts e rest _ hok => sound_exponentWithin h _ barred ts e rest (Nat.le_refl _) hok

theorem sound_sum (h : deeper.Sound n) (bound : Nat) : deeper.sum.Sound n bound .sum :=
  fun barred ts e rest _ hok =>
    sound_sumWith h (sound_exponentWithin h ts.length) barred ts e rest (Nat.le_refl _) hok

theorem sound_group (h : deeper.Sound n) {close : Token.Kind} {mark : Char} {ts : List Token} {e : Expr}
    {rest : List Token} (hok : deeper.group close mark ts = .ok (e, rest)) :
    ∃ c, c.kind = close ∧ Reads n (.sum false) ts [e] (c :: rest) := by
  obtain ⟨⟨x, ts₁⟩, hsum, hok⟩ := bind_eq_ok hok
  obtain ⟨ts₂, hclose, hpure⟩ := bind_eq_ok hok
  obtain ⟨c, hc, rfl⟩ := expect_eq_ok hclose
  cases hpure
  exact ⟨c, hc, sound_sum h _ false ts e _ (Nat.le_refl _) hsum⟩

theorem sound_argument (h : deeper.Sound n) (bound : Nat) :
    deeper.argument.Sound n bound fun _ => .argument := by
  intro barred ts e rest hbound hok
  rw [argument] at hok
  split at hok
  · next ts₁ hbrace =>
    obtain ⟨t, ht, rfl⟩ := passing?_eq_some hbrace
    obtain ⟨c, hc, hsum⟩ := sound_group h hok
    exact .argumentGroup ht hsum hc
  · next hbrace => exact .argumentPrimary hbrace (h.primary _ barred ts e rest hbound hok)

theorem sound_sumsAfterComma (h : deeper.Sound n) (rounds : Nat) (ts : List Token) (es : List Expr)
    (rest : List Token) (hrounds : ts.length ≤ rounds)
    (hok : deeper.sumsAfterComma rounds ts = .ok (es, rest)) : Reads n .commas ts es rest := by
  induction rounds generalizing ts es with
  | zero =>
    rw [List.eq_nil_of_length_eq_zero (Nat.le_zero.mp hrounds), sumsAfterComma] at *
    cases hok
    exact .commasEnd rfl
  | succ rounds ih =>
    rw [sumsAfterComma] at hok
    split at hok
    · next hend =>
      cases hok
      exact .commasEnd hend
    · next ts₁ hcomma =>
      obtain ⟨t, ht, rfl⟩ := passing?_eq_some hcomma
      obtain ⟨⟨e, ts₂⟩, hfirst, hok⟩ := bind_eq_ok hok
      obtain ⟨⟨es', ts₃⟩, hmore, hok⟩ := bind_eq_ok hok
      cases hok
      have hfirst := sound_sum h _ false ts₁ e ts₂ (Nat.le_refl _) hfirst
      have hlength := hfirst.length_lt rfl
      simp only [List.length_cons] at hrounds
      exact .comma ht hfirst (ih _ _ (by omega) hmore)

theorem sound_listed (h : deeper.Sound n) {close : Token.Kind} {mark : Char} {ts : List Token}
    {args : List Expr} {rest : List Token} (hok : deeper.listed close mark ts = .ok (args, rest)) :
    ∃ c e es ts₁, c.kind = close ∧ args = e :: es ∧ Reads n (.sum false) ts [e] ts₁ ∧
      Reads n .commas ts₁ es (c :: rest) := by
  obtain ⟨⟨e, ts₁⟩, hfirst, hok⟩ := bind_eq_ok hok
  obtain ⟨⟨es, ts₂⟩, hmore, hok⟩ := bind_eq_ok hok
  obtain ⟨ts₃, hclose, hpure⟩ := bind_eq_ok hok
  obtain ⟨c, hc, rfl⟩ := expect_eq_ok hclose
  cases hpure
  exact ⟨c, e, es, ts₁, hc, rfl, sound_sum h _ false ts e ts₁ (Nat.le_refl _) hfirst,
    sound_sumsAfterComma h _ ts₁ es _ (Nat.le_refl _) hmore⟩

theorem sound_arguments (h : deeper.Sound n) {barred : Bool} {ts : List Token} {args : List Expr}
    {rest : List Token} (hok : deeper.arguments barred ts = .ok (args, rest)) :
    Reads n .arguments ts args rest := by
  rw [arguments] at hok
  split at hok
  · next ts₁ _ hparen =>
    obtain ⟨t, ht, rfl⟩ := passing?_eq_some hparen
    obtain ⟨c, e, es, ts₁, hc, rfl, hfirst, hmore⟩ := sound_listed h hok
    exact .argumentsListed (by rw [ht, hc]; rfl) (by simp [ht]) hfirst hmore
  · next ts₁ _ hbrace =>
    obtain ⟨t, ht, rfl⟩ := passing?_eq_some hbrace
    obtain ⟨c, e, es, ts₁, hc, rfl, hfirst, hmore⟩ := sound_listed h hok
    exact .argumentsListed (by rw [ht, hc]; rfl) (by simp [ht]) hfirst hmore
  · next hparen hbrace =>
    obtain ⟨⟨e, ts₁⟩, hsigned, hok⟩ := bind_eq_ok hok
    cases hok
    exact .argumentsSigned hparen hbrace (h.signed _ barred ts e _ (Nat.le_refl _) hsigned)

theorem sound_functionPower (h : deeper.Sound n) {barred : Bool} {ts : List Token} {power : Option Expr}
    {rest : List Token} (hok : deeper.functionPower barred ts = .ok (power, rest)) :
    Reads n .raising ts power.toList rest := by
  rw [functionPower] at hok
  split at hok
  · next hend =>
    cases hok
    exact .raisingEnd hend
  · next ts₁ hcaret =>
    obtain ⟨t, ht, rfl⟩ := passing?_eq_some hcaret
    obtain ⟨⟨e, ts₂⟩, hexponent, hok⟩ := bind_eq_ok hok
    cases hok
    exact .raisingPower ht (sound_exponent h _ barred ts₁ e _ (Nat.le_refl _) hexponent)

theorem sound_degree (h : deeper.Sound n) {ts : List Token} {degree : Option Expr} {rest : List Token}
    (hok : deeper.degree ts = .ok (degree, rest)) : Reads n .degree ts degree.toList rest := by
  rw [Level.degree] at hok
  split at hok
  · next hend =>
    cases hok
    exact .degreeEnd hend
  · next ts₁ hbracket =>
    obtain ⟨t, ht, rfl⟩ := passing?_eq_some hbracket
    obtain ⟨⟨e, ts₂⟩, hgroup, hok⟩ := bind_eq_ok hok
    cases hok
    obtain ⟨c, hc, hsum⟩ := sound_group h hgroup
    exact .degreeGroup ht hsum hc

theorem sound_base (h : deeper.Sound n) {barred : Bool} {ts : List Token} {e : Expr} {rest : List Token}
    (hok : deeper.base barred ts = .ok (e, rest)) : Reads n .base ts [e] rest := by
  rw [base] at hok
  split at hok
  · next hend =>
    cases hok
    exact .baseEnd hend
  · next ts₁ hunderscore =>
    obtain ⟨t, ht, rfl⟩ := passing?_eq_some hunderscore
    exact .baseArgument ht (sound_argument h _ barred ts₁ e rest (Nat.le_refl _) hok)

theorem sound_command (h : deeper.Sound n) {barred : Bool} {t : Token} {ts : List Token} {e : Expr}
    {rest : List Token} (ht : t.kind = .command)
    (hok : deeper.command t.commandName barred ts = .ok (e, rest)) :
    Reads (n + 1) .primary (t :: ts) [e] rest := by
  have argument := fun ts e rest hok => sound_argument h _ barred ts e rest (Nat.le_refl ts.length) hok
  rw [command] at hok
  split at hok
  · next hname =>
    obtain ⟨⟨a, ts₁⟩, hnumerator, hok⟩ := bind_eq_ok hok
    obtain ⟨⟨b, ts₂⟩, hdenominator, hok⟩ := bind_eq_ok hok
    cases hok
    exact .fraction ht hname (argument _ _ _ hnumerator) (argument _ _ _ hdenominator)
  · next hname =>
    obtain ⟨⟨degree?, ts₁⟩, hdegree, hok⟩ := bind_eq_ok hok
    obtain ⟨⟨x, ts₂⟩, hradicand, hok⟩ := bind_eq_ok hok
    have hroot := Reads.root ht hname (sound_degree h hdegree) (argument _ _ _ hradicand)
    cases degree? <;> (cases hok; exact hroot)
  · next hname =>
    obtain ⟨⟨x, ts₁⟩, hargument, hok⟩ := bind_eq_ok hok
    cases hok
    exact .abs ht hname (argument _ _ _ hargument)
  · next hname =>
    obtain ⟨⟨b, ts₁⟩, hbase, hok⟩ := bind_eq_ok hok
    obtain ⟨⟨power, ts₂⟩, hpower, hok⟩ := bind_eq_ok hok
    obtain ⟨⟨args, ts₃⟩, harguments, hok⟩ := bind_eq_ok hok
    have hpower := sound_functionPower h hpower
    have harguments := sound_arguments h harguments
    simp only at hok
    split at hok
    · cases hok
      have hlog := Reads.log ht hname (sound_base h hbase) hpower harguments
      rwa [Option.head?_toList] at hlog
    · cases hok
  · next f hname =>
    obtain ⟨⟨power, ts₁⟩, hpower, hok⟩ := bind_eq_ok hok
    obtain ⟨⟨args, ts₂⟩, harguments, hok⟩ := bind_eq_ok hok
    simp only at hok
    split at hok
    · next harity =>
      cases hok
      have hfunc := Reads.func ht hname (sound_functionPower h hpower) (sound_arguments h harguments) harity
      rwa [Option.head?_toList] at hfunc
    · cases hok
  · cases hok

theorem sound_signedBody (h : deeper.Sound n) (bound : Nat) :
    deeper.signedBody.Sound (n + 1) bound fun _ => .signed := by
  intro barred ts e rest hbound hok
  rw [signedBody] at hok
  split at hok
  · next ts₁ hplus =>
    obtain ⟨t, ht, rfl⟩ := passing?_eq_some hplus
    exact .plus ht (h.signed _ barred ts₁ e rest (Nat.le_refl _) hok)
  · next ts₁ _ hminus =>
    obtain ⟨t, ht, rfl⟩ := passing?_eq_some hminus
    obtain ⟨⟨x, ts₂⟩, hsigned, hok⟩ := bind_eq_ok hok
    cases hok
    exact .minus ht (h.signed _ barred ts₁ x _ (Nat.le_refl _) hsigned)
  · next hplus hminus =>
    exact .unsigned hplus hminus
      (sound_power h (sound_exponent h bound) barred ts e rest hbound hok)

theorem sound_primaryBody (h : deeper.Sound n) (bound : Nat) :
    deeper.primaryBody.Sound (n + 1) bound fun _ => .primary := by
  intro barred ts e rest hbound hok
  rw [primaryBody.eq_def] at hok
  cases ts with
  | nil => cases hok
  | cons t ts =>
    have grouped (close : Token.Kind) (mark : Char) (ht : t.kind.closer? = some close)
        (hok : deeper.group close mark ts = .ok (e, rest)) : Reads (n + 1) .primary (t :: ts) [e] rest := by
      obtain ⟨c, hc, hsum⟩ := sound_group h hok
      exact .group (by rw [ht, hc]) hsum
    simp only at hok
    split at hok
    · next ht => cases hok; exact .number ht
    · next ht => cases hok; exact .symbol ht
    · next ht => exact grouped _ _ (by rw [ht]; rfl) hok
    · next ht => exact grouped _ _ (by rw [ht]; rfl) hok
    · next ht => exact grouped _ _ (by rw [ht]; rfl) hok
    · next ht =>
      obtain ⟨⟨x, ts₁⟩, hsum, hok⟩ := bind_eq_ok hok
      obtain ⟨ts₂, hclose, hok⟩ := bind_eq_ok hok
      obtain ⟨c, hc, rfl⟩ := expect_eq_ok hclose
      cases hok
      exact .bars ht (sound_sum h _ true ts x _ (Nat.le_refl _) hsum) hc
    · next ht => exact sound_command h ht hok
    · cases hok

end Level

theorem sound_level (n : Nat) : (level n).Sound n := by
  induction n with
  | zero =>
    constructor <;> (intro bound barred ts e rest _ hok; cases hok)
  | succ n ih => exact ⟨Level.sound_signedBody ih, Level.sound_primaryBody ih⟩

/-- Every formula that is parsed is a sum with as much room as there may be. -/
theorem reads_of_parse {ts : List Token} {e : Expr} (h : parse ts = .ok e) :
    ts.length ≤ maxTokens ∧ Reads maxDepth (.sum false) ts [e] [] := by
  unfold parse at h
  split at h
  · cases h
  · next hlength =>
    obtain ⟨⟨x, rest⟩, hsum, h⟩ := bind_eq_ok h
    simp only at h
    split at h
    · cases h
      exact ⟨Nat.le_of_not_lt hlength, Level.sound_sum (sound_level _) _ false ts e _ (Nat.le_refl _) hsum⟩
    · cases h

end LiveTex.Formula

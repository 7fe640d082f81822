import LiveTex.Proofs.Formula.Bracing
import LiveTex.Proofs.Formula.Phrases
import LiveTex.Proofs.Formula.Printing
import LiveTex.Proofs.Formula.Room

/-!
Compiling printed formulas. A printing compiles to the expression it prints, unless it is too long or nests
too deep.
-/

namespace LiveTex.Formula

open Name (AllLetters)

/-- Neither a factorial mark nor an exponent follows. -/
def EndsPower (rest : List Token) : Prop := passing? .bang rest = none ∧ passing? .caret rest = none

theorem endsPower_cons {t : Token} (hbang : t.kind ≠ .bang) (hcaret : t.kind ≠ .caret) (rest : List Token) :
    EndsPower (t :: rest) := ⟨if_neg hbang, if_neg hcaret⟩

/-- A token that begins an operand is no sign, no mark and no operator. -/
theorem Token.of_beginsOperand {t : Token} (h : t.beginsOperand false = true) :
    t.kind ∉ [.plus, .minus, .bang, .caret] ∧ t.factorOperator? = none ∧
      ∀ barred, (barred = true → t.kind ≠ .pipe) → t.beginsOperand barred = true := by
  refine ⟨fun hkind => ?_, ?_, fun barred hbar => ?_⟩
  · simp only [List.mem_cons, List.not_mem_nil, or_false] at hkind
    rcases hkind with hkind | hkind | hkind | hkind <;> simp [beginsOperand, hkind] at h
  · unfold beginsOperand at h
    unfold factorOperator?
    split at h <;> simp_all [factorOperator?]
  · cases barred with
    | false => exact h
    | true =>
      have hpipe := hbar rfl
      unfold beginsOperand at h ⊢
      split at h <;> simp_all

/-- The tokens that write the operators of products and sums. -/
theorem Operator.of_mem_factorSigns {op : Operator} {t : Token} (ht : t ∈ op.factorSigns) :
    t.factorOperator? = some op ∧ t.kind ≠ .bang ∧ t.kind ≠ .caret := by
  cases op <;> simp only [factorSigns, List.mem_cons, List.not_mem_nil, or_false] at ht
  · rcases ht with rfl | rfl | rfl <;> decide
  · rcases ht with rfl | rfl <;> decide

theorem Operator.of_mem_termSigns {op : Operator} {t : Token} (ht : t ∈ op.termSigns) :
    t.termOperator? = some op ∧ t.kind ≠ .bang ∧ t.kind ≠ .caret ∧
      ∀ barred rest, Continuation.of barred (t :: rest) = .none := by
  cases op <;> simp only [termSigns, List.mem_cons, List.not_mem_nil, or_false] at ht
  · exact ht ▸ ⟨by decide, by decide, by decide, fun _ _ => rfl⟩
  · exact ht ▸ ⟨by decide, by decide, by decide, fun _ _ => rfl⟩

/-- No sum goes on. -/
structure Stops (barred : Bool) (rest : List Token) : Prop where
  power : EndsPower rest
  product : Continuation.of barred rest = .none
  sum : rest.head?.bind Token.termOperator? = none

/-- A sum goes on neither at the end of a group nor at a comma. -/
theorem stops_mark (c : Char) (hc : c ∈ [')', ']', '}', ',']) (barred : Bool) (rest : List Token) :
    Stops barred (.mark c :: rest) := by
  simp only [List.mem_cons, List.not_mem_nil, or_false] at hc
  rcases hc with rfl | rfl | rfl | rfl <;> exact ⟨⟨rfl, rfl⟩, rfl, rfl⟩

/-- A bar between bars closes them. -/
theorem stops_bar (rest : List Token) : Stops true (.mark '|' :: rest) := ⟨⟨rfl, rfl⟩, rfl, rfl⟩

theorem stops_nil (barred : Bool) : Stops barred [] := ⟨⟨rfl, rfl⟩, rfl, rfl⟩

/-- A level of nesting takes one more of the room. -/
theorem exists_room_iff {P : Nat → Prop} {Q : Prop} {k n : Nat} (h : ∀ m, P m ↔ k ≤ m ∧ Q) :
    (∃ m, n = m + 1 ∧ P m) ↔ k + 1 ≤ n ∧ Q := by
  constructor
  · rintro ⟨m, rfl, hm⟩
    exact ⟨Nat.succ_le_succ ((h m).mp hm).1, ((h m).mp hm).2⟩
  · rintro ⟨hroom, hQ⟩
    exact ⟨n - 1, by omega, (h (n - 1)).mpr ⟨by omega, hQ⟩⟩

/-- The phrase is read to these expressions and nothing else, exactly when there is room for so many levels. -/
structure Takes (n : Nat) (phrase : Phrase) (ts : List Token) (k : Nat) (es : List Expr) (rest : List Token) :
    Prop where
  reads_iff : ∀ es' rest', Reads n phrase ts es' rest' ↔ k ≤ n ∧ es' = es ∧ rest' = rest

/-- What follows such a phrase goes on from its expressions. -/
theorem Takes.exists_iff {n k : Nat} {phrase : Phrase} {ts rest : List Token} {es : List Expr}
    (h : Takes n phrase ts k es rest) {P : List Expr → List Token → Prop} :
    (∃ es' ts₁, Reads n phrase ts es' ts₁ ∧ P es' ts₁) ↔ k ≤ n ∧ P es rest := by
  constructor
  · rintro ⟨es', ts₁, hreads, hP⟩
    obtain ⟨hroom, rfl, rfl⟩ := (h.reads_iff es' ts₁).mp hreads
    exact ⟨hroom, hP⟩
  · rintro ⟨hroom, hP⟩
    exact ⟨es, rest, (h.reads_iff es rest).mpr ⟨hroom, rfl, rfl⟩, hP⟩

theorem Takes.exists_single_iff {n k : Nat} {phrase : Phrase} {ts rest : List Token} {e : Expr}
    (h : Takes n phrase ts k [e] rest) {P : Expr → List Token → Prop} :
    (∃ x ts₁, Reads n phrase ts [x] ts₁ ∧ P x ts₁) ↔ k ≤ n ∧ P e rest := by
  constructor
  · rintro ⟨x, ts₁, hreads, hP⟩
    obtain ⟨hroom, hx, rfl⟩ := (h.reads_iff [x] ts₁).mp hreads
    cases hx
    exact ⟨hroom, hP⟩
  · rintro ⟨hroom, hP⟩
    exact ⟨e, rest, (h.reads_iff [e] rest).mpr ⟨hroom, rfl, rfl⟩, hP⟩

/-- Up to the token that closes its group, such a phrase is read without this token. -/
theorem Takes.exists_closing_iff {n k : Nat} {phrase : Phrase} {ts rest : List Token} {es : List Expr} {c : Token}
    (h : Takes n phrase ts k es (c :: rest)) {kind : Token.Kind} (hc : c.kind = kind) {es' : List Expr}
    {rest' : List Token} :
    (∃ c', c'.kind = kind ∧ Reads n phrase ts es' (c' :: rest')) ↔ k ≤ n ∧ es' = es ∧ rest' = rest := by
  simp only [h.reads_iff, List.cons.injEq]
  constructor
  · rintro ⟨c', -, hroom, hes, -, hrest⟩
    exact ⟨hroom, hes, hrest⟩
  · rintro ⟨hroom, hes, hrest⟩
    exact ⟨c, hc, hroom, hes, rfl, hrest⟩

/-- A printing is read to what it prints, exactly when there is room for its levels. What is left of a shape
that can go on is read from the expression on the left. -/
def Shape.Exact (shape : Shape) (es : List Expr) (ts : List Token) (k : Nat) : Prop :=
  match shape with
  | .primary => ∀ n rest, Takes n .primary (ts ++ rest) k es rest
  | .marked => ∃ e, es = [e] ∧ ∀ n rest es' rest',
      Reads n .power (ts ++ rest) es' rest' ↔ k ≤ n ∧ PowerFrom n e rest es' rest'
  | .raised => ∃ e, es = [e] ∧ ∀ n rest es' rest',
      Reads n .power (ts ++ rest) es' rest' ↔ k ≤ n ∧ Reads n (.marks e) rest es' rest'
  | .power => ∀ n rest, EndsPower rest → Takes n .power (ts ++ rest) k es rest
  | .signed => ∀ n rest, EndsPower rest → Takes n .signed (ts ++ rest) k es rest
  | .product barred => ∃ e, es = [e] ∧ ∀ n rest, EndsPower rest → ∀ es' rest',
      Reads n (.product barred) (ts ++ rest) es' rest' ↔ k ≤ n ∧ Reads n (.factors barred e) rest es' rest'
  | .sum barred => ∃ e, es = [e] ∧ ∀ n rest, EndsPower rest → Continuation.of barred rest = .none → ∀ es' rest',
      Reads n (.sum barred) (ts ++ rest) es' rest' ↔ k ≤ n ∧ Reads n (.terms barred e) rest es' rest'
  | .listed => ∀ n rest, Stops false rest → passing? .comma rest = none →
      ∀ comma, comma.kind = .comma → Takes n .commas (comma :: (ts ++ rest)) k es rest

namespace Shape.Exact

open Token (mark command between)

variable {barred : Bool} {b d e l r : Expr} {es args : List Expr} {ts us rest : List Token} {k m : Nat}

/-- A sum is read as a whole where it can go on no longer. -/
theorem whole (h : (Shape.sum barred).Exact [e] ts k) (hstops : Stops barred rest) (n : Nat) :
    Takes n (.sum barred) (ts ++ rest) k [e] rest := by
  obtain ⟨e', he, hreads⟩ := h
  cases he
  refine ⟨fun es' rest' => ?_⟩
  rw [hreads n rest hstops.power hstops.product, reads_terms_end_iff hstops.sum]

theorem argument (h : (Shape.sum false).Exact [e] ts k) (n : Nat) (rest : List Token) :
    Takes n .argument (between '{' '}' ts ++ rest) k [e] rest := by
  refine ⟨fun es' rest' => ?_⟩
  rw [Token.between_append, reads_argument_braces_iff rfl]
  exact (h.whole (stops_mark '}' (by decide) ..) n).exists_closing_iff rfl

theorem exponent (h : (Shape.sum false).Exact [e] ts k) (n : Nat) (rest : List Token) :
    Takes n .exponent (between '{' '}' ts ++ rest) k [e] rest := by
  refine ⟨fun es' rest' => ?_⟩
  rw [Token.between_append, reads_exponent_braces_iff rfl]
  exact (h.whole (stops_mark '}' (by decide) ..) n).exists_closing_iff rfl

theorem degree (h : (Shape.sum false).Exact [e] ts k) (n : Nat) (rest : List Token) :
    Takes n .degree (between '[' ']' ts ++ rest) k [e] rest := by
  refine ⟨fun es' rest' => ?_⟩
  rw [Token.between_append, reads_degree_brackets_iff rfl]
  exact (h.whole (stops_mark ']' (by decide) ..) n).exists_closing_iff rfl

theorem arguments (h : Shape.listed.Exact args ts k) (n : Nat) (rest : List Token) :
    Takes n .arguments (between '(' ')' ts ++ rest) k args rest := by
  refine ⟨fun es' rest' => ?_⟩
  rw [Token.between_append, reads_arguments_parens_iff rfl (rfl : (mark ',').kind = .comma)]
  exact (h n (mark ')' :: rest) (stops_mark ')' (by decide) ..) rfl (mark ',') rfl).exists_closing_iff rfl

theorem parens (h : (Shape.sum false).Exact [e] ts k) : Shape.primary.Exact [e] (between '(' ')' ts) (k + 1) := by
  refine fun n rest => ⟨fun es' rest' => ?_⟩
  rw [Token.between_append, reads_primary_parens_iff rfl]
  exact exists_room_iff fun n => (h.whole (stops_mark ')' (by decide) ..) n).exists_closing_iff rfl

theorem bars (h : (Shape.sum true).Exact [e] ts k) : Shape.primary.Exact [.abs e] (between '|' '|' ts) (k + 1) := by
  refine fun n rest => ⟨fun es' rest' => ?_⟩
  rw [Token.between_append, reads_primary_bars_iff rfl]
  refine exists_room_iff fun n => ?_
  simp only [(h.whole (stops_bar rest) n).exists_closing_iff (rfl : _ = Token.Kind.pipe), List.cons.injEq]
  constructor
  · rintro ⟨e', ⟨hroom, ⟨rfl, -⟩, hrest⟩, hes⟩
    exact ⟨hroom, hes, hrest⟩
  · rintro ⟨hroom, hes, hrest⟩
    exact ⟨e, ⟨hroom, ⟨rfl, trivial⟩, hrest⟩, hes⟩

theorem fraction (hl : (Shape.sum false).Exact [l] ts k) (hr : (Shape.sum false).Exact [r] us m) :
    Shape.primary.Exact [.binary .div l r]
      (command "frac".toList :: (between '{' '}' ts ++ between '{' '}' us)) (max k m + 1) := by
  refine fun n rest => ⟨fun es' rest' => ?_⟩
  rw [List.cons_append, List.append_assoc, reads_primary_fraction_iff rfl rfl]
  refine exists_room_iff fun n => ?_
  rw [(hl.argument ..).exists_single_iff, (hr.argument ..).exists_single_iff, Nat.max_le, and_assoc]

theorem sqrt (h : (Shape.sum false).Exact [e] ts k) :
    Shape.primary.Exact [.sqrt e] (command "sqrt".toList :: between '{' '}' ts) (k + 1) := by
  refine fun n rest => ⟨fun es' rest' => ?_⟩
  rw [List.cons_append, reads_primary_root_iff rfl rfl]
  refine exists_room_iff fun n => ?_
  have hdegree : Takes n .degree (between '{' '}' ts ++ rest) 0 [] (between '{' '}' ts ++ rest) :=
    ⟨fun es' rest' => by rw [reads_degree_end_iff rfl]; simp⟩
  rw [hdegree.exists_iff, (h.argument ..).exists_single_iff, and_iff_right (Nat.zero_le n)]
  rfl

theorem root (hd : (Shape.sum false).Exact [d] ts k) (he : (Shape.sum false).Exact [e] us m) :
    Shape.primary.Exact [.root d e]
      (command "sqrt".toList :: (between '[' ']' ts ++ between '{' '}' us)) (max k m + 1) := by
  refine fun n rest => ⟨fun es' rest' => ?_⟩
  rw [List.cons_append, List.append_assoc, reads_primary_root_iff rfl rfl]
  refine exists_room_iff fun n => ?_
  rw [(hd.degree ..).exists_iff, (he.argument ..).exists_single_iff, Nat.max_le, and_assoc]
  rfl

theorem last (h : (Shape.sum false).Exact [e] ts k) : Shape.listed.Exact [e] ts k := by
  refine fun n rest hstops hcomma comma hkind => ⟨fun es' rest' => ?_⟩
  rw [reads_commas_comma_iff hkind, (h.whole hstops n).exists_single_iff]
  simp only [reads_commas_end_iff hcomma]
  constructor
  · rintro ⟨hroom, es₁, ⟨rfl, hrest⟩, hes⟩
    exact ⟨hroom, hes, hrest⟩
  · rintro ⟨hroom, hes, hrest⟩
    exact ⟨hroom, [], ⟨rfl, hrest⟩, hes⟩

theorem comma (hfirst : (Shape.sum false).Exact [e] ts k) (hmore : Shape.listed.Exact es us m) :
    Shape.listed.Exact (e :: es) (ts ++ mark ',' :: us) (max k m) := by
  refine fun n rest hstops hcomma comma hkind => ⟨fun es' rest' => ?_⟩
  rw [List.append_assoc, List.cons_append, reads_commas_comma_iff hkind,
    (hfirst.whole (stops_mark ',' (by decide) ..) n).exists_single_iff]
  simp only [(hmore n rest hstops hcomma (mark ',') rfl).reads_iff]
  rw [Nat.max_le]
  constructor
  · rintro ⟨hroom, es₁, ⟨hroom', rfl, hrest⟩, hes⟩
    exact ⟨⟨hroom, hroom'⟩, hes, hrest⟩
  · rintro ⟨⟨hroom, hroom'⟩, hes, hrest⟩
    exact ⟨hroom, es, ⟨hroom', rfl, hrest⟩, hes⟩

theorem log (hb : (Shape.sum false).Exact [b] ts k) (he : (Shape.sum false).Exact [e] us m) :
    Shape.primary.Exact [.log b e]
      (command "log".toList :: mark '_' :: (between '{' '}' ts ++ between '(' ')' us)) (max k m + 1) := by
  refine fun n rest => ⟨fun es' rest' => ?_⟩
  rw [List.cons_append, List.cons_append, List.append_assoc, reads_primary_log_iff rfl rfl]
  refine exists_room_iff fun n => ?_
  have hbase : Takes n .base (mark '_' :: (between '{' '}' ts ++ (between '(' ')' us ++ rest))) k [b]
      (between '(' ')' us ++ rest) :=
    ⟨fun es' rest' => by rw [reads_base_underscore_iff rfl, (hb.argument ..).reads_iff]⟩
  have hraising : Takes n .raising (between '(' ')' us ++ rest) 0 [] (between '(' ')' us ++ rest) :=
    ⟨fun es' rest' => by rw [reads_raising_end_iff rfl]; simp⟩
  rw [hbase.exists_single_iff, hraising.exists_iff, and_iff_right (Nat.zero_le n),
    (he.last.arguments ..).exists_single_iff, Nat.max_le, and_assoc]
  rfl

theorem call {f : Func} (harity : f.arity.admits args.length = true) (h : Shape.listed.Exact args ts k) :
    Shape.primary.Exact [.call f args] (command f.name :: between '(' ')' ts) (k + 1) := by
  refine fun n rest => ⟨fun es' rest' => ?_⟩
  have hname : Command.ofName (command f.name).commandName = .func f := by cases f <;> decide
  rw [List.cons_append, reads_primary_func_iff rfl hname]
  refine exists_room_iff fun n => ?_
  have hraising : Takes n .raising (between '(' ')' ts ++ rest) 0 [] (between '(' ')' ts ++ rest) :=
    ⟨fun es' rest' => by rw [reads_raising_end_iff rfl]; simp⟩
  rw [hraising.exists_iff, and_iff_right (Nat.zero_le n), (h.arguments ..).exists_iff, and_iff_right harity]
  rfl

theorem marked (h : Shape.primary.Exact [e] ts k) : Shape.marked.Exact [e] ts k := by
  refine ⟨e, rfl, fun n rest es' rest' => ?_⟩
  rw [reads_power_iff, (h n rest).exists_single_iff]

theorem factorial_marked (h : Shape.marked.Exact [e] ts k) : Shape.marked.Exact [.factorial e] (ts ++ [mark '!']) k := by
  obtain ⟨e', he, hreads⟩ := h
  cases he
  refine ⟨_, rfl, fun n rest es' rest' => ?_⟩
  rw [List.append_assoc, hreads, List.singleton_append, powerFrom_bang_iff rfl]

theorem factorial_raised (h : Shape.raised.Exact [e] ts k) : Shape.raised.Exact [.factorial e] (ts ++ [mark '!']) k := by
  obtain ⟨e', he, hreads⟩ := h
  cases he
  refine ⟨_, rfl, fun n rest es' rest' => ?_⟩
  rw [List.append_assoc, hreads, List.singleton_append, reads_marks_bang_iff rfl]

theorem raised (hb : Shape.marked.Exact [b] ts k) (he : (Shape.sum false).Exact [e] us m) :
    Shape.raised.Exact [.binary .pow b e] (ts ++ mark '^' :: between '{' '}' us) (max k m) := by
  obtain ⟨b', hb', hreads⟩ := hb
  cases hb'
  refine ⟨_, rfl, fun n rest es' rest' => ?_⟩
  rw [List.append_assoc, List.cons_append, hreads, powerFrom_caret_iff rfl, (he.exponent ..).exists_single_iff,
    Nat.max_le, and_assoc]

theorem power_marked (h : Shape.marked.Exact [e] ts k) : Shape.power.Exact [e] ts k := by
  obtain ⟨e', he, hreads⟩ := h
  cases he
  refine fun n rest hends => ⟨fun es' rest' => ?_⟩
  rw [hreads, powerFrom_end_iff hends.1 hends.2]

theorem power_raised (h : Shape.raised.Exact [e] ts k) : Shape.power.Exact [e] ts k := by
  obtain ⟨e', he, hreads⟩ := h
  cases he
  refine fun n rest hends => ⟨fun es' rest' => ?_⟩
  rw [hreads, reads_marks_end_iff hends.1]

theorem neg (h : Shape.signed.Exact [e] ts k) : Shape.signed.Exact [.neg e] (mark '-' :: ts) (k + 1) := by
  refine fun n rest hends => ⟨fun es' rest' => ?_⟩
  rw [List.cons_append, reads_signed_minus_iff rfl]
  refine exists_room_iff fun n => ?_
  simp only [(h n rest hends).reads_iff, List.cons.injEq]
  constructor
  · rintro ⟨e', hes, hroom, ⟨rfl, -⟩, hrest⟩
    exact ⟨hroom, hes, hrest⟩
  · rintro ⟨hroom, hes, hrest⟩
    exact ⟨e, hes, hroom, ⟨rfl, trivial⟩, hrest⟩

theorem unsigned {t : Token} (ht : t.beginsOperand false = true) (h : Shape.power.Exact [e] (t :: ts) k) :
    Shape.signed.Exact [e] (t :: ts) (k + 1) := by
  obtain ⟨hkind, -⟩ := Token.of_beginsOperand ht
  have hplus (rest : List Token) : passing? .plus (t :: ts ++ rest) = none := if_neg fun h => hkind (by simp [h])
  have hminus (rest : List Token) : passing? .minus (t :: ts ++ rest) = none := if_neg fun h => hkind (by simp [h])
  refine fun n rest hends => ⟨fun es' rest' => ?_⟩
  rw [reads_signed_unsigned_iff (hplus rest) (hminus rest)]
  exact exists_room_iff fun n => (h n rest hends).reads_iff es' rest'

theorem product (h : Shape.signed.Exact [e] ts k) : (Shape.product barred).Exact [e] ts k := by
  refine ⟨e, rfl, fun n rest hends es' rest' => ?_⟩
  rw [reads_product_iff, (h n rest hends).exists_single_iff]

theorem factor {op : Operator} {t : Token} (ht : t ∈ op.factorSigns) (hl : (Shape.product barred).Exact [l] ts k)
    (hr : Shape.signed.Exact [r] us m) : (Shape.product barred).Exact [.binary op l r] (ts ++ t :: us) (max k m) := by
  obtain ⟨l', hl', hreads⟩ := hl
  cases hl'
  obtain ⟨hop, hbang, hcaret⟩ := Operator.of_mem_factorSigns ht
  refine ⟨_, rfl, fun n rest hends es' rest' => ?_⟩
  rw [List.append_assoc, List.cons_append, hreads n _ (endsPower_cons hbang hcaret _), reads_factors_operator_iff hop,
    (hr n rest hends).exists_single_iff, Nat.max_le, and_assoc]

theorem juxtaposed {t : Token} (ht : t.beginsOperand false = true) (hbar : barred = true → t.kind ≠ .pipe)
    (hl : (Shape.product barred).Exact [l] ts k) (hr : Shape.power.Exact [r] (t :: us) m) :
    (Shape.product barred).Exact [.binary .mul l r] (ts ++ t :: us) (max k m) := by
  obtain ⟨l', hl', hreads⟩ := hl
  cases hl'
  obtain ⟨hkind, hoperator, hbegins⟩ := Token.of_beginsOperand ht
  have hends' (rest : List Token) : EndsPower (t :: us ++ rest) :=
    endsPower_cons (fun h => hkind (by simp [h])) (fun h => hkind (by simp [h])) _
  have hnext (rest : List Token) : Continuation.of barred (t :: us ++ rest) = .juxtaposed :=
    Continuation.of_cons_eq_juxtaposed.mpr ⟨hoperator, hbegins barred hbar⟩
  refine ⟨_, rfl, fun n rest hends es' rest' => ?_⟩
  rw [List.append_assoc, hreads n _ (hends' rest), reads_factors_juxtaposed_iff (hnext rest),
    (hr n rest hends).exists_single_iff, Nat.max_le, and_assoc]

/-- A product is read as a whole where it can go on no longer. -/
theorem wholeProduct (h : (Shape.product barred).Exact [e] ts k) (hends : EndsPower rest)
    (hcontinuation : Continuation.of barred rest = .none) (n : Nat) :
    Takes n (.product barred) (ts ++ rest) k [e] rest := by
  obtain ⟨e', he, hreads⟩ := h
  cases he
  refine ⟨fun es' rest' => ?_⟩
  rw [hreads n rest hends, reads_factors_end_iff hcontinuation]

theorem sum (h : (Shape.product barred).Exact [e] ts k) : (Shape.sum barred).Exact [e] ts k := by
  refine ⟨e, rfl, fun n rest hends hcontinuation es' rest' => ?_⟩
  rw [reads_sum_iff, (h.wholeProduct hends hcontinuation n).exists_single_iff]

theorem term {op : Operator} {t : Token} (ht : t ∈ op.termSigns) (hl : (Shape.sum barred).Exact [l] ts k)
    (hr : (Shape.product barred).Exact [r] us m) :
    (Shape.sum barred).Exact [.binary op l r] (ts ++ t :: us) (max k m) := by
  obtain ⟨l', hl', hreads⟩ := hl
  cases hl'
  obtain ⟨hop, hbang, hcaret, hnext⟩ := Operator.of_mem_termSigns ht
  refine ⟨_, rfl, fun n rest hends hcontinuation es' rest' => ?_⟩
  rw [List.append_assoc, List.cons_append, hreads n _ (endsPower_cons hbang hcaret _) (hnext barred _),
    reads_terms_operator_iff hop, (hr.wholeProduct hends hcontinuation n).exists_single_iff, Nat.max_le, and_assoc]

end Shape.Exact

/-- A printing that holds as tightly as a power begins with a token that begins an operand. -/
theorem Prints.begins {shape : Shape} {es : List Expr} {ts : List Token} {k : Nat} (h : Prints shape es ts k) :
    match shape with
    | .primary | .marked | .raised | .power => ∃ t us, ts = t :: us ∧ t.beginsOperand false = true
    | _ => True := by
  induction h with
  | number | symbol => exact ⟨_, _, rfl, rfl⟩
  | parens | bars | fraction | sqrt | root | log => exact ⟨_, _, rfl, by decide⟩
  | @call f => exact ⟨_, _, rfl, by cases f <;> decide⟩
  | marked _ ih => exact ih
  | raised _ _ ih =>
    obtain ⟨t, us, rfl, ht⟩ := ih
    exact ⟨t, _, rfl, ht⟩
  | factorial hshape _ ih =>
    rcases hshape with rfl | rfl
    all_goals
      obtain ⟨t, us, rfl, ht⟩ := ih
      exact ⟨t, _, rfl, ht⟩
  | power hshape _ ih => rcases hshape with rfl | rfl <;> exact ih
  | _ => trivial

/-- Every printing is read exactly to what it prints. -/
theorem Prints.exact {shape : Shape} {es : List Expr} {ts : List Token} {k : Nat} (h : Prints shape es ts k) :
    shape.Exact es ts k := by
  induction h with
  | number x =>
    refine fun n rest => ⟨fun es' rest' => ?_⟩
    rw [List.singleton_append, reads_primary_number_iff rfl]
    exact exists_room_iff fun n => by simp
  | symbol =>
    refine fun n rest => ⟨fun es' rest' => ?_⟩
    rw [List.singleton_append, reads_primary_symbol_iff rfl]
    exact exists_room_iff fun n => by simp
  | parens _ ih => exact ih.parens
  | bars _ ih => exact ih.bars
  | fraction _ _ ihl ihr => exact ihl.fraction ihr
  | sqrt _ ih => exact ih.sqrt
  | root _ _ ihd ihe => exact ihd.root ihe
  | log _ _ ihb ihe => exact ihb.log ihe
  | call harity _ ih => exact ih.call harity
  | last _ ih => exact ih.last
  | comma _ _ ihFirst ihMore => exact ihFirst.comma ihMore
  | marked _ ih => exact ih.marked
  | raised _ _ ihb ihe => exact ihb.raised ihe
  | factorial hshape _ ih =>
    rcases hshape with rfl | rfl
    · exact ih.factorial_marked
    · exact ih.factorial_raised
  | power hshape _ ih =>
    rcases hshape with rfl | rfl
    · exact ih.power_marked
    · exact ih.power_raised
  | unsigned h ih =>
    obtain ⟨t, us, rfl, ht⟩ := h.begins
    exact ih.unsigned ht
  | neg _ ih => exact ih.neg
  | product _ ih => exact ih.product
  | factor ht _ _ ihl ihr => exact ihl.factor ht ihr
  | juxtaposed _ hr hbar ihl ihr =>
    obtain ⟨t, us, rfl, ht⟩ := hr.begins
    exact ihl.juxtaposed ht (fun h => hbar h t rfl) ihr
  | sum _ ih => exact ih.sum
  | term ht _ _ ihl ihr => exact ihl.term ht ihr

/-- A printing that is written down with spaces compiles to what it prints, or to an error when it exceeds a limit. -/
theorem Prints.compile_eq {e : Expr} {ts : List Token} {k : Nat} {text : Text} (h : Prints (.sum false) [e] ts k)
    (hspaced : Spaced (ts.map (·.lexeme)) text) : (compile text).map (·.expr) =
      if maxTokens < ts.length then .error (.tooLong ts.length maxTokens)
      else if maxDepth < k then .error (.nestingTooDeep maxDepth) else .ok e := by
  obtain ⟨us, htokens, halike⟩ := (lexes_of_spaced h.stands hspaced).tokenizeFrom 0
  have hreads (n : Nat) : Reads n (.sum false) us [e] [] ↔ k ≤ n := by
    have hwhole := (h.exact.whole (stops_nil false) n).reads_iff [e] []
    rw [List.append_nil] at hwhole
    have hswap : List.Forall₂ Token.Alike us ts := halike.flip.imp fun _ _ hx => ⟨hx.1.symm, hx.2.symm⟩
    constructor
    · exact fun hus => (hwhole.mp (hus.of_alike hswap)).1
    · exact fun hroom => (hwhole.mpr ⟨hroom, rfl, rfl⟩).of_alike halike
  have hparse := parse_eq_of_reads_iff hreads
  rw [← halike.length_eq] at hparse
  rw [← hparse, compile, tokenize, htokens, ok_bind]
  cases parse us <;> rfl

/-- Printing and compiling. An expression whose calls have as many arguments as they need, whose symbols are made of
letters and whose numbers are those of decimals has a printing, and each of its printings compiles to the expression
itself, unless there are too many tokens or the levels nest too deep, and then to the error that says so. -/
theorem compile_of_prints {e : Expr} (he : e.Printable) :
    (∃ ts levels text, Prints (.sum false) [e] ts levels ∧ Spaced (ts.map (·.lexeme)) text) ∧
      ∀ ts levels text, Prints (.sum false) [e] ts levels → Spaced (ts.map (·.lexeme)) text →
        (compile text).map (·.expr) =
          if maxTokens < ts.length then .error (.tooLong ts.length maxTokens)
          else if maxDepth < levels then .error (.nestingTooDeep maxDepth) else .ok e := by
  refine ⟨?_, fun ts levels text h hspaced => h.compile_eq hspaced⟩
  obtain ⟨ts, k, h⟩ := Expr.Printable.exists_primary e he
  obtain ⟨text, hspaced⟩ := exists_spaced (ts.map (·.lexeme))
  exact ⟨ts, _, text, h.sum_of_primary false, hspaced⟩

/-- The minus is that of a difference, the factorial mark binds tightest, and products go from left to right. -/
theorem compile_of_printed_difference :
    (compile "a - 2 b ! / c".toList).map (·.expr) =
      .ok (.binary .sub (.symbol ['a']) (.binary .div (.binary .mul (.number (Decimal.read ['2']))
        (.factorial (.symbol ['b']))) (.symbol ['c']))) := by
  have hletters {c : Char} (hc : c.isAlpha = true) : AllLetters [c] := by simpa [AllLetters] using hc
  let two : Numeral := ⟨['2'], [], List.forall_mem_singleton.mpr rfl, by simp, .inl (List.cons_ne_nil _ _)⟩
  have ha : Prints .primary [.symbol ['a']] _ 1 := .symbol (hletters (by decide)) (List.cons_ne_nil _ _)
  have hb : Prints .primary [.symbol ['b']] _ 1 := .symbol (hletters (by decide)) (List.cons_ne_nil _ _)
  have hc : Prints .primary [.symbol ['c']] _ 1 := .symbol (hletters (by decide)) (List.cons_ne_nil _ _)
  have hproduct : Prints (.product false) [.binary .mul (.number (Decimal.read ['2'])) (.factorial (.symbol ['b']))] _ _ :=
    .juxtaposed ((Prints.number two).product_of_primary false)
      (.power (.inl rfl) (.factorial (.inl rfl) (.marked hb))) (by simp)
  have hquotient := Prints.factor (show Token.mark '/' ∈ Operator.factorSigns .div from List.mem_cons_self ..) hproduct
    (.unsigned hc.power_of_primary)
  have hprints := Prints.term (show Token.mark '-' ∈ Operator.termSigns .sub from List.mem_cons_self ..)
    (ha.sum_of_primary false) hquotient
  have hprintable : Expr.Printable (.binary .sub (.symbol ['a']) (.binary .div (.binary .mul
      (.number (Decimal.read ['2'])) (.factorial (.symbol ['b']))) (.symbol ['c']))) := by
    refine ⟨⟨hletters (by decide), List.cons_ne_nil _ _⟩, ⟨⟨two, rfl⟩, hletters (by decide), List.cons_ne_nil _ _⟩,
      hletters (by decide), List.cons_ne_nil _ _⟩
  have hspaced : Spaced [['a'], ['-'], ['2'], ['b'], ['!'], ['/'], ['c']] "a - 2 b ! / c".toList :=
    .next (.next (.next (.next (.next (.next (.single ['c']))))))
  exact (compile_of_prints hprintable).2 _ _ _ hprints hspaced

end LiveTex.Formula

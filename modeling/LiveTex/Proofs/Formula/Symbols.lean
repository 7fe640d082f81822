import LiveTex.Formula.Basic
import LiveTex.Proofs.Formula.Soundness

/-!
The symbols of a formula. The tree has the symbols of the tokens it was read from, each as often, so the
value of a formula depends on its symbols only.
-/

namespace LiveTex.Formula

mutual

/-- The symbols of a tree, with repetitions. -/
def Expr.names : Expr → List Text
  | .number _ => []
  | .symbol name => [name]
  | .neg e | .factorial e | .abs e | .sqrt e => e.names
  | .binary _ l r | .root l r | .log l r => l.names ++ r.names
  | .call _ args => Expr.namesOfAll args

/-- The symbols of several trees. -/
def Expr.namesOfAll : List Expr → List Text
  | [] => []
  | e :: rest => e.names ++ Expr.namesOfAll rest

end

/-- The expressions that a phrase goes on from. -/
def Phrase.pending : Phrase → List Expr
  | .marks e | .factors _ e | .terms _ e => [e]
  | _ => []

@[simp] theorem symbolLexemes_nil : symbolLexemes [] = [] := rfl

theorem symbolLexemes_cons (t : Token) (ts : List Token) :
    symbolLexemes (t :: ts) = if t.kind = .symbol then t.lexeme :: symbolLexemes ts else symbolLexemes ts := by
  by_cases h : t.kind = .symbol <;> simp [symbolLexemes, h]

theorem Token.kind_ne_symbol_of_factorOperator? {t : Token} {op : Operator}
    (h : t.factorOperator? = some op) : t.kind ≠ .symbol := by
  intro hkind
  simp [factorOperator?, hkind] at h

theorem Token.kind_ne_symbol_of_termOperator? {t : Token} {op : Operator}
    (h : t.termOperator? = some op) : t.kind ≠ .symbol := by
  intro hkind
  simp [termOperator?, hkind] at h

theorem Token.Kind.ne_symbol_of_closer? {kind close : Token.Kind} (h : kind.closer? = some close) :
    kind ≠ .symbol ∧ close ≠ .symbol := by
  obtain ⟨rfl, rfl⟩ | ⟨rfl, rfl⟩ | ⟨rfl, rfl⟩ := closer?_eq_some h <;> simp

theorem count_names_rooted (e : Expr) (ds : List Expr) (h : ds.length ≤ 1) (name : Text) :
    (rooted e ds).names.count name = e.names.count name + (Expr.namesOfAll ds).count name := by
  match ds, h with
  | [], _ => simp [rooted, Expr.names, Expr.namesOfAll]
  | [d], _ => simp [rooted, Expr.names, Expr.namesOfAll, Nat.add_comm]

theorem count_names_raised (e : Expr) (ps : List Expr) (h : ps.length ≤ 1) (name : Text) :
    (raised e ps.head?).names.count name = e.names.count name + (Expr.namesOfAll ps).count name := by
  match ps, h with
  | [], _ => simp [raised, Expr.namesOfAll]
  | [p], _ => simp [raised, Expr.names, Expr.namesOfAll]

/-- No symbol gets lost and none is added. -/
theorem Reads.count_names {n : Nat} {phrase : Phrase} {ts rest : List Token} {es : List Expr}
    (h : Reads n phrase ts es rest) (name : Text) :
    (Expr.namesOfAll es).count name + (symbolLexemes rest).count name =
      (Expr.namesOfAll phrase.pending).count name + (symbolLexemes ts).count name := by
  induction h with
  | symbol ht => simp [symbolLexemes_cons, ht, Expr.namesOfAll, Expr.names, Phrase.pending, List.count_cons,
      Nat.add_comm]
  | group ht _ ih | argumentsListed ht _ _ _ ih' ih =>
    obtain ⟨hopen, hclose⟩ := Token.Kind.ne_symbol_of_closer? ht
    simp_all [symbolLexemes_cons, Expr.namesOfAll, Phrase.pending]
    try omega
  | root ht _ hdegree _ ihDegree ihRadicand =>
    have hsingle := fun e => count_names_rooted e _ hdegree.length_outputs name
    simp_all [symbolLexemes_cons, Expr.namesOfAll, Phrase.pending]
    omega
  | log ht _ _ hpower _ ihBase ihPower ihArguments =>
    have hsingle := fun e => count_names_raised e _ hpower.length_outputs name
    simp_all [symbolLexemes_cons, Expr.namesOfAll, Expr.names, Phrase.pending]
    omega
  | func ht _ hpower _ _ ihPower ihArguments =>
    have hsingle := fun e => count_names_raised e _ hpower.length_outputs name
    simp_all [symbolLexemes_cons, Expr.namesOfAll, Expr.names, Phrase.pending]
    omega
  | factor hnext _ _ ihRight ihMore =>
    obtain ⟨t, hop, rfl⟩ := Continuation.of_eq_operator hnext
    have hkind := Token.kind_ne_symbol_of_factorOperator? hop
    simp_all [symbolLexemes_cons, Expr.namesOfAll, Expr.names, Phrase.pending]
    omega
  | term hop _ _ ihRight ihMore =>
    have hkind := Token.kind_ne_symbol_of_termOperator? hop
    simp_all [symbolLexemes_cons, Expr.namesOfAll, Expr.names, Phrase.pending]
    omega
  | _ =>
    simp_all [symbolLexemes_cons, Expr.namesOfAll, Expr.names, Phrase.pending, commonBase]
    try omega

/-- The symbols of a parsed tree are those of its tokens. -/
theorem mem_names_iff_of_parse {ts : List Token} {e : Expr} (h : parse ts = .ok e) (name : Text) :
    name ∈ e.names ↔ name ∈ symbolLexemes ts := by
  have hcount := (reads_of_parse h).2.count_names name
  simp only [Expr.namesOfAll, List.append_nil, symbolLexemes_nil, List.count_nil, Nat.add_zero,
    Phrase.pending, Nat.zero_add] at hcount
  rw [← List.count_pos_iff, ← List.count_pos_iff, hcount]

mutual

/-- The value of a tree depends on the bindings of its symbols only. -/
theorem Expr.value_congr {b b' : Bindings} : ∀ e : Expr, (∀ name ∈ e.names, b name = b' name) →
    e.value b = e.value b'
  | .number _, _ => rfl
  | .symbol name, h => by
    have hname := h name (by simp [names])
    simp only [value, symbolValue, hname]
  | .neg e, h => by rw [value, value, value_congr e h]
  | .factorial e, h => by rw [value, value, value_congr e h]
  | .abs e, h => by rw [value, value, value_congr e h]
  | .sqrt e, h => by rw [value, value, value_congr e h]
  | .binary op l r, h => by
    rw [value, value, value_congr l fun name hname => h name (List.mem_append_left _ hname),
      value_congr r fun name hname => h name (List.mem_append_right _ hname)]
  | .root d r, h => by
    rw [value, value, value_congr r fun name hname => h name (List.mem_append_right _ hname),
      value_congr d fun name hname => h name (List.mem_append_left _ hname)]
  | .log base argument, h => by
    rw [value, value, value_congr argument fun name hname => h name (List.mem_append_right _ hname),
      value_congr base fun name hname => h name (List.mem_append_left _ hname)]
  | .call f args, h => by rw [value, value, values_congr args h]

theorem Expr.values_congr {b b' : Bindings} : ∀ es : List Expr,
    (∀ name ∈ Expr.namesOfAll es, b name = b' name) → Expr.values b es = Expr.values b' es
  | [], _ => rfl
  | e :: es, h => by
    rw [values, values, value_congr e fun name hname => h name (List.mem_append_left _ hname),
      values_congr es fun name hname => h name (List.mem_append_right _ hname)]

end

theorem tokens_of_compile {source : Text} {f : Formula} (h : compile source = .ok f) :
    tokenize source = .ok f.tokens ∧ parse f.tokens = .ok f.expr := by
  obtain ⟨ts, htokens, h⟩ := bind_eq_ok h
  obtain ⟨e, hparse, h⟩ := bind_eq_ok h
  cases h
  exact ⟨htokens, hparse⟩

/-- The value of a formula depends on the bindings of its symbols only. -/
theorem evaluate_congr {source : Text} {f : Formula} (h : compile source = .ok f) {b b' : Bindings}
    (hsymbols : ∀ name ∈ f.symbols, b name = b' name) : f.evaluate b = f.evaluate b' := by
  apply Expr.value_congr
  intro name hname
  apply hsymbols
  rw [mem_names_iff_of_parse (tokens_of_compile h).2] at hname
  exact List.mem_eraseDups.mpr hname

end LiveTex.Formula

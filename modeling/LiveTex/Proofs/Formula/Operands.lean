import LiveTex.Proofs.Formula.Symbols

/-!
The operands of a formula. The symbol tokens and the number tokens are the leaves of the tree, each as often;
a logarithm without a base adds the base ten, and nothing else is added. So the symbols of a formula are what
its value depends on, and evaluation fails for want of a value only if one of them has none.
-/

namespace LiveTex.Formula

mutual

/-- The numbers of a tree, with repetitions. -/
def Expr.numbers : Expr → List Float
  | .number x => [x]
  | .symbol _ => []
  | .neg e | .factorial e | .abs e | .sqrt e => e.numbers
  | .binary _ l r | .root l r | .log l r => l.numbers ++ r.numbers
  | .call _ args => Expr.numbersOfAll args

/-- The numbers of several trees. -/
def Expr.numbersOfAll : List Expr → List Float
  | [] => []
  | e :: rest => e.numbers ++ Expr.numbersOfAll rest

end

/-- The values of the number tokens, with repetitions. -/
def numeralValues (ts : List Token) : List Float :=
  (ts.filter (·.kind = .number)).map fun t => Decimal.read t.lexeme

/-- A token is a logarithm's command, and what follows it is no base. -/
def Token.IsBareLogarithm (t : Token) (ts : List Token) : Prop :=
  t.commandName = "log".toList ∧ passing? .underscore ts = none

instance (t : Token) (ts : List Token) : Decidable (t.IsBareLogarithm ts) :=
  inferInstanceAs (Decidable (_ ∧ _))

/-- How many logarithms are written without a base. -/
def bareLogarithms : List Token → Nat
  | [] => 0
  | t :: ts => (if t.IsBareLogarithm ts then 1 else 0) + bareLogarithms ts

/-- The numbers that tokens bring into a tree: the values of the number tokens, and the base ten for every
logarithm that is written without one. -/
def broughtNumbers : List Token → List Float
  | [] => []
  | t :: ts =>
    if t.kind = .number then Decimal.read t.lexeme :: broughtNumbers ts
    else if t.IsBareLogarithm ts then 10.0 :: broughtNumbers ts
    else broughtNumbers ts

@[simp] theorem broughtNumbers_nil : broughtNumbers [] = [] := rfl

theorem broughtNumbers_cons_number {t : Token} (h : t.kind = .number) (ts : List Token) :
    broughtNumbers (t :: ts) = Decimal.read t.lexeme :: broughtNumbers ts := by
  rw [broughtNumbers, if_pos h]

theorem Command.ofName_eq_log_iff (name : Text) : Command.ofName name = .log ↔ name = "log".toList := by
  constructor
  · intro h
    unfold Command.ofName at h
    repeat' split at h
    all_goals first | assumption | cases h
  · rintro rfl
    decide

theorem Token.commandName_of_ne {t : Token} (h : t.kind ≠ .command) : t.commandName = [] := by
  unfold commandName
  split
  · exact absurd ‹_› h
  · rfl

theorem broughtNumbers_cons_log {t : Token} (h : Command.ofName t.commandName = .log) (ts : List Token) :
    broughtNumbers (t :: ts) =
      (if passing? .underscore ts = none then [10.0] else []) ++ broughtNumbers ts := by
  have hname := (Command.ofName_eq_log_iff _).mp h
  have hkind : t.kind ≠ .number := by
    intro hkind
    rw [Token.commandName_of_ne (by simp [hkind])] at hname
    cases hname
  rw [broughtNumbers, if_neg hkind]
  simp only [Token.IsBareLogarithm, hname, true_and]
  split <;> rfl

/-- Other commands bring no number. -/
theorem broughtNumbers_cons_of_ne_log {t : Token} (hkind : t.kind ≠ .number)
    (h : Command.ofName t.commandName ≠ .log) (ts : List Token) :
    broughtNumbers (t :: ts) = broughtNumbers ts := by
  have hbare : ¬ t.IsBareLogarithm ts := fun hbare => h ((Command.ofName_eq_log_iff _).mpr hbare.1)
  rw [broughtNumbers, if_neg hkind, if_neg hbare]

/-- Marks and symbols bring no number. -/
theorem broughtNumbers_cons_of_ne_command {t : Token} (hkind : t.kind ≠ .number) (h : t.kind ≠ .command)
    (ts : List Token) : broughtNumbers (t :: ts) = broughtNumbers ts := by
  apply broughtNumbers_cons_of_ne_log hkind
  rw [Token.commandName_of_ne h]
  decide

/-- The signs and commands of products bring no number. -/
theorem broughtNumbers_cons_of_factorOperator? {t : Token} {op : Operator} (h : t.factorOperator? = some op)
    (ts : List Token) : broughtNumbers (t :: ts) = broughtNumbers ts := by
  have hnone : Operator.ofCommand? "log".toList = none := by decide
  unfold Token.factorOperator? at h
  split at h
  · next hkind => exact broughtNumbers_cons_of_ne_command (by simp [hkind]) (by simp [hkind]) ts
  · next hkind => exact broughtNumbers_cons_of_ne_command (by simp [hkind]) (by simp [hkind]) ts
  · next hkind =>
    refine broughtNumbers_cons_of_ne_log (by simp [hkind]) (fun hlog => ?_) ts
    rw [(Command.ofName_eq_log_iff _).mp hlog, hnone] at h
    cases h
  · cases h

theorem broughtNumbers_cons_of_termOperator? {t : Token} {op : Operator} (h : t.termOperator? = some op)
    (ts : List Token) : broughtNumbers (t :: ts) = broughtNumbers ts := by
  unfold Token.termOperator? at h
  split at h
  · next hkind => exact broughtNumbers_cons_of_ne_command (by simp [hkind]) (by simp [hkind]) ts
  · next hkind => exact broughtNumbers_cons_of_ne_command (by simp [hkind]) (by simp [hkind]) ts
  · cases h

/-- The marks around a group bring no number. -/
theorem broughtNumbers_cons_of_closer? {t c : Token} (h : t.kind.closer? = some c.kind) :
    (∀ ts, broughtNumbers (t :: ts) = broughtNumbers ts) ∧ ∀ ts, broughtNumbers (c :: ts) = broughtNumbers ts := by
  obtain ⟨ht, hc⟩ | ⟨ht, hc⟩ | ⟨ht, hc⟩ := Token.Kind.closer?_eq_some h <;>
    exact ⟨broughtNumbers_cons_of_ne_command (by simp [ht]) (by simp [ht]),
      broughtNumbers_cons_of_ne_command (by simp [hc]) (by simp [hc])⟩

theorem broughtNumbers_perm (ts : List Token) :
    (broughtNumbers ts).Perm (numeralValues ts ++ .replicate (bareLogarithms ts) 10.0) := by
  induction ts with
  | nil => exact .refl _
  | cons t ts ih =>
    by_cases hnumber : t.kind = .number
    · have hbare : ¬ t.IsBareLogarithm ts := by
        rintro ⟨hname, -⟩
        rw [Token.commandName_of_ne (by simp [hnumber])] at hname
        cases hname
      simpa [broughtNumbers, numeralValues, bareLogarithms, hnumber, hbare] using ih
    · by_cases hbare : t.IsBareLogarithm ts
      · have hmiddle : (numeralValues ts ++ 10.0 :: List.replicate (bareLogarithms ts) 10.0).Perm
            (10.0 :: (numeralValues ts ++ List.replicate (bareLogarithms ts) 10.0)) := List.perm_middle
        simpa [broughtNumbers, numeralValues, bareLogarithms, hnumber, hbare, Nat.add_comm 1,
          List.replicate_succ] using (ih.cons 10.0).trans hmiddle.symm
      · simpa [broughtNumbers, numeralValues, bareLogarithms, hnumber, hbare] using ih

section

variable (p : Float → Bool)

theorem countP_numbers_rooted (e : Expr) (ds : List Expr) (h : ds.length ≤ 1) :
    (rooted e ds).numbers.countP p = e.numbers.countP p + (Expr.numbersOfAll ds).countP p := by
  match ds, h with
  | [], _ => simp [rooted, Expr.numbers, Expr.numbersOfAll]
  | [d], _ => simp [rooted, Expr.numbers, Expr.numbersOfAll, Nat.add_comm]

theorem countP_numbers_raised (e : Expr) (ps : List Expr) (h : ps.length ≤ 1) :
    (raised e ps.head?).numbers.countP p = e.numbers.countP p + (Expr.numbersOfAll ps).countP p := by
  match ps, h with
  | [], _ => simp [raised, Expr.numbersOfAll]
  | [p], _ => simp [raised, Expr.numbers, Expr.numbersOfAll]

/-- The numbers that the phrase brings into the tree before it reads a token. -/
def Phrase.brought (phrase : Phrase) (ts : List Token) : List Float :=
  match phrase with
  | .base => if passing? .underscore ts = none then [10.0] else []
  | _ => []

/-- No number gets lost, and none is added but the bases of logarithms that are written without one. -/
theorem Reads.countP_numbers {n : Nat} {phrase : Phrase} {ts rest : List Token} {es : List Expr}
    (h : Reads n phrase ts es rest) :
    (Expr.numbersOfAll es).countP p + (broughtNumbers rest).countP p =
      (Expr.numbersOfAll phrase.pending).countP p + (phrase.brought ts).countP p +
        (broughtNumbers ts).countP p := by
  induction h with
  | number ht =>
    simp [broughtNumbers_cons_number ht, Expr.numbersOfAll, Expr.numbers, Phrase.pending, Phrase.brought,
      List.countP_cons, Nat.add_comm]
  | group ht _ ih | argumentsListed ht _ _ _ ih' ih =>
    obtain ⟨hopen, hclose⟩ := broughtNumbers_cons_of_closer? ht
    simp_all [Expr.numbersOfAll, Phrase.pending, Phrase.brought]
    try omega
  | root ht hname hdegree _ ihDegree ihRadicand =>
    have hsingle := fun e => countP_numbers_rooted p e _ hdegree.length_outputs
    simp_all [broughtNumbers_cons_of_ne_log, Expr.numbersOfAll, Phrase.pending, Phrase.brought]
    omega
  | log ht hname _ hpower _ ihBase ihPower ihArguments =>
    have hsingle := fun e => countP_numbers_raised p e _ hpower.length_outputs
    simp_all [broughtNumbers_cons_log, Expr.numbersOfAll, Expr.numbers, Phrase.pending, Phrase.brought]
    omega
  | func ht hname hpower _ _ ihPower ihArguments =>
    have hsingle := fun e => countP_numbers_raised p e _ hpower.length_outputs
    simp_all [broughtNumbers_cons_of_ne_log, Expr.numbersOfAll, Expr.numbers, Phrase.pending, Phrase.brought]
    omega
  | factor hnext _ _ ihRight ihMore =>
    obtain ⟨t, hop, rfl⟩ := Continuation.of_eq_operator hnext
    have hcons := broughtNumbers_cons_of_factorOperator? hop
    simp_all [Expr.numbersOfAll, Expr.numbers, Phrase.pending, Phrase.brought]
    omega
  | term hop _ _ ihRight ihMore =>
    have hcons := broughtNumbers_cons_of_termOperator? hop
    simp_all [Expr.numbersOfAll, Expr.numbers, Phrase.pending, Phrase.brought]
    omega
  | fraction ht hname | abs ht hname =>
    simp_all [broughtNumbers_cons_of_ne_log, Expr.numbersOfAll, Expr.numbers, Phrase.pending, Phrase.brought]
    try omega
  | _ =>
    simp_all [broughtNumbers_cons_of_ne_command, Expr.numbersOfAll, Expr.numbers, Phrase.pending, Phrase.brought,
      commonBase, passing?]
    try omega

end

theorem perm_of_countP_eq {α : Type} {l l' : List α} (h : ∀ p : α → Bool, l.countP p = l'.countP p) : l.Perm l' := by
  classical exact List.perm_iff_count.mpr fun a => h (· == a)

/-- The numbers of a parsed tree are those that its tokens bring. -/
theorem numbers_perm_of_parse {ts : List Token} {e : Expr} (h : parse ts = .ok e) :
    e.numbers.Perm (numeralValues ts ++ .replicate (bareLogarithms ts) 10.0) := by
  refine List.Perm.trans ?_ (broughtNumbers_perm ts)
  apply perm_of_countP_eq
  intro p
  simpa [Expr.numbersOfAll, Phrase.pending, Phrase.brought] using (reads_of_parse h).2.countP_numbers p

/-- The symbols of a parsed tree are those of its tokens, each as often. -/
theorem names_perm_of_parse {ts : List Token} {e : Expr} (h : parse ts = .ok e) :
    e.names.Perm (symbolLexemes ts) := by
  rw [List.perm_iff_count]
  intro name
  simpa [Expr.namesOfAll, Phrase.pending] using (reads_of_parse h).2.count_names name

theorem bind_eq_error {α β : Type} {x : Except Error α} {f : α → Except Error β} {reason : Error}
    (h : x >>= f = .error reason) : x = .error reason ∨ ∃ a, x = .ok a ∧ f a = .error reason := by
  cases x with
  | error e => cases h; exact .inl rfl
  | ok a => exact .inr ⟨a, rfl, h⟩

/-- A name without a binding has a value if it is one of the two constants. -/
theorem constant?_eq_none_iff (name : Text) : constant? name = none ↔ name ≠ "PI".toList ∧ name ≠ ['E'] := by
  unfold constant?
  split
  · next h => simp [h]
  · next h => split <;> simp_all

theorem of_symbolValue_eq_ok {b : Bindings} {name : Text} {x : Float} (h : symbolValue b name = .ok x) :
    b name ≠ none ∨ name = "PI".toList ∨ name = ['E'] := by
  by_cases hconstant : constant? name = none
  · left
    intro hnone
    simp [symbolValue, hnone, hconstant] at h
  · rw [constant?_eq_none_iff] at hconstant
    by_cases hpi : name = "PI".toList
    · exact .inr (.inl hpi)
    · exact .inr (.inr (Decidable.byContradiction fun he => hconstant ⟨hpi, he⟩))

theorem of_symbolValue_eq_error {b : Bindings} {name : Text} {reason : Error}
    (h : symbolValue b name = .error reason) :
    reason = .unboundSymbol name ∧ b name = none ∧ name ≠ "PI".toList ∧ name ≠ ['E'] := by
  unfold symbolValue at h
  split at h
  · cases h
  · next hnone =>
    split at h
    · cases h
    · next hconstant =>
      cases h
      exact ⟨rfl, hnone, (constant?_eq_none_iff name).mp hconstant⟩

mutual

/-- A tree has a value only if each of its symbols has one. -/
theorem Expr.symbolValue_eq_ok {b : Bindings} {name : Text} :
    ∀ {e : Expr} {x : Float}, e.value b = .ok x → name ∈ e.names → ∃ y, symbolValue b name = .ok y
  | .number _, _, _, hname => by cases hname
  | .symbol other, x, h, hname => by
    obtain rfl := List.mem_singleton.mp hname
    exact ⟨x, h⟩
  | .neg e, _, h, hname | .factorial e, _, h, hname | .abs e, _, h, hname | .sqrt e, _, h, hname => by
    obtain ⟨y, hy, -⟩ := bind_eq_ok h
    exact symbolValue_eq_ok hy hname
  | .binary op l r, _, h, hname => by
    obtain ⟨y, hy, h⟩ := bind_eq_ok h
    obtain ⟨z, hz, -⟩ := bind_eq_ok h
    exact (List.mem_append.mp hname).elim (symbolValue_eq_ok hy) (symbolValue_eq_ok hz)
  | .root l r, _, h, hname | .log l r, _, h, hname => by
    obtain ⟨y, hy, h⟩ := bind_eq_ok h
    obtain ⟨z, hz, -⟩ := bind_eq_ok h
    exact (List.mem_append.mp hname).elim (symbolValue_eq_ok hz) (symbolValue_eq_ok hy)
  | .call f args, _, h, hname => by
    obtain ⟨ys, hys, -⟩ := bind_eq_ok h
    exact symbolValue_eq_ok_of_values hys hname

theorem Expr.symbolValue_eq_ok_of_values {b : Bindings} {name : Text} :
    ∀ {es : List Expr} {xs : List Float}, Expr.values b es = .ok xs → name ∈ Expr.namesOfAll es →
      ∃ y, symbolValue b name = .ok y
  | [], _, _, hname => by cases hname
  | e :: es, _, h, hname => by
    obtain ⟨y, hy, h⟩ := bind_eq_ok h
    obtain ⟨ys, hys, -⟩ := bind_eq_ok h
    exact (List.mem_append.mp hname).elim (symbolValue_eq_ok hy) (symbolValue_eq_ok_of_values hys)

end

mutual

/-- When a tree has no value for want of a symbol's, the symbol is one of its own. -/
theorem Expr.symbolValue_eq_error {b : Bindings} {name : Text} : ∀ {e : Expr},
    e.value b = .error (.unboundSymbol name) →
      name ∈ e.names ∧ symbolValue b name = .error (.unboundSymbol name)
  | .number _, h => by cases h
  | .symbol other, h => by
    obtain ⟨hreason, -⟩ := of_symbolValue_eq_error h
    cases hreason
    exact ⟨List.mem_singleton_self _, h⟩
  | .neg e, h | .abs e, h | .sqrt e, h => by
    obtain h | ⟨y, -, h⟩ := bind_eq_error h
    · exact symbolValue_eq_error (e := e) h
    · cases h
  | .factorial e, h => by
    obtain h | ⟨y, -, h⟩ := bind_eq_error h
    · exact symbolValue_eq_error (e := e) h
    · unfold Formula.factorial at h
      split at h
      · cases h
      · split at h <;> cases h
  | .binary op l r, h => by
    obtain h | ⟨y, -, h⟩ := bind_eq_error h
    · exact (symbolValue_eq_error h).imp_left (List.mem_append_left _)
    · obtain h | ⟨z, -, h⟩ := bind_eq_error h
      · exact (symbolValue_eq_error h).imp_left (List.mem_append_right _)
      · cases h
  | .root l r, h | .log l r, h => by
    obtain h | ⟨y, -, h⟩ := bind_eq_error h
    · exact (symbolValue_eq_error h).imp_left (List.mem_append_right _)
    · obtain h | ⟨z, -, h⟩ := bind_eq_error h
      · exact (symbolValue_eq_error h).imp_left (List.mem_append_left _)
      · cases h
  | .call f args, h => by
    obtain h | ⟨ys, -, h⟩ := bind_eq_error h
    · exact symbolValue_eq_error_of_values (show Expr.values b args = _ from h)
    · cases h

theorem Expr.symbolValue_eq_error_of_values {b : Bindings} {name : Text} : ∀ {es : List Expr},
    Expr.values b es = .error (.unboundSymbol name) →
      name ∈ Expr.namesOfAll es ∧ symbolValue b name = .error (.unboundSymbol name)
  | [], h => by cases h
  | e :: es, h => by
    obtain h | ⟨y, -, h⟩ := bind_eq_error h
    · exact (symbolValue_eq_error h).imp_left (List.mem_append_left _)
    · obtain h | ⟨ys, -, h⟩ := bind_eq_error h
      · exact (symbolValue_eq_error_of_values h).imp_left (List.mem_append_right _)
      · cases h

end

theorem nodup_eraseDups (names : List Text) : names.eraseDups.Nodup := by
  generalize hlength : names.length = n
  induction n using Nat.strongRecOn generalizing names with
  | ind n ih =>
    cases names with
    | nil => exact List.nodup_nil
    | cons name rest =>
      have hshorter : (rest.filter fun other => !other == name).length < n := by
        have hle := List.length_filter_le (fun other => !other == name) rest
        rw [List.length_cons] at hlength
        omega
      rw [List.eraseDups_cons, List.nodup_cons]
      exact ⟨by simp [List.mem_eraseDups], ih _ hshorter _ rfl⟩

theorem nodup_symbols (f : Formula) : f.symbols.Nodup := nodup_eraseDups _

/-- The symbols of a formula are what it depends on. Its tokens and its tree have the same symbols, each as
often, and the same numbers but for the base ten of each logarithm without a base. So the symbols of the
formula are those of the tree, each of them once; the value is the same under bindings that agree on them;
a value is missing for want of a symbol's only if that symbol is one of them, unbound and no constant; and
there is a value only if each of them is bound or a constant. -/
theorem evaluate_depends_on_symbols {source : Text} {f : Formula} (h : compile source = .ok f) :
    tokenize source = .ok f.tokens ∧ f.expr.names.Perm (symbolLexemes f.tokens) ∧
      f.expr.numbers.Perm (numeralValues f.tokens ++ .replicate (bareLogarithms f.tokens) 10.0) ∧
      f.symbols.Nodup ∧ (∀ name, name ∈ f.symbols ↔ name ∈ f.expr.names) ∧
      (∀ b b' : Bindings, (∀ name ∈ f.symbols, b name = b' name) → f.evaluate b = f.evaluate b') ∧
      (∀ (b : Bindings) name, f.evaluate b = .error (.unboundSymbol name) →
        name ∈ f.symbols ∧ b name = none ∧ name ≠ "PI".toList ∧ name ≠ "E".toList) ∧
      ∀ (b : Bindings) x, f.evaluate b = .ok x →
        ∀ name ∈ f.symbols, b name ≠ none ∨ name = "PI".toList ∨ name = "E".toList := by
  obtain ⟨htokens, hparse⟩ := tokens_of_compile h
  have hsymbols (name : Text) : name ∈ f.symbols ↔ name ∈ f.expr.names := by
    rw [mem_names_iff_of_parse hparse, symbols, List.mem_eraseDups]
  refine ⟨htokens, names_perm_of_parse hparse, numbers_perm_of_parse hparse, f.nodup_symbols, hsymbols,
    fun b b' => evaluate_congr h, fun b name hvalue => ?_, fun b x hvalue name hname => ?_⟩
  · obtain ⟨hname, hunbound⟩ := Expr.symbolValue_eq_error hvalue
    exact ⟨(hsymbols name).mpr hname, (of_symbolValue_eq_error hunbound).2⟩
  · obtain ⟨y, hy⟩ := Expr.symbolValue_eq_ok hvalue ((hsymbols name).mp hname)
    exact of_symbolValue_eq_ok hy

/-- Two logarithms, one of them with a base: the tree has the base ten beside the numbers that are written. -/
theorem evaluate_depends_on_symbols_of_logarithms :
    ∃ f, compile "\\log(x)+2\\log_3(x)+E".toList = .ok f ∧ f.symbols = ["x".toList, "E".toList] ∧
      f.expr.names.Perm ["x".toList, "x".toList, "E".toList] ∧
      f.expr.numbers.Perm [Decimal.read ['2'], Decimal.read ['3'], 10.0] ∧
      ∀ b : Bindings, f.evaluate b = .error (.unboundSymbol "x".toList) → b "x".toList = none := by
  have hcompiles : ((compile "\\log(x)+2\\log_3(x)+E".toList).toOption.map fun f =>
      (symbolLexemes f.tokens, (f.tokens.filter (·.kind = .number)).map (·.lexeme), bareLogarithms f.tokens)) =
        some (["x".toList, "x".toList, "E".toList], [['2'], ['3']], 1) := by
    decide +kernel
  cases hf : compile "\\log(x)+2\\log_3(x)+E".toList with
  | error e =>
    rw [hf] at hcompiles
    cases hcompiles
  | ok f =>
    simp only [hf, Except.toOption, Option.map_some, Option.some.injEq, Prod.mk.injEq] at hcompiles
    obtain ⟨hlexemes, hnumerals, hbare⟩ := hcompiles
    obtain ⟨-, hnames, hnumbers, -, -, -, hunbound, -⟩ := evaluate_depends_on_symbols hf
    refine ⟨f, rfl, ?_, hlexemes ▸ hnames, ?_, fun b hb => (hunbound b _ hb).2.1⟩
    · rw [symbols, hlexemes]
      decide
    · have hvalues : numeralValues f.tokens = [['2'], ['3']].map Decimal.read := by
        rw [← hnumerals, List.map_map]
        rfl
      rw [hvalues, hbare] at hnumbers
      exact hnumbers

end LiveTex.Formula

import LiveTex.Proofs.Formula.Operands
import LiveTex.Proofs.Formula.Placement

/-!
What can fail when. A function that is called in a parsed tree has as many arguments as it takes, so nothing is left for
the evaluation to check: a formula that compiles fails only for want of a value or for a factorial.
-/

namespace LiveTex.Formula

mutual

/-- The functions that are called in a tree, with their arguments. -/
def Expr.calls : Expr → List (Func × List Expr)
  | .number _ | .symbol _ => []
  | .neg e | .factorial e | .abs e | .sqrt e => e.calls
  | .binary _ l r | .root l r | .log l r => l.calls ++ r.calls
  | .call f args => (f, args) :: Expr.callsOfAll args

/-- The functions that are called in several trees. -/
def Expr.callsOfAll : List Expr → List (Func × List Expr)
  | [] => []
  | e :: rest => e.calls ++ Expr.callsOfAll rest

end

/-- Each of the calls has as many arguments as its function takes. -/
def Admitted (calls : List (Func × List Expr)) : Prop := ∀ c ∈ calls, c.1.arity.admits c.2.length = true

@[simp] theorem admitted_nil : Admitted [] := by
  simp [Admitted]

@[simp] theorem admitted_cons (c : Func × List Expr) (calls : List (Func × List Expr)) :
    Admitted (c :: calls) ↔ c.1.arity.admits c.2.length = true ∧ Admitted calls := by
  simp [Admitted]

@[simp] theorem admitted_append (calls calls' : List (Func × List Expr)) :
    Admitted (calls ++ calls') ↔ Admitted calls ∧ Admitted calls' := by
  simp [Admitted, or_imp, forall_and]

theorem Expr.callsOfAll_singleton (e : Expr) : Expr.callsOfAll [e] = e.calls := by
  simp [callsOfAll]

theorem admitted_rooted {e : Expr} {ds : List Expr} (he : Admitted e.calls) (hds : Admitted (Expr.callsOfAll ds)) :
    Admitted (rooted e ds).calls := by
  cases ds with
  | nil => exact he
  | cons d ds => simp_all [rooted, Expr.calls, Expr.callsOfAll]

theorem admitted_raised {e : Expr} {ps : List Expr} (he : Admitted e.calls) (hps : Admitted (Expr.callsOfAll ps)) :
    Admitted (raised e ps.head?).calls := by
  cases ps with
  | nil => exact he
  | cons p ps => simp_all [raised, Expr.calls, Expr.callsOfAll]

/-- A phrase that goes on from lawful calls brings lawful calls only. -/
theorem Reads.admitted {n : Nat} {phrase : Phrase} {ts rest : List Token} {es : List Expr}
    (h : Reads n phrase ts es rest) (hpending : Admitted (Expr.callsOfAll phrase.pending)) :
    Admitted (Expr.callsOfAll es) := by
  induction h with
  | root _ _ _ _ ihDegree ihRadicand =>
    have hradicand := ihRadicand admitted_nil
    rw [Expr.callsOfAll_singleton] at hradicand ⊢
    exact admitted_rooted hradicand (ihDegree admitted_nil)
  | log _ _ _ _ _ ihBase ihPower ihArguments =>
    rw [Expr.callsOfAll_singleton]
    refine admitted_raised ?_ (ihPower admitted_nil)
    simp_all [Expr.calls, Expr.callsOfAll, Phrase.pending]
  | func _ _ _ _ harity ihPower ihArguments =>
    rw [Expr.callsOfAll_singleton]
    refine admitted_raised ?_ (ihPower admitted_nil)
    rw [Expr.calls, admitted_cons]
    exact ⟨harity, ihArguments admitted_nil⟩
  | _ => simp_all [Expr.calls, Expr.callsOfAll, Phrase.pending, commonBase]

/-- Calls with a wrong number of arguments are no formulas. -/
theorem admitted_of_parse {ts : List Token} {e : Expr} (h : parse ts = .ok e) : Admitted e.calls := by
  simpa [Expr.callsOfAll] using (reads_of_parse h).2.admitted (by simp [Expr.callsOfAll, Phrase.pending])

theorem Func.arity_admits_iff (f : Func) (got : Nat) :
    f.arity.admits got = true ↔ if f = .min ∨ f = .max then 1 ≤ got else got = 1 := by
  cases f <;> simp [arity, Arity.admits]

mutual

/-- The value of a formula when each function looks how many arguments it gets. -/
def Expr.valueChecked (bindings : Bindings) : Expr → Except Error Float
  | .number x => .ok x
  | .symbol name => symbolValue bindings name
  | .neg e => do
    let x ← e.valueChecked bindings
    return -x
  | .binary op l r => do
    let x ← l.valueChecked bindings
    let y ← r.valueChecked bindings
    return op.apply x y
  | .factorial e => do
    let x ← e.valueChecked bindings
    Formula.factorial x
  | .abs e => do
    let x ← e.valueChecked bindings
    return x.abs
  | .sqrt e => do
    let x ← e.valueChecked bindings
    return x.sqrt
  | .root degree radicand => do
    let x ← radicand.valueChecked bindings
    let n ← degree.valueChecked bindings
    return nthRoot x n
  | .log base argument => do
    let x ← argument.valueChecked bindings
    let b ← base.valueChecked bindings
    return logarithm x b
  | .call f args => do
    let xs ← Expr.valuesChecked bindings args
    if f.arity.admits xs.length then return f.apply xs else .error (.arity f.name f.arity xs.length)

/-- The values of several formulas when each function looks how many arguments it gets. -/
def Expr.valuesChecked (bindings : Bindings) : List Expr → Except Error (List Float)
  | [] => .ok []
  | e :: rest => do
    let x ← e.valueChecked bindings
    let xs ← Expr.valuesChecked bindings rest
    return x :: xs

end

theorem Expr.length_values {b : Bindings} {es : List Expr} {xs : List Float} (h : Expr.values b es = .ok xs) :
    xs.length = es.length := by
  induction es generalizing xs with
  | nil => cases h; rfl
  | cons e es ih =>
    obtain ⟨x, -, h⟩ := bind_eq_ok h
    obtain ⟨ys, hys, h⟩ := bind_eq_ok h
    cases h
    simp [ih hys]

mutual

/-- Where every call has as many arguments as its function takes, looking makes no difference. -/
theorem Expr.valueChecked_eq (b : Bindings) : ∀ e : Expr, Admitted e.calls → e.valueChecked b = e.value b
  | .number _, _ => rfl
  | .symbol _, _ => rfl
  | .neg e, h | .factorial e, h | .abs e, h | .sqrt e, h => by rw [valueChecked, value, valueChecked_eq b e h]
  | .binary op l r, h | .root l r, h | .log l r, h => by
    rw [calls, admitted_append] at h
    rw [valueChecked, value, valueChecked_eq b l h.1, valueChecked_eq b r h.2]
  | .call f args, h => by
    rw [calls, admitted_cons] at h
    rw [valueChecked, value, valuesChecked_eq b args h.2]
    cases hvalues : Expr.values b args with
    | error => rfl
    | ok xs =>
      have hlength := length_values hvalues
      simp only [ok_bind, hlength, h.1, if_true]

theorem Expr.valuesChecked_eq (b : Bindings) : ∀ es : List Expr, Admitted (Expr.callsOfAll es) →
    Expr.valuesChecked b es = Expr.values b es
  | [], _ => rfl
  | e :: es, h => by
    rw [callsOfAll, admitted_append] at h
    rw [valuesChecked, values, valueChecked_eq b e h.1, valuesChecked_eq b es h.2]

end

theorem isSyntax_of_symbolValue {b : Bindings} {name : Text} {reason : Error} (h : symbolValue b name = .error reason) :
    reason.isSyntax = false := by
  rw [(of_symbolValue_eq_error h).1]
  rfl

theorem isSyntax_of_factorial {x : Float} {reason : Error} (h : factorial x = .error reason) :
    reason.isSyntax = false := by
  unfold factorial at h
  split at h
  · cases h
    rfl
  · split at h <;> cases h

mutual

/-- No error of the evaluation is one of syntax. -/
theorem Expr.isSyntax_of_value {b : Bindings} {reason : Error} : ∀ {e : Expr}, e.value b = .error reason →
    reason.isSyntax = false
  | .number _, h => by cases h
  | .symbol _, h => isSyntax_of_symbolValue h
  | .neg e, h | .abs e, h | .sqrt e, h => by
    obtain h | ⟨y, -, h⟩ := bind_eq_error h
    · exact isSyntax_of_value (e := e) h
    · cases h
  | .factorial e, h => by
    obtain h | ⟨y, -, h⟩ := bind_eq_error h
    · exact isSyntax_of_value (e := e) h
    · exact isSyntax_of_factorial h
  | .binary op l r, h => by
    obtain h | ⟨y, -, h⟩ := bind_eq_error h
    · exact isSyntax_of_value (e := l) h
    · obtain h | ⟨z, -, h⟩ := bind_eq_error h
      · exact isSyntax_of_value (e := r) h
      · cases h
  | .root l r, h | .log l r, h => by
    obtain h | ⟨y, -, h⟩ := bind_eq_error h
    · exact isSyntax_of_value (e := r) h
    · obtain h | ⟨z, -, h⟩ := bind_eq_error h
      · exact isSyntax_of_value (e := l) h
      · cases h
  | .call f args, h => by
    obtain h | ⟨ys, -, h⟩ := bind_eq_error h
    · exact isSyntax_of_values h
    · cases h

theorem Expr.isSyntax_of_values {b : Bindings} {reason : Error} : ∀ {es : List Expr}, Expr.values b es = .error reason →
    reason.isSyntax = false
  | [], h => by cases h
  | e :: es, h => by
    obtain h | ⟨y, -, h⟩ := bind_eq_error h
    · exact isSyntax_of_value h
    · obtain h | ⟨ys, -, h⟩ := bind_eq_error h
      · exact isSyntax_of_values h
      · cases h

end

theorem Error.isSyntax_eq_false_iff (reason : Error) :
    reason.isSyntax = false ↔ (∃ name, reason = .unboundSymbol name) ∨ ∃ x, reason = .factorialDomain x := by
  cases reason <;> simp [isSyntax]

theorem isSyntax_of_tokenizeFrom {offset : Nat} {t : Text} {reason : Error} (h : tokenizeFrom offset t = .error reason) :
    reason.isSyntax = true := by
  induction offset, t using tokenizeFrom.induct with
  | case1 offset =>
    rw [tokenizeFrom] at h
    cases h
  | case2 offset c t hitem =>
    rw [tokenizeFrom, hitem] at h
    cases h
    rfl
  | case3 offset c t stop hitem ih =>
    rw [tokenizeFrom, hitem] at h
    exact ih h
  | case4 offset c t stop kind hitem ih =>
    rw [tokenizeFrom, hitem] at h
    cases hrest : tokenizeFrom (offset + Text.bytes (head c t).taken) (head c t).rest with
    | error e =>
      simp only [hrest] at h
      cases h
      exact ih hrest
    | ok rest =>
      simp only [hrest] at h
      cases h

theorem isSyntax_of_compile {source : Text} {reason : Error} (h : compile source = .error reason) :
    reason.isSyntax = true := by
  obtain h | ⟨ts, -, h⟩ := bind_eq_error h
  · exact isSyntax_of_tokenizeFrom h
  · obtain h | ⟨e, -, h⟩ := bind_eq_error h
    · exact isSyntax_of_parse h
    · cases h

/-- Compiling and evaluating fail for different reasons. A source that does not compile has an error of syntax. In a
formula that compiles, each function has one argument, or at least one if it is the least or the greatest of several; so
evaluation is the same whether functions look how many arguments they get or not, and it fails only for a symbol without
a value or for a factorial. -/
theorem failures_are_separated (source : Text) :
    (∀ reason, compile source = .error reason → reason.isSyntax = true) ∧
      ∀ f, compile source = .ok f →
        (∀ g args, (g, args) ∈ f.expr.calls → if g = .min ∨ g = .max then 1 ≤ args.length else args.length = 1) ∧
          ∀ bindings, f.expr.valueChecked bindings = f.evaluate bindings ∧
            ∀ reason, f.evaluate bindings = .error reason → reason.isSyntax = false ∧
              ((∃ name, reason = .unboundSymbol name) ∨ ∃ x, reason = .factorialDomain x) := by
  refine ⟨fun reason => isSyntax_of_compile, fun f hcompile => ?_⟩
  have hadmitted := admitted_of_parse (tokens_of_compile hcompile).2
  refine ⟨fun g args hcall => (g.arity_admits_iff _).mp (hadmitted _ hcall), fun bindings => ?_⟩
  refine ⟨Expr.valueChecked_eq bindings f.expr hadmitted, fun reason hvalue => ?_⟩
  have hreason := Expr.isSyntax_of_value hvalue
  exact ⟨hreason, reason.isSyntax_eq_false_iff.mp hreason⟩

/-- Two arguments are too many for a sine and not for a maximum, whose factorial fails for want of a value. -/
theorem failures_are_separated_of_maximum :
    let unbound : Bindings := fun _ => none
    (∃ reason, compile "\\sin(1,2)".toList = .error reason ∧ reason.isSyntax = true) ∧
      ∃ f, compile "\\max(x,2)!".toList = .ok f ∧
        f.expr.calls = [(.max, [.symbol ['x'], .number (Decimal.read ['2'])])] ∧
        (∀ args, (.max, args) ∈ f.expr.calls → 1 ≤ args.length) ∧ f.expr.valueChecked unbound = f.evaluate unbound ∧
        ∃ reason, f.evaluate unbound = .error reason ∧ reason.isSyntax = false := by
  intro unbound
  have hsine : compile "\\sin(1,2)".toList = .error (.arity "sin".toList .one 2) := by
    have htokens : tokenize "\\sin(1,2)".toList = .ok [⟨.command, "\\sin".toList, 0, 4⟩, ⟨.leftParen, ['('], 4, 5⟩,
        ⟨.number, ['1'], 5, 6⟩, ⟨.comma, [','], 6, 7⟩, ⟨.number, ['2'], 7, 8⟩, ⟨.rightParen, [')'], 8, 9⟩] :=
      eq_ok_of_toOption (by decide +kernel)
    rw [compile, htokens]
    rfl
  have hmaximum : ∃ f, compile "\\max(x,2)!".toList = .ok f ∧
      f.expr = .factorial (.call .max [.symbol ['x'], .number (Decimal.read ['2'])]) := by
    have htokens : tokenize "\\max(x,2)!".toList = .ok [⟨.command, "\\max".toList, 0, 4⟩, ⟨.leftParen, ['('], 4, 5⟩,
        ⟨.symbol, ['x'], 5, 6⟩, ⟨.comma, [','], 6, 7⟩, ⟨.number, ['2'], 7, 8⟩, ⟨.rightParen, [')'], 8, 9⟩,
        ⟨.bang, ['!'], 9, 10⟩] := eq_ok_of_toOption (by decide +kernel)
    rw [compile, htokens]
    exact ⟨_, rfl, rfl⟩
  obtain ⟨f, hcompile, hexpr⟩ := hmaximum
  have hcalls : f.expr.calls = [(.max, [.symbol ['x'], .number (Decimal.read ['2'])])] := by
    rw [hexpr]
    rfl
  have hvalue : f.evaluate unbound = .error (.unboundSymbol ['x']) := by
    rw [evaluate, hexpr]
    rfl
  obtain ⟨hfails, -⟩ := failures_are_separated "\\sin(1,2)".toList
  obtain ⟨-, hworks⟩ := failures_are_separated "\\max(x,2)!".toList
  obtain ⟨harguments, hevaluates⟩ := hworks f hcompile
  obtain ⟨hchecked, hreasons⟩ := hevaluates unbound
  refine ⟨⟨_, hsine, hfails _ hsine⟩, f, hcompile, hcalls, fun args hargs => ?_, hchecked, _, hvalue, (hreasons _ hvalue).1⟩
  have hadmitted := harguments .max args hargs
  rwa [if_pos (.inr rfl)] at hadmitted

end LiveTex.Formula

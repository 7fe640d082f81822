import LiveTex.Proofs.Formula.Symbols
import LiveTex.Sheet.Evaluation

/-!
What an evaluation can come to. A text has a target, the variable that it assigns, and an expected
evaluation, which only depends on the formula, the target and the bindings. An evaluation comes to the
expected one unless the assignment is refused, and nothing but the target is written.
-/

namespace LiveTex

/-- What a formula comes to under bindings when it is the right side of an assignment to `target`. -/
def Evaluation.expected (formula : Text) (target : Option Ident) (bindings : Formula.Bindings) :
    Option Evaluation :=
  match Formula.compile formula with
  | .error _ => none
  | .ok f => match f.evaluate bindings with
    | .error _ => none
    | .ok x => some ⟨target, f.symbols, if x.isNaN then none else some x⟩

theorem Evaluation.defined_of_expected {formula : Text} {target : Option Ident}
    {bindings : Formula.Bindings} {e : Evaluation} (h : expected formula target bindings = some e) :
    e.defined = target := by
  unfold expected at h
  split at h
  · cases h
  · split at h
    · cases h
    · cases h; rfl

/-- The target of a formula says where its value goes, and nothing about the value. -/
theorem Evaluation.expected_eq_map (formula : Text) (target target' : Option Ident) (bindings : Formula.Bindings) :
    expected formula target' bindings =
      (expected formula target bindings).map fun e => { e with defined := target' } := by
  unfold expected
  cases Formula.compile formula with
  | error => rfl
  | ok f => cases hvalue : f.evaluate bindings <;> simp only [hvalue, Option.map_none, Option.map_some]

/-- The symbols of a formula; none when it does not compile. -/
def Formula.symbolsOf (formula : Text) : List Ident :=
  match Formula.compile formula with
  | .error _ => []
  | .ok f => f.symbols

theorem Evaluation.used_of_expected {formula : Text} {target : Option Ident}
    {bindings : Formula.Bindings} {e : Evaluation} (h : expected formula target bindings = some e) :
    e.used = Formula.symbolsOf formula := by
  unfold expected at h
  unfold Formula.symbolsOf
  split at h
  · cases h
  · next f hf =>
    split at h
    · cases h
    · cases h
      rfl

/-- What a formula comes to depends on the bindings of its symbols only. -/
theorem Evaluation.expected_congr {formula : Text} {target : Option Ident} {b b' : Formula.Bindings}
    (h : ∀ name ∈ Formula.symbolsOf formula, b name = b' name) :
    expected formula target b = expected formula target b' := by
  unfold expected
  cases hcompile : Formula.compile formula with
  | error => rfl
  | ok f =>
    have hsymbols : Formula.symbolsOf formula = f.symbols := by
      rw [Formula.symbolsOf, hcompile]
    rw [hsymbols] at h
    simp only [Formula.evaluate_congr hcompile h]

namespace Store

/-- The formula that a text comes to in the store. -/
def formulaOf (s : Store) (latex : Text) : Text := s.resolved (Statement.read latex)

/-- The variable that a text assigns: a stored one that shares a spelling with the left side, or the
one that is minted next. -/
def target (s : Store) (latex : Text) : Option Ident :=
  (Statement.read latex).defines.map fun name =>
    (s.resolveAny (Name.aliases name)).getD s.mintIdent.2

/-- What a text comes to in the store when its assignment is not refused. -/
def expected (s : Store) (latex : Text) : Option Evaluation :=
  Evaluation.expected (s.formulaOf latex) (s.target latex) s.bindings

theorem lookup_put (entries : List (Ident × Variable)) (ident other : Ident) (v : Variable) :
    (put ident v entries).lookup other = if other = ident then some v else entries.lookup other := by
  induction entries with
  | nil =>
    by_cases hother : other = ident
    · simp [put, hother]
    · simp [put, List.lookup_cons, hother, beq_eq_false_iff_ne.mpr hother]
  | cons entry rest ih =>
    obtain ⟨name, w⟩ := entry
    simp only [put]
    by_cases hname : name = ident
    · subst hname
      by_cases hother : other = name
      · simp [hother]
      · simp [List.lookup_cons, hother, beq_eq_false_iff_ne.mpr hother]
    · simp only [hname, ↓reduceIte, List.lookup_cons]
      by_cases hother : other = name
      · subst hother
        simp [hname]
      · simp only [beq_eq_false_iff_ne.mpr hother, ih]

/-- A variable that is stored under the identifier is written over in its place. -/
theorem put_of_mem {before after : List (Ident × Variable)} {ident : Ident} {w : Variable} (v : Variable)
    (h : ∀ p ∈ before, p.1 ≠ ident) :
    put ident v (before ++ (ident, w) :: after) = before ++ (ident, v) :: after := by
  induction before with
  | nil => exact if_pos rfl
  | cons p before ih =>
    rw [List.cons_append, put, if_neg (h p (.head _)), ih fun p hp => h p (.tail _ hp)]
    rfl

theorem put_of_not_mem {entries : List (Ident × Variable)} {ident : Ident} (v : Variable)
    (h : ∀ p ∈ entries, p.1 ≠ ident) : put ident v entries = entries ++ [(ident, v)] := by
  induction entries with
  | nil => rfl
  | cons p entries ih =>
    rw [put, if_neg (h p (.head _)), ih fun p hp => h p (.tail _ hp)]
    rfl

/-- An identifier that no two variables share is bound to the value of its variable. -/
theorem bindings_of_mem {s : Store} {e : Ident × Variable} (hdistinct : (s.entries.map Prod.fst).Nodup) (he : e ∈ s.entries) :
    s.bindings e.1 = some e.2.value := by
  obtain ⟨before, after, hsplit⟩ := List.append_of_mem he
  rw [hsplit, List.map_append, List.nodup_append] at hdistinct
  have hlookup : s.entries.lookup e.1 = some e.2 := by
    rw [List.lookup_eq_some_iff]
    refine ⟨before, after, hsplit, fun p hp => ?_⟩
    simpa using Ne.symm (hdistinct.2.2 p.1 (List.mem_map_of_mem hp) e.1 (by simp))
  rw [bindings, find?, hlookup, Option.map_some]

theorem bindings_eq_none {s : Store} {name : Text} (hname : name ∉ s.entries.map Prod.fst) : s.bindings name = none := by
  have hlookup : s.entries.lookup name = none := by
    rw [List.lookup_eq_none_iff]
    intro e he
    rw [bne_iff_ne]
    rintro rfl
    exact hname (List.mem_map_of_mem he)
  rw [bindings, find?, hlookup, Option.map_none]

/-- Evaluation of a text whose formula has a value. -/
theorem evaluate_eq {s : Store} {latex : Text} {f : Formula} {x : Float}
    (hcompile : Formula.compile (s.resolved (Statement.read latex)) = .ok f) (hvalue : f.evaluate s.bindings = .ok x) :
    s.evaluate latex = match (Statement.read latex).defines with
      | none => (s, .ok ⟨none, f.symbols, if x.isNaN then none else some x⟩)
      | some name =>
        ((s.assign (Name.aliases name) f.symbols x).1,
          (s.assign (Name.aliases name) f.symbols x).2.map fun ident =>
            ⟨some ident, f.symbols, if x.isNaN then none else some x⟩) := by
  rw [evaluate]
  simp only [hcompile, Formula.ok_bind, hvalue]
  rfl

/-- Evaluation of a text whose formula does not compile. -/
theorem evaluate_eq_error {s : Store} {latex : Text} {e : Formula.Error}
    (hcompile : Formula.compile (s.resolved (Statement.read latex)) = .error e) :
    s.evaluate latex = (s, .error (.formula e)) := by
  rw [evaluate]
  simp only [hcompile]
  rfl

/-- Evaluation of a text whose formula compiles and has no value. -/
theorem evaluate_eq_error_of_value {s : Store} {latex : Text} {f : Formula} {e : Formula.Error}
    (hcompile : Formula.compile (s.resolved (Statement.read latex)) = .ok f)
    (hvalue : f.evaluate s.bindings = .error e) : s.evaluate latex = (s, .error (.formula e)) := by
  rw [evaluate]
  simp only [hcompile, Formula.ok_bind, hvalue]
  rfl

/-- The outcomes of an evaluation, each with the store after it. -/
inductive Outcome (s : Store) (latex : Text) : Store × Except Failure Evaluation → Prop where
  /-- The formula does not compile or has no value. -/
  | failed (reason : Formula.Error) (hexpected : s.expected latex = none) :
      Outcome s latex (s, .error (.formula reason))
  | value (e : Evaluation) (hexpected : s.expected latex = some e) (hdefined : e.defined = none) :
      Outcome s latex (s, .ok e)
  | selfReferent (e : Evaluation) (ident : Ident) (minted : Nat) (hexpected : s.expected latex = some e)
      (hdefined : e.defined = some ident) (hused : ident ∈ e.used) :
      Outcome s latex ({ s with mintedIdents := minted }, .error (.selfReference ident))
  | rejected (e : Evaluation) (ident : Ident) (minted : Nat) (hexpected : s.expected latex = some e)
      (hdefined : e.defined = some ident) (hnotifying : ident ∈ s.notifying) :
      Outcome s latex ({ s with mintedIdents := minted }, .error (.cycle ident))
  | assigned (e : Evaluation) (ident : Ident) (minted : Nat) (v : Variable)
      (hexpected : s.expected latex = some e) (hdefined : e.defined = some ident)
      (hused : ident ∉ e.used) (hquiet : ident ∉ s.notifying) :
      Outcome s latex ({ s with mintedIdents := minted, entries := put ident v s.entries }, .ok e)

/-- The identifier that an assignment writes to is a stored one or the next one. The assignment is refused
when the formula uses it, then when it is being announced, and writes its value otherwise. -/
theorem assign_eq (s : Store) (aliases : List Text) (used : List Ident) (value : Float) :
    ∃ minted, minted = (if (s.resolveAny aliases).isSome then s.mintedIdents else s.mintedIdents + 1) ∧
      s.assign aliases used value =
      if used.contains ((s.resolveAny aliases).getD s.mintIdent.2) then
        ({ s with mintedIdents := minted },
          .error (.selfReference ((s.resolveAny aliases).getD s.mintIdent.2)))
      else if s.isNotifying ((s.resolveAny aliases).getD s.mintIdent.2) then
        ({ s with mintedIdents := minted }, .error (.cycle ((s.resolveAny aliases).getD s.mintIdent.2)))
      else
        ({ s with
            mintedIdents := minted
            entries := put ((s.resolveAny aliases).getD s.mintIdent.2) ⟨value, aliases⟩ s.entries },
          .ok ((s.resolveAny aliases).getD s.mintIdent.2)) := by
  rw [assign]
  cases s.resolveAny aliases with
  | none =>
    refine ⟨s.mintIdent.1.mintedIdents, rfl, ?_⟩
    have hnotifying : s.mintIdent.1.isNotifying s.mintIdent.2 = s.isNotifying s.mintIdent.2 := rfl
    simp only [Option.getD_none, define, hnotifying]
    cases s.isNotifying s.mintIdent.2 <;> rfl
  | some ident =>
    refine ⟨s.mintedIdents, rfl, ?_⟩
    simp only [Option.getD_some, define]
    cases s.isNotifying ident <;> rfl

/-- Every evaluation has one of these outcomes. -/
theorem outcome_evaluate (s : Store) (latex : Text) : s.Outcome latex (s.evaluate latex) := by
  have hexpected : s.expected latex =
      Evaluation.expected (s.resolved (Statement.read latex)) (s.target latex) s.bindings := rfl
  simp only [Evaluation.expected, target] at hexpected
  cases hcompile : Formula.compile (s.resolved (Statement.read latex)) with
  | error reason =>
    rw [hcompile] at hexpected
    rw [evaluate_eq_error hcompile]
    exact .failed reason hexpected
  | ok f =>
    rw [hcompile] at hexpected
    cases hvalue : f.evaluate s.bindings with
    | error reason =>
      simp only [hvalue] at hexpected
      rw [evaluate_eq_error_of_value hcompile hvalue]
      exact .failed reason hexpected
    | ok x =>
      simp only [hvalue] at hexpected
      rw [evaluate_eq hcompile hvalue]
      cases hdefines : (Statement.read latex).defines with
      | none =>
        simp only [hdefines, Option.map_none] at hexpected
        exact .value _ hexpected rfl
      | some name =>
        simp only [hdefines, Option.map_some] at hexpected
        obtain ⟨minted, -, hassign⟩ := s.assign_eq (Name.aliases name) f.symbols x
        generalize (s.resolveAny (Name.aliases name)).getD s.mintIdent.2 = ident at hexpected hassign
        simp only [hassign]
        split
        case isTrue hself => exact .selfReferent _ ident minted hexpected rfl (by simpa using hself)
        case isFalse hself =>
          split
          case isTrue hnotifying =>
            exact .rejected _ ident minted hexpected rfl (by simpa [isNotifying] using hnotifying)
          case isFalse hnotifying =>
            exact .assigned _ ident minted _ hexpected rfl (by simpa using hself)
              (by simpa [isNotifying] using hnotifying)

theorem bindings_congr {s s' : Store} (h : s'.entries = s.entries) : s'.bindings = s.bindings := by
  unfold bindings find?
  rw [h]

/-- A failed evaluation writes nothing. It fails because of the formula, or because the assigned variable
is used or being announced. -/
theorem of_evaluate_error {s : Store} {latex : Text} {reason : Failure}
    (h : (s.evaluate latex).2 = .error reason) :
    (s.evaluate latex).1.bindings = s.bindings ∧ (s.expected latex = none ∨
      ∃ e v, s.expected latex = some e ∧ e.defined = some v ∧ (v ∈ e.used ∨ v ∈ s.notifying)) := by
  have houtcome := s.outcome_evaluate latex
  generalize s.evaluate latex = result at h houtcome
  cases houtcome with
  | failed _ hexpected => exact ⟨rfl, .inl hexpected⟩
  | value => cases h
  | selfReferent e v _ hexpected hdefined hused =>
    exact ⟨bindings_congr rfl, .inr ⟨e, v, hexpected, hdefined, .inl hused⟩⟩
  | rejected e v _ hexpected hdefined hnotifying =>
    exact ⟨bindings_congr rfl, .inr ⟨e, v, hexpected, hdefined, .inr hnotifying⟩⟩
  | assigned => cases h

/-- A successful evaluation is the expected one, and it writes nothing but the assigned variable. -/
theorem of_evaluate_ok {s : Store} {latex : Text} {e : Evaluation} (h : (s.evaluate latex).2 = .ok e) :
    s.expected latex = some e ∧ (∀ v, e.defined = some v → v ∉ e.used ∧ v ∉ s.notifying) ∧
      ∀ name, e.defined ≠ some name → (s.evaluate latex).1.bindings name = s.bindings name := by
  have houtcome := s.outcome_evaluate latex
  generalize s.evaluate latex = result at h houtcome
  cases houtcome with
  | failed | selfReferent | rejected => cases h
  | value e' hexpected hdefined =>
    cases h
    exact ⟨hexpected, by simp [hdefined], fun _ _ => rfl⟩
  | assigned e' v _ _ hexpected hdefined hused hquiet =>
    cases h
    refine ⟨hexpected, fun u hu => ?_, fun name hname => ?_⟩
    · rw [hdefined, Option.some.injEq] at hu
      exact hu ▸ ⟨hused, hquiet⟩
    · have hne : name ≠ v := fun hv => hname (hv ▸ hdefined)
      simp only [bindings, find?, lookup_put, if_neg hne]

theorem mintedSubscribers_evaluate (s : Store) (latex : Text) :
    (s.evaluate latex).1.mintedSubscribers = s.mintedSubscribers := by
  have h := s.outcome_evaluate latex
  generalize s.evaluate latex = result at h
  cases h <;> rfl

theorem define_mintSubscriber (s : Store) (ident : Ident) (v : Variable) :
    s.mintSubscriber.1.define ident v = (s.define ident v).map (·.mintSubscriber.1) := by
  have hnotifying : s.mintSubscriber.1.isNotifying ident = s.isNotifying ident := rfl
  unfold Store.define
  rw [hnotifying]
  split <;> rfl

theorem assign_mintSubscriber (s : Store) (aliases : List Text) (used : List Ident) (value : Float) :
    s.mintSubscriber.1.assign aliases used value =
      ((s.assign aliases used value).1.mintSubscriber.1, (s.assign aliases used value).2) := by
  have hresolve : s.mintSubscriber.1.resolveAny aliases = s.resolveAny aliases := rfl
  have hmint : s.mintSubscriber.1.mintIdent = (s.mintIdent.1.mintSubscriber.1, s.mintIdent.2) := rfl
  unfold Store.assign
  rw [hresolve, hmint]
  cases s.resolveAny aliases with
  | some ident =>
    simp only [define_mintSubscriber]
    split
    · rfl
    · cases s.define ident ⟨value, aliases⟩ <;> rfl
  | none =>
    simp only [define_mintSubscriber]
    split
    · rfl
    · cases s.mintIdent.1.define s.mintIdent.2 ⟨value, aliases⟩ <;> rfl

/-- Numbering a session changes nothing about evaluations. -/
theorem evaluate_mintSubscriber (s : Store) (latex : Text) :
    s.mintSubscriber.1.evaluate latex = ((s.evaluate latex).1.mintSubscriber.1, (s.evaluate latex).2) := by
  have hresolved : s.mintSubscriber.1.resolved = s.resolved := rfl
  have hbindings : s.mintSubscriber.1.bindings = s.bindings := rfl
  unfold Store.evaluate
  rw [hresolved, hbindings]
  simp only [assign_mintSubscriber]
  split
  · rfl
  · split <;> rfl

end Store

end LiveTex

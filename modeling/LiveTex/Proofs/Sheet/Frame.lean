import LiveTex.Proofs.Sheet.Moment

/-!
What an evaluation leaves alone. One that fails changes no variable and tells nobody, one without an assignment
changes nothing at all, and an assignment has written its variable and nothing else when the first listener is told.
-/

namespace LiveTex

namespace Store

/-- The one list of variables is the other with a variable written: in its old place, or behind the others when none of
them has its identifier. -/
inductive Entered (ident : Ident) (v : Variable) : List (Ident × Variable) → List (Ident × Variable) → Prop where
  | inPlace (before after : List (Ident × Variable)) (old : Variable) (hbefore : ∀ p ∈ before, p.1 ≠ ident) :
      Entered ident v (before ++ (ident, old) :: after) (before ++ (ident, v) :: after)
  | behind (entries : List (Ident × Variable)) (hentries : ∀ p ∈ entries, p.1 ≠ ident) :
      Entered ident v entries (entries ++ [(ident, v)])

theorem Entered.cons {ident : Ident} {v : Variable} {entries entries' : List (Ident × Variable)}
    (h : Entered ident v entries entries') {p : Ident × Variable} (hp : p.1 ≠ ident) :
    Entered ident v (p :: entries) (p :: entries') := by
  cases h with
  | inPlace before after old hbefore => exact .inPlace (p :: before) after old (List.forall_mem_cons.mpr ⟨hp, hbefore⟩)
  | behind _ hentries => exact .behind (p :: entries) (List.forall_mem_cons.mpr ⟨hp, hentries⟩)

theorem entered_put (ident : Ident) (v : Variable) (entries : List (Ident × Variable)) :
    Entered ident v entries (put ident v entries) := by
  induction entries with
  | nil => exact .behind [] (by simp)
  | cons p entries ih =>
    obtain ⟨other, w⟩ := p
    rw [put]
    by_cases hother : other = ident
    · rw [if_pos hother, hother]
      exact .inPlace [] entries w (by simp)
    · rw [if_neg hother]
      exact ih.cons hother

/-- What a text writes to the store when it assigns: the value of its formula, with both spellings of the name on its
left. The identifier is that of a stored variable with one of these spellings, or the next one. -/
structure Assigns (s : Store) (latex : Text) (ident : Ident) (v : Variable) (s' : Store) : Prop where
  aliases : ∃ name, (Statement.read latex).defines = some name ∧ v.aliases = Name.aliases name
  value : ∃ f, Formula.compile (s.formulaOf latex) = .ok f ∧ f.evaluate s.bindings = .ok v.value
  target : ident = (s.resolveAny v.aliases).getD s.mintIdent.2
  minted : s'.mintedIdents = if (s.resolveAny v.aliases).isSome then s.mintedIdents else s.mintedIdents + 1
  entered : Entered ident v s.entries s'.entries
  frame : s' = { s with entries := s'.entries, mintedIdents := s'.mintedIdents }

/-- An assignment that is not refused. -/
theorem of_assign_ok {s : Store} {aliases : List Text} {used : List Ident} {value : Float} {ident : Ident}
    (h : (s.assign aliases used value).2 = .ok ident) :
    ident ∉ used ∧ ident = (s.resolveAny aliases).getD s.mintIdent.2 ∧
      (s.assign aliases used value).1 =
        { s with
          entries := put ident ⟨value, aliases⟩ s.entries
          mintedIdents := if (s.resolveAny aliases).isSome then s.mintedIdents else s.mintedIdents + 1 } := by
  obtain ⟨minted, rfl, hassign⟩ := s.assign_eq aliases used value
  generalize (s.resolveAny aliases).getD s.mintIdent.2 = target at hassign ⊢
  rw [hassign] at h ⊢
  by_cases hused : used.contains target
  · rw [if_pos hused] at h
    cases h
  rw [if_neg hused] at h ⊢
  by_cases hnotifying : s.isNotifying target
  · rw [if_pos hnotifying] at h
    cases h
  rw [if_neg hnotifying] at h ⊢
  cases h
  exact ⟨by simpa using hused, rfl, rfl⟩

theorem assigns_of_evaluate {s : Store} {latex : Text} {e : Evaluation} {ident : Ident}
    (h : (s.evaluate latex).2 = .ok e) (hdefined : e.defined = some ident) :
    ident ∉ e.used ∧ ∃ v, e.value = (if v.value.isNaN then none else some v.value) ∧
      s.Assigns latex ident v (s.evaluate latex).1 := by
  cases hcompile : Formula.compile (s.resolved (Statement.read latex)) with
  | error reason =>
    rw [evaluate_eq_error hcompile] at h
    cases h
  | ok f =>
    cases hvalue : f.evaluate s.bindings with
    | error reason =>
      rw [evaluate_eq_error_of_value hcompile hvalue] at h
      cases h
    | ok x =>
      rw [evaluate_eq hcompile hvalue] at h ⊢
      cases hdefines : (Statement.read latex).defines with
      | none =>
        simp only [hdefines] at h
        cases h
        cases hdefined
      | some name =>
        simp only [hdefines] at h ⊢
        cases hassign : (s.assign (Name.aliases name) f.symbols x).2 with
        | error reason =>
          rw [hassign] at h
          cases h
        | ok other =>
          rw [hassign] at h
          cases h
          cases hdefined
          obtain ⟨hused, htarget, hstore⟩ := of_assign_ok hassign
          refine ⟨hused, ⟨x, Name.aliases name⟩, rfl, ?_⟩
          rw [hstore]
          exact ⟨⟨name, hdefines, rfl⟩, ⟨f, hcompile, hvalue⟩, htarget, rfl, entered_put .., rfl⟩

/-- A failed evaluation may have minted an identifier. -/
theorem evaluate_of_error {s : Store} {latex : Text} {reason : Failure} (h : (s.evaluate latex).2 = .error reason) :
    ∃ minted, (s.evaluate latex).1 = { s with mintedIdents := minted } := by
  have houtcome := s.outcome_evaluate latex
  generalize s.evaluate latex = result at h houtcome
  cases houtcome with
  | failed => exact ⟨s.mintedIdents, rfl⟩
  | value | assigned => cases h
  | selfReferent _ _ minted | rejected _ _ minted => exact ⟨minted, rfl⟩

theorem evaluate_of_unassigned {s : Store} {latex : Text} {e : Evaluation} (h : (s.evaluate latex).2 = .ok e)
    (hdefined : e.defined = none) : (s.evaluate latex).1 = s := by
  have houtcome := s.outcome_evaluate latex
  generalize s.evaluate latex = result at h houtcome
  cases houtcome with
  | failed | selfReferent | rejected => cases h
  | value => rfl
  | assigned _ _ _ _ _ hassigned =>
    cases h
    rw [hdefined] at hassigned
    cases hassigned

end Store

namespace World

/-- In any world, in the middle of an announcement too, an evaluation that fails leaves all as it was, numbers of
identifiers apart, and tells no listener; one that assigns nothing leaves those numbers too. An assignment is to a
variable that its formula does not use. When its first listener is about to be told, the world is the old one with that
variable written, and announced. -/
theorem evaluate_changes_its_variable_alone (w : World) (latex : Text) :
    match w.evaluate latex with
    | (w', tasks, .error _) =>
      tasks = [] ∧ ∃ minted, w' = { w with store := { w.store with mintedIdents := minted } }
    | (w', tasks, .ok e) => match e.defined with
      | none => tasks = [] ∧ w' = w
      | some ident => ident ∉ e.used ∧ ∃ v s,
          e.value = (if v.value.isNaN then none else some v.value) ∧ w.store.Assigns latex ident v s ∧
          if w.store.listeners ident = [] then tasks = [] ∧ w' = { w with store := s }
          else tasks = (w.store.listeners ident).map .hear ++ [.hush] ∧
            w' = { w with store := { s with notifying := ident :: w.store.notifying } } := by
  cases houtcome : (w.store.evaluate latex).2 with
  | error reason =>
    rw [evaluate_eq_of_error houtcome]
    obtain ⟨minted, hstore⟩ := Store.evaluate_of_error houtcome
    exact ⟨rfl, minted, by rw [afterEvaluation, hstore]⟩
  | ok e =>
    rw [evaluate_eq_of_ok houtcome]
    cases hdefined : e.defined with
    | none =>
      have hstore := Store.evaluate_of_unassigned houtcome hdefined
      simp only [hdefined, true_and]
      rw [afterEvaluation, hstore]
    | some ident =>
      obtain ⟨hused, v, hvalue, hassigns⟩ := Store.assigns_of_evaluate houtcome hdefined
      simp only [hdefined]
      refine ⟨hused, v, (w.store.evaluate latex).1, hvalue, hassigns, ?_⟩
      have hlisteners : (w.afterEvaluation latex).store.listeners ident = w.store.listeners ident := by
        rw [afterEvaluation, hassigns.frame]
        rfl
      have hnotifying : (w.store.evaluate latex).1.notifying = w.store.notifying := by rw [hassigns.frame]
      rw [announce_eq, hlisteners]
      by_cases hheard : w.store.listeners ident = []
      · rw [if_pos hheard, if_pos hheard]
        exact ⟨rfl, rfl⟩
      · rw [if_neg hheard, if_neg hheard]
        exact ⟨rfl, by rw [telling, afterEvaluation, hnotifying]⟩

end World

end LiveTex

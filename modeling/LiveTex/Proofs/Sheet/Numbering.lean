import LiveTex.Proofs.Formula.Operands
import LiveTex.Proofs.Sheet.Ident
import LiveTex.Proofs.Sheet.Steps
import Mathlib.Data.List.Nodup

/-!
The numbers of the variables. When all variables are defined by evaluations, the variables of a store have the first
identifiers in their order: the next identifier is used by nobody, so an evaluation that takes it out stores a
variable under it.
-/

namespace LiveTex

/-- No identifier is a constant: it ends in a lowercase letter. -/
theorem Ident.numbered_ne_constant (stem : Text) (n : Nat) : Formula.constant? (numbered stem n) = none := by
  have hletters : ∃ before digit, digit < 26 ∧ letters n = before ++ [letter digit] := by
    rw [letters]
    split
    · next hlt => exact ⟨[], n, hlt, rfl⟩
    · exact ⟨_, n % 26, Nat.mod_lt n (by omega), rfl⟩
  obtain ⟨before, digit, hdigit, hletters⟩ := hletters
  have hnat := toNat_letter hdigit
  have hlast {t : Text} {c : Char} (h : numbered stem n = t ++ [c]) : c = letter digit := by
    rw [numbered, hletters, ← List.append_assoc] at h
    exact (List.append_singleton_inj.mp h).2.symm
  rw [Formula.constant?_eq_none_iff]
  constructor
  · intro h
    rw [← hlast (t := ['P']) (c := 'I') h] at hnat
    simp at hnat
    omega
  · intro h
    rw [← hlast (t := []) (c := 'E') h] at hnat
    simp at hnat
    omega

namespace Store

/-- The identifiers of the variables, in the order of their first definition. -/
def idents (s : Store) : List Ident := s.entries.map Prod.fst

/-- An identifier of a variable, or the name of a constant. -/
def Known (s : Store) (ident : Ident) : Prop :=
  ident ∈ s.idents ∨ ident = "PI".toList ∨ ident = "E".toList

/-- The variables have the first identifiers in their order, as many as were taken out, and only they and the constants
are listened to or announced. -/
structure Numbered (s : Store) : Prop where
  idents_eq : s.idents = (List.range s.mintedIdents).map (Ident.numbered s.stem)
  registrations : ∀ r ∈ s.registrations, s.Known r.ident
  notifying : ∀ ident ∈ s.notifying, s.Known ident

/-- The outcomes of an evaluation, each with the store after it: a stored variable is written over in its place, or a
new one comes behind all others under the next identifier. -/
inductive Writes (s : Store) (latex : Text) : Store × Except Failure Evaluation → Prop where
  | failed (reason : Failure) : s.Writes latex (s, .error reason)
  | value (e : Evaluation) (hdefined : e.defined = none) : s.Writes latex (s, .ok e)
  | rewritten (e : Evaluation) (name : Text) (ident : Ident) (x : Float)
      (hname : (Statement.read latex).defines = some name) (hdefined : e.defined = some ident)
      (hresolve : s.resolveAny (Name.aliases name) = some ident) :
      s.Writes latex ({ s with entries := put ident ⟨x, Name.aliases name⟩ s.entries }, .ok e)
  | added (e : Evaluation) (name : Text) (x : Float) (hname : (Statement.read latex).defines = some name)
      (hdefined : e.defined = some s.mintIdent.2) (hresolve : s.resolveAny (Name.aliases name) = none) :
      s.Writes latex
        ({ s.mintIdent.1 with entries := s.entries ++ [(s.mintIdent.2, ⟨x, Name.aliases name⟩)] }, .ok e)

section

variable {s s' : Store} {latex : Text} {ident : Ident}

theorem Known.mono (h : s.idents ⊆ s'.idents) (hknown : s.Known ident) : s'.Known ident :=
  hknown.imp_left fun hident => h hident

theorem mem_idents_of_bindings (h : s.bindings ident ≠ none) : ident ∈ s.idents := by
  by_contra hident
  exact h (bindings_eq_none hident)

/-- A formula that has a value uses known identifiers only. -/
theorem known_of_value {source : Text} {f : Formula} {x : Float} (hcompile : Formula.compile source = .ok f)
    (hvalue : f.evaluate s.bindings = .ok x) : ∀ ident ∈ f.symbols, s.Known ident := by
  intro ident hident
  rw [Formula.symbols, List.mem_eraseDups,
    ← Formula.mem_names_iff_of_parse (Formula.tokens_of_compile hcompile).2] at hident
  obtain ⟨y, hy⟩ := Formula.Expr.symbolValue_eq_ok hvalue hident
  exact (Formula.of_symbolValue_eq_ok hy).imp_left mem_idents_of_bindings

theorem known_of_expected {e : Evaluation} (h : s.expected latex = some e) : ∀ ident ∈ e.used, s.Known ident := by
  unfold expected Evaluation.expected at h
  split at h
  · cases h
  · next f hcompile =>
    split at h
    · cases h
    · next x hvalue =>
      cases h
      exact known_of_value hcompile hvalue

theorem mem_idents_of_resolveAny {aliases : List Text} (h : s.resolveAny aliases = some ident) : ident ∈ s.idents := by
  obtain ⟨e, hfind, rfl⟩ := Option.map_eq_some_iff.mp h
  exact List.mem_map_of_mem (List.mem_of_find?_eq_some hfind)

theorem map_fst_put_of_mem {entries : List (Ident × Variable)} (v : Variable) (h : ident ∈ entries.map Prod.fst) :
    (put ident v entries).map Prod.fst = entries.map Prod.fst := by
  induction entries with
  | nil => cases h
  | cons entry rest ih =>
    obtain ⟨name, w⟩ := entry
    rw [put]
    split
    · next hname => rw [List.map_cons, List.map_cons, hname]
    · next hname =>
      rw [List.map_cons, List.map_cons, ih ((List.mem_cons.mp h).resolve_left (Ne.symm hname))]

theorem Numbered.nodup (h : s.Numbered) : s.idents.Nodup := by
  rw [h.idents_eq]
  exact List.nodup_range.map fun _ _ => Ident.numbered_injective

theorem Numbered.length_entries (h : s.Numbered) : s.entries.length = s.mintedIdents := by
  have hlength := congrArg List.length h.idents_eq
  rwa [Store.idents, List.length_map, List.length_map, List.length_range] at hlength

/-- Nobody uses the next identifier. -/
theorem Numbered.not_known_mintIdent (h : s.Numbered) : ¬ s.Known s.mintIdent.2 := by
  have hconstant := (Formula.constant?_eq_none_iff _).mp (Ident.numbered_ne_constant s.stem s.mintedIdents)
  rintro (hstored | hpi | he)
  · rw [h.idents_eq, List.mem_map] at hstored
    obtain ⟨n, hn, heq⟩ := hstored
    have hlt := List.mem_range.mp hn
    rw [Ident.numbered_injective heq] at hlt
    exact Nat.lt_irrefl _ hlt
  · exact hconstant.1 hpi
  · exact hconstant.2 he

/-- An assignment to stored spellings writes over their variable, or it is refused. -/
theorem assign_of_stored {aliases : List Text} {used : List Ident} {x : Float} (h : s.resolveAny aliases = some ident) :
    s.assign aliases used x =
      if used.contains ident then (s, .error (.selfReference ident))
      else if s.isNotifying ident then (s, .error (.cycle ident))
      else ({ s with entries := put ident ⟨x, aliases⟩ s.entries }, .ok ident) := by
  simp only [assign, h, define]
  cases s.isNotifying ident <;> rfl

/-- An assignment to new spellings is not refused, as long as only known identifiers are used. -/
theorem Numbered.assign_of_new (h : s.Numbered) {aliases : List Text} {used : List Ident} {x : Float}
    (hresolve : s.resolveAny aliases = none) (hused : ∀ ident ∈ used, s.Known ident) :
    s.assign aliases used x =
      ({ s.mintIdent.1 with entries := s.entries ++ [(s.mintIdent.2, ⟨x, aliases⟩)] }, .ok s.mintIdent.2) := by
  have hnew := h.not_known_mintIdent
  have hunused : used.contains s.mintIdent.2 = false := by
    rw [List.contains_eq_mem, decide_eq_false_iff_not]
    exact fun hmem => hnew (hused _ hmem)
  have hquiet : s.mintIdent.1.isNotifying s.mintIdent.2 = false := by
    rw [isNotifying, List.contains_eq_mem, decide_eq_false_iff_not]
    exact fun hmem => hnew (h.notifying _ hmem)
  have hput : put s.mintIdent.2 ⟨x, aliases⟩ s.mintIdent.1.entries = s.entries ++ [(s.mintIdent.2, ⟨x, aliases⟩)] :=
    put_of_not_mem _ fun p hp heq => hnew (.inl (heq ▸ List.mem_map_of_mem hp))
  simp only [assign, hresolve, hunused, define, hquiet, insert, hput, Bool.false_eq_true, ↓reduceIte]

/-- Every evaluation against a numbered store has one of these outcomes. -/
theorem Numbered.writes_evaluate (h : s.Numbered) (latex : Text) : s.Writes latex (s.evaluate latex) := by
  cases hcompile : Formula.compile (s.resolved (Statement.read latex)) with
  | error reason =>
    rw [evaluate_eq_error hcompile]
    exact .failed _
  | ok f =>
    cases hvalue : f.evaluate s.bindings with
    | error reason =>
      rw [evaluate_eq_error_of_value hcompile hvalue]
      exact .failed _
    | ok x =>
      rw [evaluate_eq hcompile hvalue]
      cases hname : (Statement.read latex).defines with
      | none => exact .value _ rfl
      | some name =>
        cases hresolve : s.resolveAny (Name.aliases name) with
        | some ident =>
          simp only [assign_of_stored hresolve]
          split
          · exact .failed _
          · split
            · exact .failed _
            · exact .rewritten _ name ident x hname rfl hresolve
        | none =>
          simp only [h.assign_of_new hresolve (known_of_value hcompile hvalue)]
          exact .added _ name x hname rfl hresolve

/-- What an evaluation does to the identifiers: it keeps them all, and puts at most the next one behind them. -/
theorem Numbered.idents_evaluate (h : s.Numbered) (latex : Text) :
    (s.evaluate latex).1.stem = s.stem ∧ s.idents <+: (s.evaluate latex).1.idents ∧
      (s.evaluate latex).1.idents =
        (List.range (s.evaluate latex).1.mintedIdents).map (Ident.numbered s.stem) := by
  have hwrites := h.writes_evaluate latex
  generalize s.evaluate latex = result at hwrites
  cases hwrites with
  | failed | value => exact ⟨rfl, List.prefix_refl _, h.idents_eq⟩
  | rewritten e name ident x hname hdefined hresolve =>
    have hidents : (put ident ⟨x, Name.aliases name⟩ s.entries).map Prod.fst = s.idents :=
      map_fst_put_of_mem _ (mem_idents_of_resolveAny hresolve)
    exact ⟨rfl, (congrArg (s.idents <+: ·) hidents).mpr (List.prefix_refl _), hidents.trans h.idents_eq⟩
  | added e name x =>
    have hidents : (s.entries ++ [(s.mintIdent.2, (⟨x, Name.aliases name⟩ : Variable))]).map Prod.fst =
        s.idents ++ [s.mintIdent.2] := List.map_append
    refine ⟨rfl, (congrArg (s.idents <+: ·) hidents).mpr (List.prefix_append _ _), hidents.trans ?_⟩
    rw [h.idents_eq]
    change _ = (List.range (s.mintedIdents + 1)).map _
    rw [List.range_succ, List.map_append]
    rfl

/-- The variable that an evaluation assigns is stored afterwards. -/
theorem Numbered.mem_idents_of_defined (h : s.Numbered) {e : Evaluation} (hevaluate : (s.evaluate latex).2 = .ok e)
    (hdefined : e.defined = some ident) : ident ∈ (s.evaluate latex).1.idents := by
  have hwrites := h.writes_evaluate latex
  have hgrown := (h.idents_evaluate latex).2.1
  generalize s.evaluate latex = result at hwrites hevaluate hgrown
  cases hwrites with
  | failed => cases hevaluate
  | value e' hnone =>
    cases hevaluate
    rw [hnone] at hdefined
    cases hdefined
  | rewritten e' name other x hname hother hresolve =>
    cases hevaluate
    obtain rfl := Option.some.inj (hother.symm.trans hdefined)
    exact hgrown.subset (mem_idents_of_resolveAny hresolve)
  | added e' name x hname hother =>
    cases hevaluate
    obtain rfl := Option.some.inj (hother.symm.trans hdefined)
    exact List.mem_map_of_mem (List.mem_append_right _ (List.mem_singleton_self _))

theorem Numbered.evaluate (h : s.Numbered) (latex : Text) {announced : List Ident}
    (hannounced : ∀ ident ∈ announced, ∃ e, (s.evaluate latex).2 = .ok e ∧ e.defined = some ident) :
    Numbered { (s.evaluate latex).1 with notifying := announced ++ s.notifying } := by
  obtain ⟨hstem, hgrown, hidents⟩ := h.idents_evaluate latex
  refine ⟨hstem ▸ hidents, fun r hr => ?_, fun ident hident => ?_⟩
  · rw [show Store.registrations _ = (s.evaluate latex).1.registrations from rfl, s.registrations_evaluate] at hr
    exact Known.mono hgrown.subset (h.registrations r hr)
  · obtain hident | hident := List.mem_append.mp hident
    · obtain ⟨e, hevaluate, hdefined⟩ := hannounced ident hident
      exact .inl (h.mem_idents_of_defined hevaluate hdefined)
    · exact Known.mono hgrown.subset (h.notifying ident hident)

end

end Store

namespace Moment

/-- The store is numbered, and what sessions use, or are about to take in, is known to it. -/
structure Numbered (m : Moment) : Prop where
  ofSessions : m.OfSessions
  store : m.world.store.Numbered
  results : ∀ s ∈ m.world.sessions, ∀ e, s.result = some e → ∀ ident ∈ e.used, m.world.store.Known ident
  outcomes : ∀ i e, .settle i (some e) ∈ m.tasks → ∀ ident ∈ e.used, m.world.store.Known ident

variable {m m' : Moment} {latex : Text} {calls later taken : List Call} {stem : Text}

theorem numbered_new (stem : Text) : Numbered ⟨World.new stem, []⟩ where
  ofSessions := ⟨by simp, fun r hr => by cases hr⟩
  store := ⟨rfl, (fun r hr => by cases hr), (fun i hi => by cases hi)⟩
  results s hs := by cases hs
  outcomes i e he := by cases he

theorem Numbered.evaluated (h : m.Numbered) (hevaluated : m.Evaluated latex m') (hof : m'.OfSessions) :
    m'.Numbered := by
  obtain ⟨announced, hstore, hannounced⟩ := hevaluated.store
  have hidents : m'.world.store.idents = (m.world.store.evaluate latex).1.idents := by rw [hstore]; rfl
  have hsubset : m.world.store.idents ⊆ m'.world.store.idents :=
    hidents ▸ (h.store.idents_evaluate latex).2.1.subset
  refine ⟨hof, hstore ▸ h.store.evaluate latex hannounced, fun s hs e he ident hident => ?_,
    fun i e he ident hident => ?_⟩
  · rw [hevaluated.sessions] at hs
    exact Store.Known.mono hsubset (h.results s hs e he ident hident)
  · obtain he | hevaluate := hevaluated.outcomes i e he
    · exact Store.Known.mono hsubset (h.outcomes i e he ident hident)
    · exact Store.Known.mono hsubset (Store.known_of_expected (Store.of_evaluate_ok hevaluate).1 ident hident)

theorem Numbered.bypasses (h : m.Numbered) (hbypasses : m.Bypasses taken m') (hof : m'.OfSessions) : m'.Numbered := by
  have hidents : m'.world.store.idents = m.world.store.idents := by
    rw [Store.idents, hbypasses.entries, Store.idents]
  have hknown {ident : Ident} (hident : m.world.store.Known ident) : m'.world.store.Known ident :=
    Store.Known.mono (hidents ▸ List.Subset.refl _) hident
  refine ⟨hof, ⟨?_, fun r hr => ?_, fun ident hident => ?_⟩, fun s' hs' e he ident hident => ?_,
    fun i e he ident hident => ?_⟩
  · rw [hidents, hbypasses.stem, hbypasses.minted]
    exact h.store.idents_eq
  · obtain hr | ⟨s, hs, hused⟩ := hbypasses.registrations r hr
    · exact hknown (h.store.registrations r hr)
    · obtain ⟨e, he⟩ : ∃ e, s.result = some e := by
        rw [← Option.isSome_iff_exists, Option.isSome_iff_ne_none]
        intro hnone
        simp [Session.used, hnone] at hused
      rw [Session.used, he] at hused
      exact hknown (h.results s hs e he _ hused)
  · exact hknown (h.store.notifying ident (hbypasses.notifying hident))
  · obtain ⟨s, hs, hresult⟩ | ⟨i, hsettle⟩ := hbypasses.results s' hs' e he
    · exact hknown (h.results s hs e hresult ident hident)
    · exact hknown (h.outcomes i e hsettle ident hident)
  · exact hknown (h.outcomes i e (hbypasses.outcomes i e he) ident hident)

/-- A step keeps the numbers of the variables. -/
theorem Numbered.step (h : m.Numbered) (hstep : m.Step taken m') (htaken : ∀ c ∈ taken, c.action.ThroughEvaluation) :
    m'.Numbered ∧ m'.world.store.stem = m.world.store.stem ∧ m.world.store.idents <+: m'.world.store.idents := by
  have hof := h.ofSessions.step hstep fun c hc => (htaken c hc).watcherless
  obtain ⟨latex, hevaluates⟩ | hbypasses := hstep.evaluates_or_bypasses h.ofSessions htaken
  · have hevaluated := hevaluates.evaluated
    obtain ⟨announced, hstore, -⟩ := hevaluated.store
    obtain ⟨hstem, hgrown, -⟩ := h.store.idents_evaluate latex
    exact ⟨h.evaluated hevaluated hof, hstore ▸ hstem, hstore ▸ hgrown⟩
  · refine ⟨h.bypasses hbypasses hof, hbypasses.stem, ?_⟩
    have hidents : m'.world.store.idents = m.world.store.idents := congrArg (List.map Prod.fst) hbypasses.entries
    exact hidents ▸ List.prefix_refl _

/-- A run keeps the numbers of the variables. -/
theorem Numbered.reaches (h : m.Numbered) (hreaches : m.Reaches calls m')
    (hcalls : ∀ c ∈ calls, c.action.ThroughEvaluation) :
    m'.Numbered ∧ m'.world.store.stem = m.world.store.stem ∧ m.world.store.idents <+: m'.world.store.idents := by
  induction hreaches with
  | refl => exact ⟨h, rfl, List.prefix_refl _⟩
  | step _ hstep ih =>
    obtain ⟨hnumbered, hstem, hgrown⟩ := ih fun c hc => hcalls c (List.mem_append_left _ hc)
    obtain ⟨hnumbered', hstem', hgrown'⟩ := hnumbered.step hstep fun c hc => hcalls c (List.mem_append_right _ hc)
    exact ⟨hnumbered', hstem'.trans hstem, hgrown.trans hgrown'⟩

/-- At every moment of a run in which variables are defined by evaluations only, the variables have the first
identifiers in the order of their first definition, as many as there are variables. These are all the identifiers that
were ever taken out, the next one is not among them, and the variables keep their places at all later moments. Only
variables and constants are listened to or announced. -/
theorem Reaches.variables_are_numbered (h : (⟨World.new stem, []⟩ : Moment).Reaches calls m)
    (hlater : m.Reaches later m') (hcalls : ∀ c ∈ calls ++ later, c.action.ThroughEvaluation) :
    m.world.store.idents = (List.range m.world.store.entries.length).map (Ident.numbered stem) ∧
      m.world.store.mintedIdents = m.world.store.entries.length ∧
      m.world.store.mintIdent.2 = Ident.numbered stem m.world.store.entries.length ∧
      m.world.store.mintIdent.2 ∉ m.world.store.idents ∧
      m.world.store.idents <+: m'.world.store.idents ∧
      (∀ r ∈ m.world.store.registrations, m.world.store.Known r.ident) ∧
      ∀ ident ∈ m.world.store.notifying, m.world.store.Known ident := by
  obtain ⟨hnumbered, hstem, -⟩ := (numbered_new stem).reaches h fun c hc => hcalls c (List.mem_append_left _ hc)
  obtain ⟨-, -, hgrown⟩ := hnumbered.reaches hlater fun c hc => hcalls c (List.mem_append_right _ hc)
  have hlength := hnumbered.store.length_entries
  have hidents := hnumbered.store.idents_eq
  have hmint : m.world.store.mintIdent.2 = Ident.numbered m.world.store.stem m.world.store.mintedIdents := rfl
  rw [hstem, ← hlength] at hidents hmint
  exact ⟨hidents, hlength.symm, hmint, fun hmem => hnumbered.store.not_known_mintIdent (.inl hmem), hgrown,
    hnumbered.store.registrations, hnumbered.store.notifying⟩

/-- Sessions assign `a` and, from it and a constant, `b`, and an assignment to `c` fails. -/
def assigned : Moment :=
  ((after ⟨World.new ['V'], []⟩ (.openSession "a := 1".toList true none) 12).after
    (.openSession "b := a + PI".toList true none) 12).after (.evaluate "c := c + 1".toList false) 0

/-- While the new value of `a` is announced there are two variables, though three were to be assigned. The third
identifier is taken out by the next assignment that succeeds. -/
theorem variables_are_numbered_of_failure :
    let m := assigned.after (.evaluate "a := 2".toList false) 2
    let m' := after (Moment.next^[10] m) (.evaluate "d := b".toList false) 0
    m.world.store.notifying = ["Va".toList] ∧ m.world.store.registrations.map (·.ident) = ["Va".toList, "PI".toList] ∧
      m.world.store.idents = ["Va".toList, "Vb".toList] ∧ m.world.store.mintedIdents = 2 ∧
      (∀ r ∈ m.world.store.registrations, m.world.store.Known r.ident) ∧
      m'.world.store.idents = ["Va".toList, "Vb".toList] ++ ["Vc".toList] := by
  intro m m'
  obtain ⟨calls, hreaches, hcalls⟩ : ∃ calls, Reaches ⟨World.new ['V'], []⟩ calls m ∧
      ∀ c ∈ calls, c.action.ThroughEvaluation :=
    ⟨_, (((Reaches.refl.after _ 12).after _ 12).after _ 0).after _ 2, by decide +kernel⟩
  obtain ⟨later, hlater, hlaterCalls⟩ : ∃ later, m.Reaches later m' ∧ ∀ c ∈ later, c.action.ThroughEvaluation :=
    ⟨_, (Reaches.refl.iterate 10).after _ 0, by decide +kernel⟩
  have hlength : m.world.store.entries.length = 2 := by decide +kernel
  obtain ⟨hidents, hminted, -, -, ⟨rest, hrest⟩, hregistrations, -⟩ :=
    hreaches.variables_are_numbered hlater fun c hc => (List.mem_append.mp hc).elim (hcalls c) (hlaterCalls c)
  have hidents' : m.world.store.idents = ["Va".toList, "Vb".toList] := by
    rw [hidents, hlength]
    decide +kernel
  refine ⟨by decide +kernel, by decide +kernel, hidents', hminted.trans hlength, hregistrations, ?_⟩
  have hlast : m'.world.store.idents.drop 2 = ["Vc".toList] := by decide +kernel
  rw [← hrest, hidents'] at hlast ⊢
  exact congrArg _ hlast

end Moment

end LiveTex

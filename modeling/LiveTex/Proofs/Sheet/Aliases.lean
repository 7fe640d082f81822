import LiveTex.Proofs.Name.Readback
import LiveTex.Proofs.Sheet.Numbering
import Mathlib.Data.List.Lattice
import Mathlib.Data.List.Pairwise

/-!
Spellings of variables. When the left sides of all assignments have balanced braces and no backslashes, a spelling
stands for at most one variable, and it goes on standing for it.
-/

namespace LiveTex

/-- The left side of the text, if there is one, is tidy. -/
def Statement.TidyLeft (source : Text) : Prop := ∀ name ∈ (read source).defines, Name.IsTidy name

/-- The text that an action brings along to be evaluated. -/
def Action.text? : Action → Option Text
  | .openSession latex .. | .evaluate latex _ => some latex
  | _ => none

/-- Variables are defined by evaluations only, and the text that the action brings along has a tidy left side. -/
def Action.TidilyDefines (action : Action) : Prop :=
  action.ThroughEvaluation ∧ ∀ latex ∈ action.text?, Statement.TidyLeft latex

instance : DecidablePred Statement.TidyLeft := fun source =>
  inferInstanceAs (Decidable (∀ name ∈ (Statement.read source).defines, Name.IsTidy name))

instance : DecidablePred Action.TidilyDefines := fun action =>
  inferInstanceAs (Decidable (action.ThroughEvaluation ∧ ∀ latex ∈ action.text?, Statement.TidyLeft latex))

namespace Store

/-- The identifiers of the variables with their aliases. -/
def named (s : Store) : List (Ident × List Text) := s.entries.map fun e => (e.1, e.2.aliases)

/-- The aliases of every variable are those of one tidy name, and no two variables have an alias in common. -/
structure Unambiguous (s : Store) : Prop where
  tidy : ∀ e ∈ s.entries, ∃ name, Name.IsTidy name ∧ e.2.aliases = Name.aliases name
  disjoint : s.entries.Pairwise fun e e' => e.2.aliases.Disjoint e'.2.aliases

section

variable {s : Store} {latex name name' a : Text} {ident : Ident} {e : Ident × Variable}

theorem exists_of_resolveAny {aliases : List Text} (h : s.resolveAny aliases = some ident) :
    ∃ e ∈ s.entries, e.1 = ident ∧ ∃ a ∈ e.2.aliases, a ∈ aliases := by
  obtain ⟨e, hfind, hident⟩ := Option.map_eq_some_iff.mp h
  have hshared := List.find?_some hfind
  obtain ⟨a, ha, hshared⟩ := List.any_eq_true.mp hshared
  exact ⟨e, List.mem_of_find?_eq_some hfind, hident, a, ha, by simpa using hshared⟩

theorem disjoint_of_resolveAny {aliases : List Text} (h : s.resolveAny aliases = none) (he : e ∈ s.entries) :
    e.2.aliases.Disjoint aliases := by
  rw [resolveAny, Option.map_eq_none_iff, List.find?_eq_none] at h
  intro a ha hshared
  exact h e he (List.any_eq_true.mpr ⟨a, ha, by simpa using hshared⟩)

/-- A tidy name that shares an alias with a variable has all of its aliases. -/
theorem Unambiguous.aliases_eq (h : s.Unambiguous) (he : e ∈ s.entries) (hname : Name.IsTidy name)
    (ha : a ∈ e.2.aliases) (ha' : a ∈ Name.aliases name) : e.2.aliases = Name.aliases name := by
  obtain ⟨name', hname', haliases⟩ := h.tidy e he
  rw [haliases] at ha ⊢
  exact Name.aliases_eq_of_shared hname' hname ha ha'

/-- A tidy name that shares an alias with a variable stands for that variable. -/
theorem Unambiguous.resolveAny_eq (h : s.Unambiguous) (he : e ∈ s.entries) (hname : Name.IsTidy name)
    (ha : a ∈ e.2.aliases) (ha' : a ∈ Name.aliases name) : s.resolveAny (Name.aliases name) = some e.1 := by
  cases hresolve : s.resolveAny (Name.aliases name) with
  | none => exact absurd ha' (disjoint_of_resolveAny hresolve he ha)
  | some ident =>
    obtain ⟨e', he', rfl, b, hb, hb'⟩ := exists_of_resolveAny hresolve
    have haliases := h.aliases_eq he hname ha ha'
    have haliases' := h.aliases_eq he' hname hb hb'
    have hsame : e' = e := by
      by_contra hne
      have : Std.Symm fun e e' : Ident × Variable => e.2.aliases.Disjoint e'.2.aliases := ⟨fun _ _ => List.Disjoint.symm⟩
      exact h.disjoint.forall he' he hne (haliases' ▸ ha') ha
    rw [hsame]

/-- Writing over a variable under the same aliases leaves identifiers and aliases as they are. -/
theorem map_put_of_mem {entries : List (Ident × Variable)} {v : Variable} (hnodup : (entries.map Prod.fst).Nodup)
    (he : e ∈ entries) (haliases : v.aliases = e.2.aliases) :
    (put e.1 v entries).map (fun e => (e.1, e.2.aliases)) = entries.map fun e => (e.1, e.2.aliases) := by
  obtain ⟨before, after, rfl⟩ := List.append_of_mem he
  rw [List.map_append, List.map_cons, List.nodup_append] at hnodup
  have hbefore : ∀ p ∈ before, p.1 ≠ e.1 := fun p hp =>
    hnodup.2.2 p.1 (List.mem_map_of_mem hp) e.1 (List.mem_cons_self ..)
  obtain ⟨ident, w⟩ := e
  rw [put_of_mem v hbefore, List.map_append, List.map_append, List.map_cons, List.map_cons, haliases]

theorem Unambiguous.of_named {s s' : Store} (h : s.Unambiguous) (hnamed : s'.named = s.named) : s'.Unambiguous where
  tidy e he := by
    have hmem : (e.1, e.2.aliases) ∈ s'.named := List.mem_map_of_mem he
    rw [hnamed] at hmem
    obtain ⟨e', he', heq⟩ := List.mem_map.mp hmem
    have haliases : e'.2.aliases = e.2.aliases := congrArg Prod.snd heq
    exact haliases ▸ h.tidy e' he'
  disjoint := by
    have hpairwise (s : Store) : s.named.Pairwise (fun p p' => p.2.Disjoint p'.2) ↔
        s.entries.Pairwise fun e e' => e.2.aliases.Disjoint e'.2.aliases := List.pairwise_map
    rw [← hpairwise, hnamed, hpairwise]
    exact h.disjoint

/-- An evaluation whose left side is tidy leaves the variables with their aliases, and puts at most one behind them. -/
theorem Unambiguous.evaluate (h : s.Unambiguous) (hnumbered : s.Numbered) (hlatex : Statement.TidyLeft latex) :
    (s.evaluate latex).1.Unambiguous ∧ s.named <+: (s.evaluate latex).1.named := by
  have hwrites := hnumbered.writes_evaluate latex
  generalize s.evaluate latex = result at hwrites
  cases hwrites with
  | failed | value => exact ⟨h, List.prefix_refl _⟩
  | rewritten e name ident x hname hdefined hresolve =>
    obtain ⟨e', he', rfl, a, ha, ha'⟩ := exists_of_resolveAny hresolve
    have haliases := h.aliases_eq he' (hlatex name hname) ha ha'
    have hnamed : (put e'.1 ⟨x, Name.aliases name⟩ s.entries).map (fun e => (e.1, e.2.aliases)) = s.named :=
      map_put_of_mem hnumbered.nodup he' haliases.symm
    exact ⟨h.of_named hnamed, (congrArg (s.named <+: ·) hnamed).mpr (List.prefix_refl _)⟩
  | added e name x hname hdefined hresolve =>
    have hnamed : (s.entries ++ [(s.mintIdent.2, (⟨x, Name.aliases name⟩ : Variable))]).map
        (fun e => (e.1, e.2.aliases)) = s.named ++ [(s.mintIdent.2, Name.aliases name)] := List.map_append
    refine ⟨⟨fun e he => ?_, ?_⟩, ⟨_, hnamed.symm⟩⟩
    · obtain he | he := List.mem_append.mp he
      · exact h.tidy e he
      · rw [List.mem_singleton] at he
        exact ⟨name, hlatex name hname, by rw [he]⟩
    · refine List.pairwise_append.mpr ⟨h.disjoint, List.pairwise_singleton .., fun e he e' he' => ?_⟩
      rw [List.mem_singleton] at he'
      rw [he']
      exact disjoint_of_resolveAny hresolve he

/-- A successful assignment to a name whose alias a variable has returns that variable. -/
theorem Unambiguous.defined_eq (h : s.Unambiguous) {result : Evaluation} (he : e ∈ s.entries)
    (hname : Name.IsTidy name) (ha : a ∈ e.2.aliases) (ha' : a ∈ Name.aliases name)
    (hdefines : (Statement.read latex).defines = some name) (hevaluate : (s.evaluate latex).2 = .ok result) :
    result.defined = some e.1 := by
  rw [Evaluation.defined_of_expected (of_evaluate_ok hevaluate).1, target, hdefines, Option.map_some,
    h.resolveAny_eq he hname ha ha', Option.getD_some]

/-- A successful assignment leaves a variable with the aliases of its name under the identifier that it returns. -/
theorem Unambiguous.mem_named_of_defined (h : s.Unambiguous) (hnumbered : s.Numbered)
    (hlatex : Statement.TidyLeft latex) {result : Evaluation} (hdefines : (Statement.read latex).defines = some name)
    (hevaluate : (s.evaluate latex).2 = .ok result) :
    ∃ ident, result.defined = some ident ∧ (ident, Name.aliases name) ∈ (s.evaluate latex).1.named := by
  have hwrites := hnumbered.writes_evaluate latex
  have hgrown := (h.evaluate hnumbered hlatex).2
  have hdefined := Evaluation.defined_of_expected (of_evaluate_ok hevaluate).1
  rw [target, hdefines, Option.map_some] at hdefined
  generalize s.evaluate latex = outcome at hwrites hgrown hevaluate
  cases hwrites with
  | failed => cases hevaluate
  | value e hnone =>
    cases hevaluate
    rw [hnone] at hdefined
    cases hdefined
  | rewritten e name' ident x hname' hident hresolve =>
    cases hevaluate
    obtain rfl := Option.some.inj (hdefines.symm.trans hname')
    obtain ⟨e', he', rfl, a, ha, ha'⟩ := exists_of_resolveAny hresolve
    have haliases := h.aliases_eq he' (hlatex name hname') ha ha'
    exact ⟨e'.1, hident, haliases ▸ hgrown.subset (List.mem_map_of_mem he')⟩
  | added e name' x hname' hident =>
    cases hevaluate
    obtain rfl := Option.some.inj (hdefines.symm.trans hname')
    exact ⟨_, hident, List.mem_map_of_mem (List.mem_append_right _ (List.mem_singleton_self _))⟩

end

end Store

namespace Moment

/-- Spellings stand for at most one variable each, and the texts of the sessions have tidy left sides. -/
structure Unambiguous (m : Moment) : Prop where
  numbered : m.Numbered
  store : m.world.store.Unambiguous
  texts : ∀ s ∈ m.world.sessions, Statement.TidyLeft s.latex

variable {m m₁ m₂ : Moment} {latex : Text} {calls later taken : List Call} {stem : Text}

theorem unambiguous_new (stem : Text) : Unambiguous ⟨World.new stem, []⟩ where
  numbered := numbered_new stem
  store := ⟨(fun e he => by cases he), List.Pairwise.nil⟩
  texts s hs := by cases hs

/-- The text that a step evaluates has a tidy left side. -/
theorem Unambiguous.tidyLeft (h : m.Unambiguous) (hevaluates : m.Evaluates latex taken m₁)
    (htaken : ∀ c ∈ taken, c.action.TidilyDefines) : Statement.TidyLeft latex := by
  cases hevaluates with
  | asked => exact (htaken _ (List.mem_singleton_self _)).2 latex rfl
  | refreshed _ hs => exact h.texts _ (List.mem_of_getElem? hs)

/-- A step leaves the variables with their aliases. -/
theorem Unambiguous.step (h : m.Unambiguous) (hstep : m.Step taken m₁) (htaken : ∀ c ∈ taken, c.action.TidilyDefines) :
    m₁.Unambiguous ∧ m.world.store.named <+: m₁.world.store.named := by
  have hthrough : ∀ c ∈ taken, c.action.ThroughEvaluation := fun c hc => (htaken c hc).1
  have hnumbered := (h.numbered.step hstep hthrough).1
  obtain ⟨latex, hevaluates⟩ | hbypasses := hstep.evaluates_or_bypasses h.numbered.ofSessions hthrough
  · have hevaluated := hevaluates.evaluated
    obtain ⟨announced, hstore, -⟩ := hevaluated.store
    obtain ⟨hunambiguous, hgrown⟩ :=
      h.store.evaluate h.numbered.store (h.tidyLeft hevaluates htaken)
    have hnamed : m₁.world.store.named = (m.world.store.evaluate latex).1.named := by rw [hstore]; rfl
    refine ⟨⟨hnumbered, hunambiguous.of_named hnamed, fun s hs => ?_⟩, hnamed ▸ hgrown⟩
    rw [hevaluated.sessions] at hs
    exact h.texts s hs
  · have hnamed : m₁.world.store.named = m.world.store.named := by
      rw [Store.named, hbypasses.entries, Store.named]
    refine ⟨⟨hnumbered, h.store.of_named hnamed, fun s' hs' => ?_⟩, hnamed ▸ List.prefix_refl _⟩
    obtain ⟨s, hs, hlatex⟩ | ⟨c, hc, showResult, subscriber?, haction⟩ := hbypasses.texts s' hs'
    · exact hlatex ▸ h.texts s hs
    · exact (htaken c hc).2 s'.latex (by rw [haction]; rfl)

/-- A run leaves the variables with their aliases. -/
theorem Unambiguous.reaches (h : m.Unambiguous) (hreaches : m.Reaches calls m₁)
    (hcalls : ∀ c ∈ calls, c.action.TidilyDefines) :
    m₁.Unambiguous ∧ m.world.store.named <+: m₁.world.store.named := by
  induction hreaches with
  | refl => exact ⟨h, List.prefix_refl _⟩
  | step _ hstep ih =>
    obtain ⟨hunambiguous, hgrown⟩ := ih fun c hc => hcalls c (List.mem_append_left _ hc)
    obtain ⟨hunambiguous', hgrown'⟩ := hunambiguous.step hstep fun c hc => hcalls c (List.mem_append_right _ hc)
    exact ⟨hunambiguous', hgrown.trans hgrown'⟩

/-- Each alias belongs to one variable. In runs in which variables are defined by evaluations only, with left sides
that are tidy, no two variables have an alias in common. Tidy names share both aliases or none. An assignment that
succeeds returns a variable, and every later one that succeeds and whose left side shares an alias with it returns the
same variable. -/
theorem Reaches.alias_belongs_to_one_variable (h : (⟨World.new stem, []⟩ : Moment).Reaches calls m)
    (hevaluates : m.Evaluates latex taken m₁) (hlater : m₁.Reaches later m₂)
    (hcalls : ∀ c ∈ calls ++ taken ++ later, c.action.TidilyDefines) :
    (m.world.store.entries.Pairwise fun e e' => e.2.aliases.Disjoint e'.2.aliases) ∧
      (∀ name name', Name.IsTidy name → Name.IsTidy name' →
        (∃ a ∈ Name.aliases name, a ∈ Name.aliases name') → Name.aliases name = Name.aliases name') ∧
      ∀ name e, (Statement.read latex).defines = some name → (m.world.store.evaluate latex).2 = .ok e →
        ∃ ident, e.defined = some ident ∧
          ∀ latex' name' e', (Statement.read latex').defines = some name' → Name.IsTidy name' →
            (∃ a ∈ Name.aliases name, a ∈ Name.aliases name') → (m₂.world.store.evaluate latex').2 = .ok e' →
            e'.defined = some ident := by
  simp only [List.mem_append] at hcalls
  obtain ⟨hunambiguous, -⟩ := (unambiguous_new stem).reaches h fun c hc => hcalls c (.inl (.inl hc))
  have htaken : ∀ c ∈ taken, c.action.TidilyDefines := fun c hc => hcalls c (.inl (.inr hc))
  have hlatex := hunambiguous.tidyLeft hevaluates htaken
  obtain ⟨hafter, -⟩ := hunambiguous.step hevaluates.step htaken
  obtain ⟨hend, hgrown⟩ := hafter.reaches hlater fun c hc => hcalls c (.inr hc)
  refine ⟨hunambiguous.store.disjoint, fun name name' hname hname' ⟨a, ha, ha'⟩ =>
    Name.aliases_eq_of_shared hname hname' ha ha', fun name e hdefines hevaluate => ?_⟩
  obtain ⟨ident, hdefined, hnamed⟩ :=
    hunambiguous.store.mem_named_of_defined hunambiguous.numbered.store hlatex hdefines hevaluate
  refine ⟨ident, hdefined, fun latex' name' e' hdefines' hname' ⟨a, ha, ha'⟩ hevaluate' => ?_⟩
  obtain ⟨announced, hstore, -⟩ := hevaluates.evaluated.store
  have hsame : m₁.world.store.named = (m.world.store.evaluate latex).1.named := by rw [hstore]; rfl
  obtain ⟨entry, hentry, heq⟩ := List.mem_map.mp (hgrown.subset (hsame ▸ hnamed))
  obtain ⟨rfl, haliases⟩ := Prod.mk.inj heq
  exact hend.store.defined_eq hentry hname' (haliases ▸ ha) ha' hdefines' hevaluate'

/-- A name with a script is assigned in braces, and later, when another variable has been defined, without them. -/
theorem alias_belongs_to_one_variable_of_script :
    let m := after ⟨World.new ['V'], []⟩ (.openSession "y := 1".toList true none) 12
    let m₂ := (m.acting (.evaluate "x_\x7b1\x7d := 2".toList false)).after (.evaluate "z := x_1 + y".toList false) 0
    (m.world.store.entries.Pairwise fun e e' => e.2.aliases.Disjoint e'.2.aliases) ∧
      ∃ e e', (m.world.store.evaluate "x_\x7b1\x7d := 2".toList).2 = .ok e ∧
        (m₂.world.store.evaluate "\x7bx_1\x7d := 5".toList).2 = .ok e' ∧
        e.defined = some "Vb".toList ∧ e'.defined = some "Vb".toList := by
  intro m m₂
  have hdefined (s : Store) (latex : Text) (h : (s.evaluate latex).2.toOption.map (·.defined) = some (some "Vb".toList)) :
      ∃ e, (s.evaluate latex).2 = .ok e ∧ e.defined = some "Vb".toList := by
    cases hevaluate : (s.evaluate latex).2 with
    | error => simp [hevaluate, Except.toOption] at h
    | ok e => exact ⟨e, rfl, by simpa [hevaluate, Except.toOption] using h⟩
  obtain ⟨calls, hreaches, hcalls⟩ : ∃ calls, Reaches ⟨World.new ['V'], []⟩ calls m ∧
      ∀ c ∈ calls, c.action.TidilyDefines := ⟨_, Reaches.refl.after _ 12, by decide +kernel⟩
  obtain ⟨taken, hevaluates, htaken⟩ : ∃ taken, m.Evaluates "x_\x7b1\x7d := 2".toList taken
      (m.acting (.evaluate "x_\x7b1\x7d := 2".toList false)) ∧ ∀ c ∈ taken, c.action.TidilyDefines :=
    ⟨_, .asked _ false (by decide +kernel), by decide +kernel⟩
  obtain ⟨later, hlater, hlaterCalls⟩ : ∃ later,
      Reaches (m.acting (.evaluate "x_\x7b1\x7d := 2".toList false)) later m₂ ∧
        ∀ c ∈ later, c.action.TidilyDefines := ⟨_, Reaches.refl.after _ 0, by decide +kernel⟩
  have hall : ∀ c ∈ calls ++ taken ++ later, c.action.TidilyDefines := by
    simp only [List.mem_append]
    rintro c ((hc | hc) | hc)
    · exact hcalls c hc
    · exact htaken c hc
    · exact hlaterCalls c hc
  obtain ⟨hdisjoint, -, hreturns⟩ := hreaches.alias_belongs_to_one_variable hevaluates hlater hall
  obtain ⟨e, he, hident⟩ := hdefined m.world.store "x_\x7b1\x7d := 2".toList (by decide +kernel)
  obtain ⟨ident, hident', hlaterReturns⟩ := hreturns "x_\x7b1\x7d".toList e (by decide +kernel) he
  obtain ⟨e', he'⟩ : ∃ e', (m₂.world.store.evaluate "\x7bx_1\x7d := 5".toList).2 = .ok e' := by
    have hsome : (m₂.world.store.evaluate "\x7bx_1\x7d := 5".toList).2.toOption.isSome := by decide +kernel
    cases hevaluate : (m₂.world.store.evaluate "\x7bx_1\x7d := 5".toList).2 with
    | error reason =>
      rw [hevaluate] at hsome
      cases hsome
    | ok e' => exact ⟨e', rfl⟩
  have hsame := hlaterReturns "\x7bx_1\x7d := 5".toList "\x7bx_1\x7d".toList e' (by decide +kernel) (by decide +kernel)
    (by decide +kernel) he'
  exact ⟨hdisjoint, e, e', he, he', hident, hsame.trans (hident'.symm.trans hident)⟩

end Moment

end LiveTex

import LiveTex.Proofs.Name.Renaming

/-!
Which names are found again. A name of letters that was defined first can put its identifier inside another
name, and that one is lost: what it comes to is never its own identifier.
-/

namespace LiveTex.Name

/-- Replacing the first name puts an identifier into the second one. -/
def Plain.Captures (m n : Plain) : Prop := m.script = [] ∧ m.base ∈ n.shape.rows

instance (m n : Plain) : Decidable (m.Captures n) := inferInstanceAs (Decidable (_ ∧ _))

/-- Names with their identifiers: no two names share one, and no identifier is a name. -/
structure Naming (isIdent : Text → Prop) (named : List (Plain × Text)) : Prop where
  ident : ∀ m ∈ named, isIdent m.2
  letters : ∀ u, isIdent u → AllLetters u ∧ u ≠ []
  distinct : ∀ m ∈ named, ∀ n ∈ named, m.2 = n.2 → m = n
  apart : ∀ m ∈ named, ¬ isIdent m.1.base

namespace Shape

variable {isIdent : Text → Prop} {named : List (Plain × Text)} {n m : Plain} {ident other : Text} {p : Shape}

/-- A shape that never comes to the identifier of the name: it is the identifier of another name, or it has
an identifier where the name has none. -/
def Lost (isIdent : Text → Prop) (named : List (Plain × Text)) (n : Plain) (p : Shape) : Prop :=
  (∃ m ∈ named, m.1 ≠ n ∧ p = ⟨m.2, []⟩) ∨
    p.script ≠ [] ∧ ∃ (i : Nat) (u v : Text), p.rows[i]? = some u ∧ isIdent u ∧ n.shape.rows[i]? = some v ∧ ¬ isIdent v

/-- Once a shape is an identifier, it stays so. -/
theorem renamed_ident (h : Naming isIdent named) (hm : (m, other) ∈ named) (hident : isIdent ident) :
    renamed m other ⟨ident, []⟩ = ⟨ident, []⟩ := by
  unfold renamed
  split
  · have hne : ident ≠ m.base := by
      rintro rfl
      exact h.apart _ hm hident
    rw [replacing_of_ne hne, mapRuns, replacing_nil]
  · next hscript =>
    rw [if_neg]
    intro heq
    exact hscript (congrArg script heq).symm

theorem rows_renamed (hm : m.script = []) (h : AllLetters other) :
    (p.renamed m other).rows = p.rows.map (replacing m.base other) := by
  rw [renamed, if_pos hm, rows, rows, List.map_cons,
    runs_mapRuns (allLetters_replacing h) [] p.script (by simp [AllLetters])]

/-- A name that is not captured is left as it is by every other name. -/
theorem renamed_of_not_captures (hne : m ≠ n) (h : ¬ m.Captures n) : n.shape.renamed m other = n.shape := by
  unfold renamed
  split
  · next hm =>
    have hrows : ∀ u ∈ n.shape.rows, replacing m.base other u = u := by
      intro u hu
      apply replacing_of_ne
      rintro rfl
      exact h ⟨hm, hu⟩
    rw [hrows _ (.head _), mapRuns_eq_self [] _ fun u hu => hrows u (.tail _ hu)]
    rfl
  · rw [if_neg]
    intro heq
    exact hne (Plain.shape_inj heq).symm

/-- A name comes to its own identifier. -/
theorem renamed_self : n.shape.renamed n ident = ⟨ident, []⟩ := by
  unfold renamed
  split
  · next hn => rw [Plain.shape, replacing_self, hn, mapRuns, replacing_nil]
  · exact if_pos rfl

/-- Only a name with a script is captured by another one. -/
theorem script_ne_nil_of_captures (hne : m ≠ n) (h : m.Captures n) : n.script ≠ [] := by
  obtain ⟨hplain, hrow⟩ := h
  intro hnil
  rw [Plain.shape, rows, hnil, runs, List.mem_cons, List.mem_singleton] at hrow
  exact hne (Plain.ext' (hrow.resolve_right m.base_ne_nil) (by rw [hplain, hnil]))

theorem lost_of_captures (h : Naming isIdent named) (hm : (m, other) ∈ named) (hne : m ≠ n)
    (hcaptures : m.Captures n) : Lost isIdent named n (n.shape.renamed m other) := by
  have hscript := script_ne_nil_of_captures hne hcaptures
  obtain ⟨hplain, hrow⟩ := hcaptures
  obtain ⟨hletters, hnonempty⟩ := h.letters _ (h.ident _ hm)
  apply Or.inr
  constructor
  · rw [renamed, if_pos hplain]
    exact mapRuns_ne_nil (replacing_ne_nil hnonempty) hscript
  · obtain ⟨i, hi⟩ := List.mem_iff_getElem?.mp hrow
    refine ⟨i, other, m.base, ?_, h.ident _ hm, hi, h.apart _ hm⟩
    rw [rows_renamed hplain hletters, List.getElem?_map, hi, Option.map_some, replacing_self]

/-- No later name finds a lost one again. -/
theorem Lost.renamed (h : Naming isIdent named) (hm : (m, other) ∈ named) (hp : Lost isIdent named n p) :
    Lost isIdent named n (p.renamed m other) := by
  obtain ⟨m', hm', hne, rfl⟩ | ⟨hscript, i, u, v, hu, hident, hv, hnot⟩ := hp
  · rw [renamed_ident h hm (h.ident _ hm')]
    exact .inl ⟨m', hm', hne, rfl⟩
  · obtain ⟨hletters, hnonempty⟩ := h.letters _ (h.ident _ hm)
    by_cases hplain : m.script = []
    · apply Or.inr
      constructor
      · rw [Shape.renamed, if_pos hplain]
        exact mapRuns_ne_nil (replacing_ne_nil hnonempty) hscript
      · refine ⟨i, u, v, ?_, hident, hv, hnot⟩
        rw [rows_renamed hplain hletters, List.getElem?_map, hu, Option.map_some, replacing_of_ne]
        rintro rfl
        exact h.apart _ hm hident
    · rw [Shape.renamed, if_neg hplain]
      split
      · next heq =>
        refine .inl ⟨(m, other), hm, ?_, rfl⟩
        rintro rfl
        have hrow : p.rows = m.shape.rows := congrArg rows heq
        rw [← hrow, hu] at hv
        exact hnot (Option.some.inj hv ▸ hident)
      · exact .inr ⟨hscript, i, u, v, hu, hident, hv, hnot⟩

theorem Lost.ne_ident (h : Naming isIdent named) (hn : (n, ident) ∈ named) (hp : Lost isIdent named n p) :
    p ≠ ⟨ident, []⟩ := by
  rintro rfl
  obtain ⟨m, hm, hne, heq⟩ | ⟨hscript, -⟩ := hp
  · exact hne (congrArg Prod.fst (h.distinct _ hm _ hn (congrArg base heq).symm))
  · exact hscript rfl

section

variable {before : List (Plain × Text)}

theorem renamedAll_ident (h : Naming isIdent named) (hbefore : before ⊆ named) (hident : isIdent ident) :
    renamedAll before ⟨ident, []⟩ = ⟨ident, []⟩ := by
  induction before with
  | nil => rfl
  | cons m before ih =>
    obtain ⟨hm, hbefore⟩ := List.cons_subset.mp hbefore
    rw [renamedAll_cons, renamed_ident h hm hident]
    exact ih hbefore

theorem renamedAll_of_not_captures (hne : ∀ m ∈ before, m.1 ≠ n) (h : ∀ m ∈ before, ¬ m.1.Captures n) :
    renamedAll before n.shape = n.shape := by
  induction before with
  | nil => rfl
  | cons m before ih =>
    rw [renamedAll_cons, renamed_of_not_captures (hne m (.head _)) (h m (.head _))]
    exact ih (fun m hm => hne m (.tail _ hm)) fun m hm => h m (.tail _ hm)

theorem Lost.renamedAll (h : Naming isIdent named) (hbefore : before ⊆ named) (hp : Lost isIdent named n p) :
    Lost isIdent named n (p.renamedAll before) := by
  induction before generalizing p with
  | nil => exact hp
  | cons m before ih =>
    obtain ⟨hm, hbefore⟩ := List.cons_subset.mp hbefore
    exact ih hbefore (hp.renamed h hm)

/-- A name that one of the names before it captures is lost. -/
theorem lost_renamedAll (h : Naming isIdent named) (hbefore : before ⊆ named) (hne : ∀ m ∈ before, m.1 ≠ n)
    (hcaptures : ∃ m ∈ before, m.1.Captures n) : Lost isIdent named n (renamedAll before n.shape) := by
  induction before with
  | nil => simp at hcaptures
  | cons m before ih =>
    obtain ⟨hm, hrest⟩ := List.cons_subset.mp hbefore
    rw [renamedAll_cons]
    by_cases hfirst : m.1.Captures n
    · exact (lost_of_captures h hm (hne m (.head _)) hfirst).renamedAll h hrest
    · rw [renamed_of_not_captures (hne m (.head _)) hfirst]
      apply ih hrest fun m hm => hne m (.tail _ hm)
      obtain ⟨m', hm', hcaptures⟩ := hcaptures
      obtain rfl | hm' := List.mem_cons.mp hm'
      · exact absurd hcaptures hfirst
      · exact ⟨m', hm', hcaptures⟩

end

/-- A name comes to its own identifier exactly when no name before it captures it. -/
theorem renamedAll_eq_ident_iff (h : Naming isIdent named) (hnodup : (named.map Prod.fst).Nodup)
    (hn : (n, ident) ∈ named) :
    n.shape.renamedAll named = ⟨ident, []⟩ ↔
      ∀ m ∈ (named.map Prod.fst).takeWhile (· ≠ n), ¬ m.Captures n := by
  obtain ⟨before, after, rfl⟩ := List.append_of_mem hn
  have hne : ∀ m ∈ before, m.1 ≠ n := by
    intro m hm heq
    rw [List.map_append, List.nodup_append] at hnodup
    exact hnodup.2.2 m.1 (List.mem_map_of_mem hm) n (by simp) heq
  have htake : ((before ++ (n, ident) :: after).map Prod.fst).takeWhile (· ≠ n) = before.map Prod.fst := by
    rw [List.map_append, List.takeWhile_append_of_pos, List.map_cons, List.takeWhile_cons_of_neg (by simp),
      List.append_nil]
    intro name hname
    obtain ⟨m, hm, rfl⟩ := List.mem_map.mp hname
    simpa using hne m hm
  have hbefore : before ⊆ before ++ (n, ident) :: after := List.subset_append_left ..
  have hsplit : n.shape.renamedAll (before ++ (n, ident) :: after) =
      renamedAll after ((renamedAll before n.shape).renamed n ident) := by
    rw [renamedAll_append, renamedAll_cons]
  rw [htake]
  constructor
  · intro hresult name hname hcaptures
    obtain ⟨m, hm, rfl⟩ := List.mem_map.mp hname
    have hlost := lost_renamedAll h hbefore hne ⟨m, hm, hcaptures⟩
    have hafter : (n, ident) :: after ⊆ before ++ (n, ident) :: after := List.subset_append_right ..
    have hend := hlost.renamedAll h hafter
    rw [← renamedAll_append] at hend
    exact hend.ne_ident h hn hresult
  · intro hnone
    rw [hsplit, renamedAll_of_not_captures hne fun m hm => hnone _ (List.mem_map_of_mem hm), renamed_self]
    apply renamedAll_ident h _ (h.ident _ hn)
    exact fun m hm => List.mem_append_right _ (.tail _ hm)

end Shape

end LiveTex.Name

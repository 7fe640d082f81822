import LiveTex.Proofs.Formula.Respelling
import LiveTex.Proofs.Name.Weaving
import LiveTex.Proofs.Sheet.Naming

/-!
A new variable in the store. A text that says nothing of it comes to the same formula as before, and this
formula has the value that it had.
-/

namespace LiveTex.Store

open Name (AllLetters Stands Repeatable Repeats Woven StandsBetween repeated runs substitute)

/-- The store with one more variable. -/
def appended (s : Store) (ident : Ident) (v : Variable) : Store := { s with entries := s.entries ++ [(ident, v)] }

/-- Identifiers are letters, and no spelling has one of them as a longest run of letters. -/
structure Separate (s : Store) : Prop where
  ident : ∀ e ∈ s.entries, AllLetters e.1 ∧ e.1 ≠ []
  apart : ∀ e ∈ s.entries, ∀ e' ∈ s.entries, ∀ spelling ∈ e'.2.aliases, e.1 ∉ runs [] spelling

instance (s : Store) : Decidable s.Separate :=
  decidable_of_iff
    ((∀ e ∈ s.entries, AllLetters e.1 ∧ e.1 ≠ []) ∧
      ∀ e ∈ s.entries, ∀ e' ∈ s.entries, ∀ spelling ∈ e'.2.aliases, e.1 ∉ runs [] spelling)
    ⟨fun ⟨hident, hapart⟩ => ⟨hident, hapart⟩, fun ⟨hident, hapart⟩ => ⟨hident, hapart⟩⟩

/-- The letters are neither the identifier nor a longest run of letters of a spelling. -/
def Unspelled (s : Store) (ident : Ident) (letters : Text) : Prop :=
  letters ≠ ident ∧ ∀ e ∈ s.entries, ∀ spelling ∈ e.2.aliases, letters ∉ runs [] spelling

instance (s : Store) (ident : Ident) (letters : Text) : Decidable (s.Unspelled ident letters) :=
  inferInstanceAs (Decidable (_ ∧ _))

/-- Where a spelling without a letter at either end stands several times in a row, its identifiers run into
one, and nothing in the other store is spelled like that. -/
def Uncombined (s s' : Store) (ident : Ident) (t : Text) : Prop :=
  ∀ e ∈ s.entries, ∀ spelling ∈ e.2.aliases, Repeatable spelling →
    ∀ n, 2 ≤ n → Stands (repeated n spelling) t → s'.Unspelled ident (repeated n e.1)

/-- No spelling stands in a text more often than the text has characters. -/
theorem uncombined_iff {s s' : Store} {ident : Ident} {t : Text} : s.Uncombined s' ident t ↔
    ∀ e ∈ s.entries, ∀ spelling ∈ e.2.aliases, Repeatable spelling →
      ∀ n ≤ t.length, 2 ≤ n → Stands (repeated n spelling) t → s'.Unspelled ident (repeated n e.1) := by
  constructor
  · intro h e he spelling hspelling hrepeatable n _ htwice hstands
    exact h e he spelling hspelling hrepeatable n htwice hstands
  · intro h e he spelling hspelling hrepeatable n htwice hstands
    have hlength := hstands.length_le
    rw [Name.length_repeated] at hlength
    have hle : n ≤ t.length := (Nat.le_mul_of_pos_right n (List.length_pos_iff.mpr hrepeatable.1)).trans hlength
    exact h e he spelling hspelling hrepeatable n hle htwice hstands

instance (s s' : Store) (ident : Ident) (t : Text) : Decidable (s.Uncombined s' ident t) :=
  decidable_of_iff' _ uncombined_iff

/-- The text says nothing of the new variable, and neither do identifiers that run into one another in it. -/
structure Unmentioned (s : Store) (ident : Ident) (v : Variable) (t : Text) : Prop where
  spellings : ∀ spelling ∈ v.aliases, spelling ≠ [] → ¬ Stands spelling t
  absent : ident ∉ runs [] t
  uncombined : s.Uncombined (s.appended ident v) ident t

instance (s : Store) (ident : Ident) (v : Variable) (t : Text) : Decidable (s.Unmentioned ident v t) :=
  decidable_of_iff
    ((∀ spelling ∈ v.aliases, spelling ≠ [] → ¬ Stands spelling t) ∧ ident ∉ runs [] t ∧
      s.Uncombined (s.appended ident v) ident t)
    ⟨fun ⟨hspellings, habsent, huncombined⟩ => ⟨hspellings, habsent, huncombined⟩,
      fun ⟨hspellings, habsent, huncombined⟩ => ⟨hspellings, habsent, huncombined⟩⟩

/-- The spelling of a variable, so many times in a row, gives way to its identifier. -/
def Inserts (s : Store) (x b : Text) : Prop := ∃ e ∈ s.entries, ∃ spelling ∈ e.2.aliases, Repeats spelling e.1 x b

variable {s : Store} {ident : Ident} {v : Variable} {t u x b : Text}

theorem aliasTable_appended : (s.appended ident v).aliasTable = s.aliasTable ++ v.aliases.map (·, ident) := by
  simp [aliasTable, appended]

/-- Only the new identifier can have another value than before. -/
theorem bindings_appended {name : Text} (h : name ≠ ident ∨ ident ∈ s.entries.map Prod.fst) :
    (s.appended ident v).bindings name = s.bindings name := by
  rw [bindings, bindings, find?, find?, appended, List.lookup_append]
  cases hlookup : s.entries.lookup name with
  | some w => rfl
  | none =>
    have hne : (name == ident) = false := by
      rw [beq_eq_false_iff_ne]
      rintro rfl
      obtain ⟨e, he, hname⟩ := List.mem_map.mp (h.resolve_left fun hne => hne rfl)
      exact absurd (List.lookup_eq_none_iff.mp hlookup e he) (by simp [hname])
    rw [Option.none_or, List.lookup_cons, hne]
    rfl

theorem mem_entries_appended {e : Ident × Variable} (he : e ∈ s.entries) : e ∈ (s.appended ident v).entries :=
  List.mem_append_left _ he

theorem new_mem_entries_appended : (ident, v) ∈ (s.appended ident v).entries := by simp [appended]

section

variable (h : (s.appended ident v).Separate) (ht : s.Unmentioned ident v t)

include h in
theorem Inserts.letters (hx : s.Inserts x b) : AllLetters b ∧ b ≠ [] := by
  obtain ⟨e, he, spelling, -, -, n, -, rfl, -⟩ := hx
  obtain ⟨hletters, hne⟩ := h.ident e (mem_entries_appended he)
  exact ⟨Name.allLetters_repeated _ hletters, Name.repeated_ne_nil n hne⟩

include ht in
/-- In the place of what stands in the text there is one identifier, or nothing is spelled like those there. -/
theorem Inserts.ident_or_unspelled (hx : s.Inserts x b) (hstands : Stands x t) :
    (∃ e ∈ s.entries, b = e.1) ∨ (s.appended ident v).Unspelled ident b := by
  obtain ⟨e, he, spelling, hspelling, -, n, rfl, rfl, hrepeatable⟩ := hx
  cases n with
  | zero => exact .inl ⟨e, he, Name.repeated_one e.1⟩
  | succ n =>
    have hrepeatable := hrepeatable.resolve_left (Nat.succ_ne_zero n)
    exact .inr (ht.uncombined e he spelling hspelling hrepeatable (n + 1 + 1) (by omega) hstands)

include ht in
/-- Identifiers in the place of what stands in the text are not the new identifier, when it is new. -/
theorem Inserts.ne_ident (hx : s.Inserts x b) (hstands : Stands x t) (hfresh : ident ∉ s.entries.map Prod.fst) :
    b ≠ ident := by
  obtain ⟨e, he, rfl⟩ | hunspelled := hx.ident_or_unspelled ht hstands
  · rintro rfl
    exact hfresh (List.mem_map_of_mem he)
  · exact hunspelled.1

include h ht

/-- Identifiers in the place of what stands in the text do not stand in a spelling. -/
theorem Inserts.not_stands (hx : s.Inserts x b) (hstands : Stands x t) {e : Ident × Variable}
    (he : e ∈ (s.appended ident v).entries) {spelling : Text} (hspelling : spelling ∈ e.2.aliases) :
    ¬ Stands b spelling := by
  obtain ⟨hletters, hne⟩ := hx.letters h
  rw [Name.stands_iff_mem_runs hletters hne]
  obtain ⟨e', he', rfl⟩ | hunspelled := hx.ident_or_unspelled ht hstands
  · exact h.apart e' (mem_entries_appended he') e he spelling hspelling
  · exact hunspelled.2 e he spelling hspelling

/-- Nor do they stand in a spelling that follows itself. -/
theorem Inserts.not_stands_of_repeats (hx : s.Inserts x b) (hstands : Stands x t) {e : Ident × Variable}
    (he : e ∈ (s.appended ident v).entries) {spelling : Text} (hspelling : spelling ∈ e.2.aliases) {y c : Text}
    (hy : Repeats spelling e.1 y c) : ¬ Stands b y := by
  have honce := hx.not_stands h ht hstands he hspelling
  obtain ⟨hletters, hne⟩ := hx.letters h
  obtain ⟨-, n, rfl, -, rfl | ⟨-, -, hlast⟩⟩ := hy
  · rwa [Nat.zero_add, Name.repeated_one]
  · rw [Name.stands_iff_mem_runs hletters hne] at honce ⊢
    exact fun hmem => honce (Name.mem_runs_of_repeated hlast hne hmem)

/-- Every variable puts its identifier between pieces of the original text. -/
theorem woven_substitute {done : List (Text × Ident)} (hdone : done ⊆ s.aliasTable) :
    Woven s.Inserts t (substitute t done) := by
  have entry {p : Text × Ident} (hp : p ∈ done) : ∃ e ∈ s.entries, p.1 ∈ e.2.aliases ∧ p.2 = e.1 :=
    mem_aliasTable.mp (hdone hp)
  apply (Woven.plain t).substitute
  · intro p hp
    obtain ⟨e, he, -, hident⟩ := entry hp
    rw [hident]
    exact h.ident e (mem_entries_appended he)
  · intro p hp y c hy
    obtain ⟨e, he, hspelling, hident⟩ := entry hp
    exact ⟨e, he, p.1, hspelling, hident ▸ hy⟩
  · intro x b hx hstands p hp y c hy
    obtain ⟨e, he, hspelling, hident⟩ := entry hp
    rw [hident] at hy
    exact hx.not_stands_of_repeats h ht hstands (mem_entries_appended he) hspelling hy

/-- Every spelling stands only in pieces of the original text. -/
theorem standsBetween (hu : Woven s.Inserts t u) {p : Text × Ident} (hp : p ∈ (s.appended ident v).aliasTable) :
    StandsBetween s.Inserts p.1 t u := by
  obtain ⟨e, he, hspelling, -⟩ := mem_aliasTable.mp hp
  intro front back hsplit hfront hback
  have honly := hu.stands.standsBetween (fun x b hx => hx.1.not_stands h ht hx.2 he hspelling)
  obtain ⟨t₁, t₂, hsource, hleft, hright⟩ := honly front back hsplit hfront hback
  exact ⟨t₁, t₂, hsource, hleft.mono fun _ _ => And.left, hright.mono fun _ _ => And.left⟩

/-- The spellings of the new variable change nothing. -/
theorem substitute_new (hu : Woven s.Inserts t u) {spellings : List Text} (hspellings : spellings ⊆ v.aliases) :
    substitute u (spellings.map (·, ident)) = u := by
  induction spellings with
  | nil => rfl
  | cons spelling spellings ih =>
    obtain ⟨hspelling, hspellings⟩ := List.cons_subset.mp hspellings
    have hkept : (Name.replaceWhole? u spelling ident).getD u = u := by
      apply Name.replaceWhole?_eq_self
      intro hne hstands
      refine ht.spellings spelling hspelling hne (hu.stands.stands_of_stands (fun x b hx => ?_) hstands)
      exact hx.1.not_stands h ht hx.2 new_mem_entries_appended hspelling
    rw [List.map_cons]
    calc substitute u ((spelling, ident) :: spellings.map (·, ident))
      _ = substitute ((Name.replaceWhole? u spelling ident).getD u) (spellings.map (·, ident)) := rfl
      _ = u := by rw [hkept, ih hspellings]

/-- A new identifier is not among the runs of letters of the text with identifiers in it. -/
theorem ident_not_mem_runs (hu : Woven s.Inserts t u) (hfresh : ident ∉ s.entries.map Prod.fst) : ident ∉ runs [] u := by
  obtain ⟨hletters, hne⟩ := h.ident (ident, v) new_mem_entries_appended
  rw [← Name.stands_iff_mem_runs hletters hne]
  intro hstands
  refine ht.absent ((Name.stands_iff_mem_runs hletters hne).mp ?_)
  refine hu.stands.stands_of_stands (fun x b hx hwithin => ?_) hstands
  obtain ⟨hb, hbne⟩ := hx.1.letters h
  rw [Name.stands_iff_mem_runs hb hbne, ← List.append_nil ident, Formula.mem_runs_run hletters rfl hbne] at hwithin
  obtain heq | hmem := hwithin
  · exact hx.1.ne_ident ht hx.2 hfresh heq
  · exact hbne (List.mem_singleton.mp hmem)

/-- Every formula of the text has its value in both stores. -/
theorem evaluate_appended (hu : Woven s.Inserts t u) :
    (Formula.compile u >>= (·.evaluate (s.appended ident v).bindings)) = (Formula.compile u >>= (·.evaluate s.bindings)) := by
  cases hcompile : Formula.compile u with
  | error e => rfl
  | ok f =>
    apply Formula.evaluate_congr hcompile
    intro name hname
    apply bindings_appended
    by_cases hfresh : ident ∈ s.entries.map Prod.fst
    · exact .inr hfresh
    · apply Or.inl
      rintro rfl
      refine ident_not_mem_runs h ht hu hfresh ?_
      have htokens := (Formula.tokens_of_compile hcompile).1
      exact (Formula.Lexes.of_tokenizeFrom htokens).mem_runs name (List.mem_eraseDups.mp hname)

end

/-- A new variable does not disturb a text that says nothing of it. While spellings give way to identifiers, one
after the other, the text is made of pieces of the original one and of identifiers, and a spelling can only stand
in such a piece. The spellings of the new variable change nothing, and the formula compiles and evaluates as it
did without the variable. -/
theorem undisturbed_by_appended (h : (s.appended ident v).Separate) (ht : s.Unmentioned ident v t) :
    substitute t (s.appended ident v).aliasTable = substitute t s.aliasTable ∧
      (∀ done, done <+: (s.appended ident v).aliasTable → Woven s.Inserts t (substitute t done) ∧
        ∀ p ∈ (s.appended ident v).aliasTable, StandsBetween s.Inserts p.1 t (substitute t done)) ∧
      (Formula.compile (substitute t (s.appended ident v).aliasTable) >>= (·.evaluate (s.appended ident v).bindings)) =
        (Formula.compile (substitute t s.aliasTable) >>= (·.evaluate s.bindings)) := by
  have hwoven : Woven s.Inserts t (substitute t s.aliasTable) := woven_substitute h ht (List.Subset.refl _)
  have hsame : substitute t (s.appended ident v).aliasTable = substitute t s.aliasTable := by
    rw [aliasTable_appended, Name.substitute_append, substitute_new h ht hwoven (List.Subset.refl _)]
  refine ⟨hsame, fun done hdone => ?_, ?_⟩
  · have hstage : Woven s.Inserts t (substitute t done) := by
      obtain ⟨rest, hrest⟩ := hdone
      rw [aliasTable_appended] at hrest
      obtain ⟨more, htable, -⟩ | ⟨new, rfl, hnew⟩ := List.append_eq_append_iff.mp hrest
      · exact woven_substitute h ht (htable ▸ List.subset_append_left _ _)
      · obtain ⟨spellings, others, hsplit, rfl, -⟩ := List.map_eq_append_iff.mp hnew
        rw [Name.substitute_append, substitute_new h ht hwoven (hsplit ▸ List.subset_append_left _ _)]
        exact hwoven
    exact ⟨hstage, fun p hp => standsBetween h ht hstage hp⟩
  · rw [hsame, evaluate_appended h ht hwoven]

theorem undisturbed_by_y :
    let s := (((empty Ident.shortStem).evaluate "+ := 5".toList).1.evaluate "x := 3".toList).1
    let s' := s.appended "Vc".toList ⟨7, ["y".toList, "y".toList]⟩
    let t := "2 + x (++)".toList
    s'.Separate ∧ s.Unmentioned "Vc".toList ⟨7, ["y".toList, "y".toList]⟩ t ∧
      substitute t s.aliasTable = "2 Va Vb (VaVa)".toList ∧
      substitute t s'.aliasTable = substitute t s.aliasTable ∧
      (∀ done, done <+: s'.aliasTable → Woven s.Inserts t (substitute t done) ∧
        ∀ p ∈ s'.aliasTable, StandsBetween s.Inserts p.1 t (substitute t done)) ∧
      (Formula.compile (substitute t s'.aliasTable) >>= (·.evaluate s'.bindings)) =
        (Formula.compile (substitute t s.aliasTable) >>= (·.evaluate s.bindings)) := by
  intro s s' t
  have hseparate : s'.Separate := by decide +kernel
  have hunmentioned : s.Unmentioned "Vc".toList ⟨7, ["y".toList, "y".toList]⟩ t := by decide +kernel
  exact ⟨hseparate, hunmentioned, by decide +kernel, undisturbed_by_appended hseparate hunmentioned⟩

/-- A spelling that follows itself comes to two identifiers in a row, and these can spell the new name. -/
theorem plus_disturbed_by_name :
    let s := ((empty Ident.shortStem).evaluate "+ := 5".toList).1
    let v : Variable := ⟨7, ["VaVa".toList, "VaVa".toList]⟩
    let s' := s.appended "Vb".toList v
    let t := "++".toList
    let outcome := fun (source : Text) (b : Formula.Bindings) => (Formula.compile source >>= (·.evaluate b)).toOption
    s'.Separate ∧ Name.canonical t = t ∧ (∀ spelling ∈ v.aliases, ¬ Stands spelling t) ∧ "Vb".toList ∉ runs [] t ∧
      substitute t s.aliasTable = "VaVa".toList ∧ substitute t s'.aliasTable = "Vb".toList ∧
      (outcome (substitute t s.aliasTable) s.bindings).map Float.toBits = none ∧
      (outcome (substitute t s'.aliasTable) s'.bindings).map Float.toBits = some (Float.toBits 7) := by
  decide +kernel

end LiveTex.Store

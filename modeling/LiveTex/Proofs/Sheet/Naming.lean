import LiveTex.Proofs.Formula.Respelling
import LiveTex.Proofs.Sheet.Outcome

/-!
Names for values. Putting identifiers in the place of names and binding the identifiers comes to the same as
binding the names themselves, in every formula without a command that is spelled like a name.
-/

namespace LiveTex

open Name (AllLetters)

namespace Store

/-- The values of the variables, by name. -/
def valuesByName (s : Store) : Formula.Bindings :=
  fun name => (s.entries.find? (·.2.aliases.contains name)).map (·.2.value)

/-- Names and identifiers are letters, no two variables share an identifier, and no identifier is a name. -/
structure PlainlyNamed (s : Store) : Prop where
  ident : ∀ e ∈ s.entries, AllLetters e.1 ∧ e.1 ≠ []
  name : ∀ e ∈ s.entries, ∀ name ∈ e.2.aliases, AllLetters name ∧ name ≠ []
  distinct : (s.entries.map Prod.fst).Nodup
  apart : ∀ e ∈ s.entries, ∀ e' ∈ s.entries, e'.1 ∉ e.2.aliases

instance : LawfulBEq Text := inferInstanceAs (LawfulBEq (List Char))

instance (s : Store) : Decidable s.PlainlyNamed :=
  decidable_of_iff
    ((∀ e ∈ s.entries, AllLetters e.1 ∧ e.1 ≠ []) ∧
      (∀ e ∈ s.entries, ∀ name ∈ e.2.aliases, AllLetters name ∧ name ≠ []) ∧
      (s.entries.map Prod.fst).Nodup ∧ ∀ e ∈ s.entries, ∀ e' ∈ s.entries, e'.1 ∉ e.2.aliases)
    ⟨fun ⟨hident, hname, hdistinct, hapart⟩ => ⟨hident, hname, hdistinct, hapart⟩,
      fun ⟨hident, hname, hdistinct, hapart⟩ => ⟨hident, hname, hdistinct, hapart⟩⟩

variable {s : Store}

theorem mem_aliasTable {pair : Text × Ident} :
    pair ∈ s.aliasTable ↔ ∃ e ∈ s.entries, pair.1 ∈ e.2.aliases ∧ pair.2 = e.1 := by
  rw [aliasTable, List.mem_flatMap]
  constructor
  · rintro ⟨e, he, hpair⟩
    obtain ⟨name, hname, rfl⟩ := List.mem_map.mp hpair
    exact ⟨e, he, hname, rfl⟩
  · rintro ⟨e, he, hname, hident⟩
    exact ⟨e, he, List.mem_map.mpr ⟨pair.1, hname, by rw [← hident]⟩⟩

/-- The table finds the first variable with the name. -/
theorem lookup_aliasTable (s : Store) (name : Text) :
    s.aliasTable.lookup name = (s.entries.find? (·.2.aliases.contains name)).map (·.1) := by
  have hentry (ident : Ident) (names : List Text) :
      (names.map (·, ident)).lookup name = if names.contains name then some ident else none := by
    induction names with
    | nil => rfl
    | cons first names ih =>
      rw [List.map_cons, List.lookup_cons, ih, List.contains_cons]
      cases name == first <;> rfl
  rw [aliasTable]
  induction s.entries with
  | nil => rfl
  | cons e entries ih =>
    rw [List.flatMap_cons, List.lookup_append, hentry, ih, List.find?_cons]
    cases e.2.aliases.contains name <;> rfl

namespace PlainlyNamed

theorem respells (h : s.PlainlyNamed) : Formula.Respells (Name.looked s.aliasTable) := by
  have hident {u ident : Text} (hlookup : s.aliasTable.lookup u = some ident) : AllLetters ident ∧ ident ≠ [] ∧ u ≠ [] := by
    rw [lookup_aliasTable, Option.map_eq_some_iff] at hlookup
    obtain ⟨e, hfind, rfl⟩ := hlookup
    have he := List.mem_of_find?_eq_some hfind
    have hname : u ∈ e.2.aliases := by simpa using List.find?_some hfind
    exact ⟨(h.ident e he).1, (h.ident e he).2, (h.name e he u hname).2⟩
  constructor
  · intro u hu
    cases hlookup : s.aliasTable.lookup u with
    | none => simpa [Name.looked, hlookup] using hu
    | some ident => simpa [Name.looked, hlookup] using (hident hlookup).1
  · intro u
    cases hlookup : s.aliasTable.lookup u with
    | none => simp [Name.looked, hlookup]
    | some ident => simp [Name.looked, hlookup, (hident hlookup).2]

/-- A run of letters that is no identifier stands for the same value under its name and its identifier. -/
theorem symbolValue_looked (h : s.PlainlyNamed) {u : Text} (hu : u ∉ s.entries.map Prod.fst) :
    Formula.symbolValue s.bindings (Name.looked s.aliasTable u) = Formula.symbolValue s.valuesByName u := by
  cases hfind : s.entries.find? (·.2.aliases.contains u) with
  | none =>
    have hnone : s.valuesByName u = none := by rw [valuesByName, hfind, Option.map_none]
    have hlooked : Name.looked s.aliasTable u = u := by
      rw [Name.looked, lookup_aliasTable, hfind, Option.map_none, Option.getD_none]
    rw [hlooked, Formula.symbolValue, Formula.symbolValue, hnone, bindings_eq_none hu]
  | some e =>
    have hsome : s.valuesByName u = some e.2.value := by rw [valuesByName, hfind, Option.map_some]
    have hlooked : Name.looked s.aliasTable u = e.1 := by
      rw [Name.looked, lookup_aliasTable, hfind, Option.map_some, Option.getD_some]
    rw [hlooked, Formula.symbolValue, Formula.symbolValue, hsome,
      bindings_of_mem h.distinct (List.mem_of_find?_eq_some hfind)]

theorem substitute_aliasTable (h : s.PlainlyNamed) (t : Text) :
    Name.substitute t s.aliasTable = Name.mapRuns (Name.looked s.aliasTable) [] t := by
  apply Name.substitute_eq_mapRuns
  · intro pair hpair
    obtain ⟨e, he, hname, -⟩ := mem_aliasTable.mp hpair
    exact h.name e he _ hname
  · intro pair hpair
    obtain ⟨e, he, -, hident⟩ := mem_aliasTable.mp hpair
    exact hident ▸ (h.ident e he).1
  · intro pair hpair pair' hpair' heq
    obtain ⟨e, he, -, hident⟩ := mem_aliasTable.mp hpair
    obtain ⟨e', he', hname, -⟩ := mem_aliasTable.mp hpair'
    exact h.apart e' he' e he (by rw [← hident, heq]; exact hname)

end PlainlyNamed

/-- Putting identifiers in the place of names and binding the identifiers comes to the same as binding the
names, unless a command is spelled like a name: both texts compile or neither does, and the value or the
failure to have one is the same. -/
theorem evaluate_substitute_aliasTable (h : s.PlainlyNamed) {t : Text}
    (hruns : ∀ u ∈ Name.runs [] t, u ∉ s.entries.map Prod.fst)
    (hcommands : ∀ name ∈ Formula.commandNames t, ∀ e ∈ s.entries, name ∉ e.2.aliases) :
    (Formula.compile (Name.substitute t s.aliasTable)).toOption.map (·.evaluate s.bindings) =
      (Formula.compile t).toOption.map (·.evaluate s.valuesByName) := by
  rw [h.substitute_aliasTable]
  refine h.respells.evaluate_mapRuns ?_ fun u hu => h.symbolValue_looked (hruns u hu)
  intro name hname
  have hnone : s.entries.find? (·.2.aliases.contains name) = none :=
    List.find?_eq_none.mpr fun e he => by simpa using hcommands name hname e he
  rw [Name.looked, lookup_aliasTable, hnone, Option.map_none, Option.getD_none]

theorem evaluate_substitute_of_max :
    let s := (((empty Ident.shortStem).evaluate "max := 3".toList).1.evaluate "x := 2".toList).1
    let t := "2max-\\sin(x)PI".toList
    s.PlainlyNamed ∧ (∀ u ∈ Name.runs [] t, u ∉ s.entries.map Prod.fst) ∧
      (∀ name ∈ Formula.commandNames t, ∀ e ∈ s.entries, name ∉ e.2.aliases) ∧
      Name.substitute t s.aliasTable = "2Va-\\sin(Vb)PI".toList ∧ (Formula.compile t).toOption.isSome ∧
      (Formula.compile (Name.substitute t s.aliasTable)).toOption.map (·.evaluate s.bindings) =
        (Formula.compile t).toOption.map (·.evaluate s.valuesByName) := by
  intro s t
  have hnamed : s.PlainlyNamed := by decide +kernel
  have hruns : ∀ u ∈ Name.runs [] t, u ∉ s.entries.map Prod.fst := by decide +kernel
  have hcommands : ∀ name ∈ Formula.commandNames t, ∀ e ∈ s.entries, name ∉ e.2.aliases := by decide +kernel
  exact ⟨hnamed, hruns, hcommands, by decide +kernel, by decide +kernel,
    evaluate_substitute_aliasTable hnamed hruns hcommands⟩

/-- A name that is spelled like a command takes the place of the command's name. -/
theorem max_disturbed_by_name :
    let s := ((empty Ident.shortStem).evaluate "max := 3".toList).1
    let t := "\\max(1,2)".toList
    let outcome := fun (source : Text) (b : Formula.Bindings) => (Formula.compile source >>= (·.evaluate b)).toOption
    s.PlainlyNamed ∧ s.entries.map (·.2.aliases) = [["max".toList, "max".toList]] ∧ Name.canonical t = t ∧
      (∀ u ∈ Name.runs [] t, u ∉ s.entries.map Prod.fst) ∧
      Name.substitute t s.aliasTable = "\\Va(1,2)".toList ∧
      (outcome (Name.substitute t s.aliasTable) s.bindings).map Float.toBits = none ∧
      (outcome t s.valuesByName).map Float.toBits = some (Float.toBits 2) := by
  decide +kernel

end Store

end LiveTex

import Mathlib.Data.List.Nodup
import LiveTex.Proofs.Name.Capture
import LiveTex.Proofs.Sheet.Ident
import LiveTex.Proofs.Sheet.Outcome

/-!
Stores that hold plain names with numbers, in the order of their first assignment and under running
identifiers. Assigning a name writes over it in its place or puts it behind all others.
-/

namespace LiveTex

open Name (Plain Shape)

namespace Store

/-- The aliases and the value that a name is stored with. -/
def entry (value : Plain → Float) (m : Plain × Ident) : Ident × Variable :=
  (m.2, ⟨value m.1, [m.1.canonical, m.1.compact]⟩)

/-- The store holds exactly these names, in this order, under running identifiers. -/
structure Holds (s : Store) (stem : Text) (named : List (Plain × Ident)) (value : Plain → Float) : Prop where
  stem_eq : s.stem = stem
  minted : s.mintedIdents = named.length
  quiet : s.notifying = []
  entries : s.entries = named.map (entry value)
  idents : named.map Prod.snd = (List.range named.length).map (Ident.numbered stem)
  nodup : (named.map Prod.fst).Nodup
  apart : ∀ m ∈ named, ∀ k, m.1.base ≠ Ident.numbered stem k

variable {s : Store} {stem : Text} {named : List (Plain × Ident)} {value : Plain → Float} {n : Plain}
  {ident : Ident}

/-- An identifier of a store with the stem. -/
def IsIdent (stem u : Text) : Prop := ∃ k, u = Ident.numbered stem k

namespace Holds

theorem nodup_idents (h : s.Holds stem named value) : (named.map Prod.snd).Nodup := by
  rw [h.idents]
  exact List.Nodup.map (fun _ _ heq => Ident.numbered_injective heq) List.nodup_range

theorem naming (h : s.Holds stem named value) (hstem : Name.AllLetters stem) : Name.Naming (IsIdent stem) named where
  ident := by
    intro m hm
    have hmem : m.2 ∈ named.map Prod.snd := List.mem_map_of_mem hm
    rw [h.idents] at hmem
    obtain ⟨k, -, hk⟩ := List.mem_map.mp hmem
    exact ⟨k, hk.symm⟩
  letters := by
    rintro u ⟨k, rfl⟩
    exact ⟨Ident.allLetters_numbered hstem k, Ident.numbered_ne_nil stem k⟩
  distinct := fun m hm m' hm' heq => List.inj_on_of_nodup_map h.nodup_idents hm hm' heq
  apart := by
    rintro m hm ⟨k, hk⟩
    exact h.apart m hm k hk

theorem aliasTable (h : s.Holds stem named value) : s.aliasTable = Shape.table named := by
  rw [Store.aliasTable, h.entries, List.flatMap_map]
  rfl

/-- A variable shares an alias with a name exactly when it is stored for that name. -/
theorem shares_alias (m : Plain × Ident) (n : Plain) (value : Plain → Float) :
    ((entry value m).2.aliases.any [n.canonical, n.compact].contains) = decide (m.1 = n) := by
  by_cases hm : m.1 = n
  · simp [entry, hm]
  · rw [decide_eq_false hm, Bool.eq_false_iff]
    intro hany
    obtain ⟨t, ht, hshared⟩ := List.any_eq_true.mp hany
    simp only [entry, List.mem_cons, List.not_mem_nil, or_false] at ht
    simp only [List.contains_iff_mem, List.mem_cons, List.not_mem_nil, or_false] at hshared
    exact hm (Plain.eq_of_shared ht hshared)

theorem resolveAny_eq (h : s.Holds stem named value) (n : Plain) :
    s.resolveAny [n.canonical, n.compact] = (named.find? fun m => decide (m.1 = n)).map Prod.snd := by
  rw [resolveAny, h.entries, List.find?_map, Option.map_map]
  simp only [Function.comp_def, shares_alias]
  rfl

theorem resolveAny_of_mem (h : s.Holds stem named value) (hn : (n, ident) ∈ named) :
    s.resolveAny [n.canonical, n.compact] = some ident := by
  obtain ⟨m, hm⟩ : ∃ m, named.find? (fun m => decide (m.1 = n)) = some m := by
    rw [← Option.isSome_iff_exists, List.find?_isSome]
    exact ⟨(n, ident), hn, by simp⟩
  have hname : m.1 = n := by simpa using List.find?_some hm
  have heq : m = (n, ident) := List.inj_on_of_nodup_map h.nodup (List.mem_of_find?_eq_some hm) hn hname
  rw [h.resolveAny_eq, hm, heq]
  rfl

theorem resolveAny_of_not_mem (h : s.Holds stem named value) (hn : n ∉ named.map Prod.fst) :
    s.resolveAny [n.canonical, n.compact] = none := by
  have hnone : named.find? (fun m => decide (m.1 = n)) = none := by
    rw [List.find?_eq_none]
    intro m hm heq
    exact hn (by simpa using ⟨m.2, of_decide_eq_true heq ▸ hm⟩)
  rw [h.resolveAny_eq, hnone]
  rfl

theorem bindings (h : s.Holds stem named value) (hn : (n, ident) ∈ named) : s.bindings ident = some (value n) := by
  have hdistinct : (s.entries.map Prod.fst).Nodup := by
    rw [h.entries, List.map_map]
    exact h.nodup_idents
  exact bindings_of_mem hdistinct (e := entry value (n, ident)) (h.entries ▸ List.mem_map_of_mem hn)

/-- The numbers of the names after an assignment. -/
def assigned (value : Plain → Float) (n : Plain) (x : Float) : Plain → Float := fun m => if m = n then x else value m

theorem entry_assigned_of_ne {x : Float} {m : Plain × Ident} (h : m.1 ≠ n) :
    entry (assigned value n x) m = entry value m := by
  simp [entry, assigned, h]

theorem entry_assigned_self (x : Float) :
    entry (assigned value n x) (n, ident) = (ident, ⟨x, [n.canonical, n.compact]⟩) := by
  simp [entry, assigned]

/-- A stored name is written over in its place. -/
theorem insert_of_mem (h : s.Holds stem named value) (hn : (n, ident) ∈ named) (x : Float) :
    (s.insert ident ⟨x, [n.canonical, n.compact]⟩).Holds stem named (assigned value n x) := by
  obtain ⟨before, after, hsplit⟩ := List.append_of_mem hn
  have hidents := h.nodup_idents
  have hnodup := h.nodup
  rw [hsplit, List.map_append, List.map_cons, List.nodup_append, List.nodup_cons] at hidents hnodup
  have hbefore : ∀ m ∈ before, m.1 ≠ n ∧ m.2 ≠ ident := by
    intro m hm
    exact ⟨hnodup.2.2 _ (List.mem_map_of_mem hm) n (.head _), hidents.2.2 _ (List.mem_map_of_mem hm) ident (.head _)⟩
  have hafter : ∀ m ∈ after, m.1 ≠ n := by
    intro m hm heq
    have hmem : m.1 ∈ after.map Prod.fst := List.mem_map_of_mem hm
    rw [heq] at hmem
    exact hnodup.2.1.1 hmem
  have hentries : put ident ⟨x, [n.canonical, n.compact]⟩ s.entries = named.map (entry (assigned value n x)) := by
    rw [h.entries, hsplit, List.map_append, List.map_cons, List.map_append, List.map_cons, entry_assigned_self]
    rw [List.map_congr_left fun m hm => entry_assigned_of_ne (hbefore m hm).1,
      List.map_congr_left fun m hm => entry_assigned_of_ne (hafter m hm)]
    apply put_of_mem
    intro p hp
    obtain ⟨m, hm, rfl⟩ := List.mem_map.mp hp
    exact (hbefore m hm).2
  exact ⟨h.stem_eq, h.minted, h.quiet, hentries, h.idents, h.nodup, h.apart⟩

/-- A new name comes behind all others, under the next identifier. -/
theorem insert_of_not_mem (h : s.Holds stem named value) (hn : n ∉ named.map Prod.fst) (x : Float)
    (hapart : ∀ k, n.base ≠ Ident.numbered stem k) :
    (s.mintIdent.1.insert s.mintIdent.2 ⟨x, [n.canonical, n.compact]⟩).Holds stem (named ++ [(n, s.mintIdent.2)])
      (assigned value n x) := by
  have hident : s.mintIdent.2 = Ident.numbered stem named.length := by
    rw [mintIdent, h.stem_eq, h.minted]
  have hold : ∀ m ∈ named, m.1 ≠ n ∧ m.2 ≠ s.mintIdent.2 := by
    intro m hm
    constructor
    · rintro rfl
      exact hn (List.mem_map_of_mem hm)
    · intro heq
      have hmem : m.2 ∈ named.map Prod.snd := List.mem_map_of_mem hm
      rw [h.idents] at hmem
      obtain ⟨k, hk, hnumber⟩ := List.mem_map.mp hmem
      rw [heq, hident] at hnumber
      have hlt := List.mem_range.mp hk
      have hinjective := Ident.numbered_injective hnumber
      omega
  have hentries : put s.mintIdent.2 ⟨x, [n.canonical, n.compact]⟩ s.entries =
      (named ++ [(n, s.mintIdent.2)]).map (entry (assigned value n x)) := by
    rw [List.map_append, List.map_cons, List.map_nil, entry_assigned_self,
      List.map_congr_left fun m hm => entry_assigned_of_ne (hold m hm).1, ← h.entries]
    apply put_of_not_mem
    intro p hp
    rw [h.entries] at hp
    obtain ⟨m, hm, rfl⟩ := List.mem_map.mp hp
    exact (hold m hm).2
  refine ⟨h.stem_eq, ?_, h.quiet, hentries, ?_, ?_, ?_⟩
  · rw [List.length_append, ← h.minted]
    rfl
  · rw [List.map_append, List.length_append, h.idents, List.length_singleton, List.range_succ, List.map_append, hident]
    rfl
  · rw [List.map_append, List.nodup_append]
    refine ⟨h.nodup, by simp, ?_⟩
    intro a ha b hb
    rw [List.map_singleton, List.mem_singleton] at hb
    intro heq
    rw [heq, hb] at ha
    exact hn ha
  · intro m hm
    obtain hm | hm := List.mem_append.mp hm
    · exact h.apart m hm
    · rw [List.mem_singleton.mp hm]
      exact hapart

end Holds

end Store

end LiveTex

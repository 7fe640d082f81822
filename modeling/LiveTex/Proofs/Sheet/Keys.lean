import LiveTex.Proofs.Formula.Lexemes
import LiveTex.Proofs.Sheet.Numbering

/-!
Identifiers as keys. A store numbers the identifiers that it gives out, whatever else it is asked for between them, so no
two are the same. Each of them is a single symbol in a formula and no constant.
-/

namespace LiveTex

open Name (AllLetters)
open Text (bytes)

/-- What a store can be asked for. -/
inductive Request where
  | ident
  | subscriber
  deriving Repr, DecidableEq

namespace Store

/-- The store after a request, and the identifier if one was asked for. -/
def serve (s : Store) : Request → Store × Option Ident
  | .ident => (s.mintIdent.1, some s.mintIdent.2)
  | .subscriber => (s.mintSubscriber.1, none)

/-- The identifiers that a row of requests takes out, in order. -/
def taken (s : Store) : List Request → List Ident
  | [] => []
  | r :: more => (s.serve r).2.toList ++ (s.serve r).1.taken more

variable (s : Store) (requests : List Request)

/-- A request for an identifier takes out the next one, and other requests leave the number of the next one as it is. -/
theorem serve_eq (r : Request) :
    (s.serve r).1.stem = s.stem ∧ (s.serve r).1.mintedIdents = s.mintedIdents + [r].count .ident ∧
      (s.serve r).2.toList = (List.range' s.mintedIdents ([r].count .ident)).map (Ident.numbered s.stem) := by
  cases r with
  | ident => exact ⟨rfl, rfl, rfl⟩
  | subscriber => exact ⟨rfl, rfl, rfl⟩

theorem taken_eq : s.taken requests =
    (List.range' s.mintedIdents (requests.count .ident)).map (Ident.numbered s.stem) := by
  induction requests generalizing s with
  | nil => rfl
  | cons r more ih =>
    obtain ⟨hstem, hminted, hident⟩ := s.serve_eq r
    rw [taken, ih, hstem, hminted, hident, ← List.map_append, List.range'_append_1, ← List.count_append]
    rfl

theorem length_taken : (s.taken requests).length = requests.count .ident := by
  rw [taken_eq, List.length_map, List.length_range']

/-- The place of an identifier says its number. -/
theorem eq_numbered_of_getElem?_taken {requests : List Request} {m : Nat} {ident : Ident}
    (h : (s.taken requests)[m]? = some ident) : ident = Ident.numbered s.stem (s.mintedIdents + m) := by
  rw [taken_eq, List.getElem?_map, Option.map_eq_some_iff] at h
  obtain ⟨number, hnumber, rfl⟩ := h
  obtain ⟨hlt, rfl⟩ := List.getElem?_eq_some_iff.mp hnumber
  rw [List.getElem_range', Nat.one_mul]

theorem eq_of_getElem?_taken {requests : List Request} {m n : Nat} {ident : Ident}
    (hm : (s.taken requests)[m]? = some ident) (hn : (s.taken requests)[n]? = some ident) : m = n := by
  have hsame := (s.eq_numbered_of_getElem?_taken hm).symm.trans (s.eq_numbered_of_getElem?_taken hn)
  exact Nat.add_left_cancel (Ident.numbered_injective hsame)

/-- A single symbol of a formula, which consists of letters and is no constant. -/
theorem usable_of_mem_taken {stem : Text} (hstem : AllLetters stem) {ident : Ident}
    (h : ident ∈ (empty stem).taken requests) :
    AllLetters ident ∧ Formula.tokenize ident = .ok [⟨.symbol, ident, 0, bytes ident⟩] ∧
      ident ≠ "PI".toList ∧ ident ≠ "E".toList := by
  obtain ⟨m, hm⟩ := List.mem_iff_getElem?.mp h
  obtain rfl := eq_numbered_of_getElem?_taken _ hm
  have hletters := Ident.allLetters_numbered hstem (0 + m)
  exact ⟨hletters, Formula.tokenize_letters hletters (Ident.numbered_ne_nil stem _),
    (Formula.constant?_eq_none_iff _).mp (Ident.numbered_ne_constant stem _)⟩

/-- Every request for an identifier takes one out, two requests never take out the same one, and each of them is a single
symbol of letters and no constant. -/
theorem taken_idents_are_keys :
    let idents := (empty Ident.shortStem).taken requests
    idents.length = requests.count .ident ∧
      (∀ (m n : Nat) (ident : Ident), idents[m]? = some ident → idents[n]? = some ident → m = n) ∧
      ∀ ident ∈ idents, AllLetters ident ∧ Formula.tokenize ident = .ok [⟨.symbol, ident, 0, bytes ident⟩] ∧
        ident ≠ "PI".toList ∧ ident ≠ "E".toList := by
  intro idents
  have hstem : AllLetters Ident.shortStem := List.forall_mem_singleton.mpr rfl
  refine ⟨length_taken _ requests, fun m n ident hm hn => ?_, fun ident hident => ?_⟩
  · exact eq_of_getElem?_taken _ hm hn
  · exact usable_of_mem_taken requests hstem hident

theorem taken_idents_are_keys_of_carry :
    let idents := (empty Ident.shortStem).taken (.subscriber :: List.replicate 27 .ident)
    idents.length = 27 ∧ idents[0]? = some "Va".toList ∧ idents[26]? = some "Vba".toList ∧
      (∀ n : Nat, idents[n]? = some "Vba".toList → n = 26) ∧
      Formula.tokenize "Vba".toList = .ok [⟨.symbol, "Vba".toList, 0, 3⟩] := by
  intro idents
  obtain ⟨hlength, hdifferent, husable⟩ := taken_idents_are_keys (.subscriber :: List.replicate 27 .ident)
  have hfirst : idents[0]? = some "Va".toList := by decide +kernel
  have hlast : idents[26]? = some "Vba".toList := by decide +kernel
  obtain ⟨-, htokens, -⟩ := husable _ (List.mem_of_getElem? hlast)
  exact ⟨hlength, hfirst, hlast, fun n hn => hdifferent n 26 _ hn hlast, htokens⟩

end Store

end LiveTex

import LiveTex.Text.Basic

/-!
Sets of characters, as ranges of code points in ascending order. A character is in a union when it is in
one of the two sets, in a complement when it is not in the set, and so on for the other operations.
-/

namespace LiveTex

namespace CharSet

/-- The largest code point. -/
def maxPoint : Nat := 0x10ffff

/-- The surrogates, code points that are no characters. -/
def surrogates : Nat × Nat := (0xd800, 0xdfff)

/-- The ranges ascend from a bound on, and each one ends before a gap. -/
def above (bound : Nat) : List (Nat × Nat) → Bool
  | [] => true
  | (low, high) :: rest => bound ≤ low && low ≤ high && above (high + 2) rest

/-- Whether a code point lies in one of the ranges, whose ends are included. -/
def covers (ranges : List (Nat × Nat)) (n : Nat) : Bool := ranges.any fun r => r.1 ≤ n && n ≤ r.2

@[simp] theorem covers_nil (n : Nat) : covers [] n = false := rfl

@[simp] theorem covers_cons (r : Nat × Nat) (rest : List (Nat × Nat)) (n : Nat) :
    covers (r :: rest) n = (decide (r.1 ≤ n ∧ n ≤ r.2) || covers rest n) := by
  simp [covers]

@[simp] theorem covers_append (r s : List (Nat × Nat)) (n : Nat) :
    covers (r ++ s) n = (covers r n || covers s n) := by
  simp [covers]

theorem above_mono {bound b : Nat} {ranges : List (Nat × Nat)} (h : above bound ranges = true)
    (hle : b ≤ bound) : above b ranges = true := by
  cases ranges with
  | nil => rfl
  | cons r rest =>
    simp only [above, Bool.and_eq_true, decide_eq_true_eq] at h ⊢
    exact ⟨⟨Nat.le_trans hle h.1.1, h.1.2⟩, h.2⟩

theorem covers_eq_false_of_above {bound n : Nat} {ranges : List (Nat × Nat)}
    (h : above bound ranges = true) (hn : n < bound) : covers ranges n = false := by
  induction ranges generalizing bound with
  | nil => rfl
  | cons r rest ih =>
    simp only [above, Bool.and_eq_true, decide_eq_true_eq] at h
    rw [covers_cons, ih h.2 (by omega)]
    have hlow : ¬ r.1 ≤ n := by omega
    simp [hlow]

/-- A range before others in ascending order. It takes in those that overlap or touch it. -/
def absorb (low high : Nat) : List (Nat × Nat) → List (Nat × Nat)
  | [] => [(low, high)]
  | (low', high') :: rest =>
    if low' ≤ high + 1 then absorb low (max high high') rest
    else (low, high) :: absorb low' high' rest

theorem above_absorb {low high : Nat} {rest : List (Nat × Nat)} (h : low ≤ high)
    (hrest : ∀ r ∈ rest, r.1 ≤ r.2) : above low (absorb low high rest) = true := by
  induction rest generalizing low high with
  | nil => simp [absorb, above, h]
  | cons r rest ih =>
    have hr := hrest r (List.mem_cons_self ..)
    have htail := fun s hs => hrest s (List.mem_cons_of_mem r hs)
    by_cases hjoin : r.1 ≤ high + 1
    · simpa only [absorb, hjoin, if_true] using ih (by omega) htail
    · have := above_mono (ih hr htail) (b := high + 2) (by omega)
      simp [absorb, above, hjoin, h, this]

theorem covers_absorb {low high : Nat} {rest : List (Nat × Nat)} (h : low ≤ high)
    (hlow : ∀ r ∈ rest, low ≤ r.1) (hsorted : rest.Pairwise fun r s => r.1 ≤ s.1)
    (hrest : ∀ r ∈ rest, r.1 ≤ r.2) (n : Nat) :
    covers (absorb low high rest) n = covers ((low, high) :: rest) n := by
  induction rest generalizing low high with
  | nil => rfl
  | cons r rest ih =>
    have hr := hrest r (List.mem_cons_self ..)
    have htail := fun s hs => hrest s (List.mem_cons_of_mem r hs)
    have hfirst := hlow r (List.mem_cons_self ..)
    obtain ⟨hnext, hpairs⟩ := List.pairwise_cons.mp hsorted
    by_cases hjoin : r.1 ≤ high + 1
    · rw [absorb, if_pos hjoin,
        ih (by omega) (fun s hs => hlow s (List.mem_cons_of_mem r hs)) hpairs htail]
      simp only [covers_cons]
      cases covers rest n
      · rw [Bool.or_false, Bool.or_false, ← Bool.decide_or]
        exact decide_eq_decide.mpr (by omega)
      · rw [Bool.or_true, Bool.or_true, Bool.or_true]
    · rw [absorb, if_neg hjoin, covers_cons, ih hr hnext hpairs htail, covers_cons, covers_cons,
        covers_cons]

/-- Ranges in any order, put into ascending order and joined where they meet. -/
def arrange (ranges : List (Nat × Nat)) : List (Nat × Nat) :=
  match (ranges.filter fun r => r.1 ≤ r.2).mergeSort fun r s => r.1 ≤ s.1 with
  | [] => []
  | (low, high) :: rest => absorb low high rest

theorem le_of_mem_sorted {s : List (Nat × Nat)} {r : Nat × Nat}
    (h : r ∈ (s.filter fun r => r.1 ≤ r.2).mergeSort fun r s => r.1 ≤ s.1) : r.1 ≤ r.2 := by
  simpa using (List.mem_filter.mp (List.mem_mergeSort.mp h)).2

theorem above_arrange (ranges : List (Nat × Nat)) : above 0 (arrange ranges) = true := by
  unfold arrange
  split
  · rfl
  · next low high rest heq =>
    have hmem := fun r hr => le_of_mem_sorted (s := ranges) (r := r) (by rw [heq]; exact hr)
    exact above_mono (above_absorb (hmem _ (List.mem_cons_self ..))
      fun r hr => hmem r (List.mem_cons_of_mem _ hr)) (Nat.zero_le _)

theorem covers_arrange (ranges : List (Nat × Nat)) (n : Nat) :
    covers (arrange ranges) n = covers ranges n := by
  have hsame : covers ((ranges.filter fun r => r.1 ≤ r.2).mergeSort fun r s => r.1 ≤ s.1) n =
      covers ranges n := by
    rw [Bool.eq_iff_iff]
    simp only [covers, List.any_eq_true, List.mem_mergeSort, List.mem_filter, Bool.and_eq_true,
      decide_eq_true_eq]
    constructor
    · rintro ⟨r, ⟨hr, _⟩, hn⟩
      exact ⟨r, hr, hn⟩
    · rintro ⟨r, hr, hn⟩
      exact ⟨r, ⟨hr, by omega⟩, hn⟩
  have hsorted := @List.pairwise_mergeSort _ (fun r s : Nat × Nat => decide (r.1 ≤ s.1))
    (by intro a b c; simp only [decide_eq_true_eq]; omega)
    (by intro a b; simp only [Bool.or_eq_true, decide_eq_true_eq]; omega)
    (ranges.filter fun r => r.1 ≤ r.2)
  rw [← hsame]
  unfold arrange
  split
  · next heq => rw [heq]
  · next low high rest heq =>
    have hmem := fun r hr => le_of_mem_sorted (s := ranges) (r := r) (by rw [heq]; exact hr)
    rw [heq] at hsorted ⊢
    simp only [decide_eq_true_eq] at hsorted
    obtain ⟨hnext, hpairs⟩ := List.pairwise_cons.mp hsorted
    exact covers_absorb (hmem _ (List.mem_cons_self ..)) hnext hpairs
      (fun r hr => hmem r (List.mem_cons_of_mem _ hr)) n

/-- What lies between the ranges, from `next` on. -/
def gaps (next : Nat) : List (Nat × Nat) → List (Nat × Nat)
  | [] => if next ≤ maxPoint then [(next, maxPoint)] else []
  | (low, high) :: rest =>
    if next < low then (next, low - 1) :: gaps (high + 1) rest else gaps (high + 1) rest

theorem above_gaps {next : Nat} {ranges : List (Nat × Nat)} (h : above next ranges = true) :
    above next (gaps next ranges) = true := by
  induction ranges generalizing next with
  | nil =>
    unfold gaps
    split <;> simp_all [above]
  | cons r rest ih =>
    simp only [above, Bool.and_eq_true, decide_eq_true_eq] at h
    have htail := ih (above_mono h.2 (b := r.2 + 1) (by omega))
    unfold gaps
    split
    · next hlt =>
      have := above_mono htail (b := r.1 - 1 + 2) (by omega)
      have hle : next ≤ r.1 - 1 := by omega
      simp [above, this, hle]
    · exact above_mono htail (by omega)

theorem covers_gaps {next n : Nat} {ranges : List (Nat × Nat)} (h : above next ranges = true)
    (hnext : next ≤ n) (hmax : n ≤ maxPoint) : covers (gaps next ranges) n = !covers ranges n := by
  induction ranges generalizing next with
  | nil =>
    have hle : next ≤ maxPoint := Nat.le_trans hnext hmax
    simp [gaps, hle, hnext, hmax]
  | cons r rest ih =>
    simp only [above, Bool.and_eq_true, decide_eq_true_eq] at h
    have hrest := above_mono h.2 (b := r.2 + 1) (by omega)
    have htail := above_gaps hrest
    by_cases hn : n ≤ r.2
    · have hnot := covers_eq_false_of_above htail (n := n) (by omega)
      have hout := covers_eq_false_of_above h.2 (n := n) (by omega)
      unfold gaps
      split
      · rw [covers_cons, covers_cons, hnot, hout, Bool.or_false, Bool.or_false, ← decide_not]
        exact decide_eq_decide.mpr (by omega)
      · rw [hnot, covers_cons]
        have hlow : r.1 ≤ n := by omega
        simp [hlow, hn]
    · have heq := ih hrest (by omega)
      unfold gaps
      split
      · rw [covers_cons, covers_cons, heq]
        have hout : ¬ n ≤ r.1 - 1 := by omega
        simp [hn, hout]
      · rw [covers_cons, heq]
        simp [hn]

end CharSet

/-- A set of characters. -/
structure CharSet where
  /-- Ranges of code points, both ends included. -/
  ranges : List (Nat × Nat)
  ordered : CharSet.above 0 ranges = true

namespace CharSet

/-- Whether the set has a character. -/
def has (s : CharSet) (c : Char) : Bool := covers s.ranges c.toNat

def ofRanges (ranges : List (Nat × Nat)) : CharSet := ⟨arrange ranges, above_arrange ranges⟩

def none : CharSet := ⟨[], rfl⟩

/-- The set of what lies between two characters, and of the two themselves. -/
def range (first last : Char) : CharSet := ofRanges [(first.toNat, last.toNat)]

def single (c : Char) : CharSet := range c c

def union (s t : CharSet) : CharSet := ofRanges (s.ranges ++ t.ranges)

/-- The characters that a set leaves out. -/
def compl (s : CharSet) : CharSet :=
  ⟨gaps 0 (arrange (surrogates :: s.ranges)), above_gaps (above_arrange _)⟩

def all : CharSet := compl none

instance : Union CharSet := ⟨union⟩

def inter (s t : CharSet) : CharSet := (s.compl ∪ t.compl).compl

instance : Inter CharSet := ⟨inter⟩

/-- The characters of the first set that the second one leaves out. -/
def diff (s t : CharSet) : CharSet := s ∩ t.compl

instance : SDiff CharSet := ⟨diff⟩

/-- The characters of exactly one of the two sets. -/
def symmDiff (s t : CharSet) : CharSet := s \ t ∪ t \ s

/-- The ASCII characters. -/
def ascii : CharSet := ofRanges [(0, 0x7f)]

/-- The only character of a set with one. -/
def single? (s : CharSet) : Option Char :=
  match s.ranges with
  | [(low, high)] => if low = high then some (Char.ofNat low) else Option.none
  | _ => Option.none

@[simp] theorem has_none (c : Char) : none.has c = false := rfl

@[simp] theorem has_range (first last c : Char) :
    (range first last).has c = decide (first ≤ c ∧ c ≤ last) := by
  have hle : ∀ a b : Char, a ≤ b ↔ a.toNat ≤ b.toNat := fun a b => Iff.rfl
  simp [has, range, ofRanges, covers_arrange, hle]

@[simp] theorem has_union (s t : CharSet) (c : Char) : (s ∪ t).has c = (s.has c || t.has c) := by
  change covers (arrange (s.ranges ++ t.ranges)) c.toNat = _
  rw [covers_arrange, covers_append]
  rfl

@[simp] theorem has_compl (s : CharSet) (c : Char) : s.compl.has c = !s.has c := by
  have hvalid : c.toNat < 0xd800 ∨ 0xdfff < c.toNat ∧ c.toNat < 0x110000 := c.valid
  change covers (gaps 0 (arrange (surrogates :: s.ranges))) c.toNat = _
  rw [covers_gaps (above_arrange _) (Nat.zero_le _) (by unfold maxPoint; omega), covers_arrange]
  change (!covers ((0xd800, 0xdfff) :: s.ranges) c.toNat) = _
  have hout : ¬ (0xd800 ≤ c.toNat ∧ c.toNat ≤ 0xdfff) := by omega
  rw [covers_cons, decide_eq_false hout]
  rfl

@[simp] theorem has_inter (s t : CharSet) (c : Char) : (s ∩ t).has c = (s.has c && t.has c) := by
  change (s.compl ∪ t.compl).compl.has c = _
  simp

@[simp] theorem has_diff (s t : CharSet) (c : Char) : (s \ t).has c = (s.has c && !t.has c) := by
  change (s ∩ t.compl).has c = _
  simp

@[simp] theorem has_symmDiff (s t : CharSet) (c : Char) :
    (s.symmDiff t).has c = (s.has c != t.has c) := by
  unfold symmDiff
  rw [has_union, has_diff, has_diff]
  cases s.has c <;> cases t.has c <;> rfl

end CharSet

end LiveTex

import Mathlib.Data.List.TakeWhile
import LiveTex.Proofs.Decimal.Leading
import LiveTex.Proofs.Text.Cuts
import LiveTex.Sheet.Display

/-!
How a result is shown. The rule is to show the shortest form, and to round it when it has more than five digits behind
the point. The length that is measured runs to the end of the text, so an exponent counts as digits: a short decimal with
a long exponent is rounded, too. Nothing else departs from the rule.
-/

namespace LiveTex

open Decimal (magnitude shortest IsDouble)

/-- The double that is nearest to a millionth. -/
def millionth : ℚ := magnitude 4722366482869645 (-72)

example : Decimal.Class.of (Decimal.nearest 1 1000000) = .finite false 4722366482869645 (-72) := by
  decide +kernel

/-- Whether a number is written without an exponent: from a millionth up to below `10 ^ 21`. -/
def IsPlain (mantissa : Nat) (exponent : Int) : Prop :=
  millionth ≤ magnitude mantissa exponent ∧ magnitude mantissa exponent < 10 ^ 21

instance (mantissa : Nat) (exponent : Int) : Decidable (IsPlain mantissa exponent) :=
  inferInstanceAs (Decidable (_ ∧ _))

/-- The shortest form that a result should have: zero without a sign, plain decimals, and others with an exponent. -/
def documentedForm (negative : Bool) (mantissa : Nat) (exponent : Int) : Text :=
  let d := shortest .up mantissa exponent
  if mantissa = 0 then ['0']
  else if IsPlain mantissa exponent then Decimal.sign negative ++ Decimal.plain false d.significant (d.leading + 1)
  else Decimal.sign negative ++ Decimal.scientific true d.significant d.leading

/-- The number of digits behind the point. -/
def fractionDigits (t : Text) : Nat := (((t.dropWhile (· != '.')).drop 1).takeWhile Char.isDigit).length

/-- The text that a result should have: with more than five digits behind the point it is rounded to four. -/
def documentedText (negative : Bool) (mantissa : Nat) (exponent : Int) : Text :=
  let form := documentedForm negative mantissa exponent
  if fractionDigits form ≤ 5 then '=' :: form
  else '=' :: (Decimal.sign negative ++ Decimal.fixed 4 mantissa exponent)

/-- The form has an exponent and few digits behind the point, but too many characters: the letter, the sign and the digits
of the exponent are counted with them. -/
structure Miscounted (negative : Bool) (mantissa : Nat) (exponent : Int) : Prop where
  ne_zero : mantissa ≠ 0
  not_plain : ¬ IsPlain mantissa exponent
  has_point : 0 < fractionDigits (documentedForm negative mantissa exponent)
  few_digits : fractionDigits (documentedForm negative mantissa exponent) ≤ 5
  many_characters : 5 < fractionDigits (documentedForm negative mantissa exponent) + 2 +
    (Decimal.digits (shortest .up mantissa exponent).leading.natAbs).length

variable {negative : Bool} {m : Nat} {e : Int} {a b t ds : Text}

/-! The shortest form. -/

/-- The exponent of the first digit decides as the magnitude does. -/
theorem isPlain_iff (hm : m ≠ 0) (h : IsDouble m e) :
    IsPlain m e ↔ -6 ≤ (shortest .up m e).leading ∧ (shortest .up m e).leading ≤ 20 := by
  -- At both bounds stands a double whose shortest decimal is the power of ten itself.
  have hsmall : -6 ≤ (shortest .up m e).leading ↔ millionth ≤ magnitude m e := by
    have hshortest : shortest .up 4722366482869645 (-72) = ⟨1, -6⟩ := by decide +kernel
    refine Decimal.le_leading_shortest_iff hm h (by norm_num) (by norm_num) (by norm_num) (by norm_num) (by norm_num) ?_
    simp [hshortest, Decimal.Scaled.magnitude]
  have hlarge : 21 ≤ (shortest .up m e).leading ↔ 10 ^ 21 ≤ magnitude m e := by
    have hshortest : shortest .up 7629394531250000 17 = ⟨1, 21⟩ := by decide +kernel
    have hpower : magnitude 7629394531250000 17 = 10 ^ 21 := by norm_num [magnitude]
    rw [← hpower]
    refine Decimal.le_leading_shortest_iff hm h (by norm_num) (by norm_num) (by norm_num) (by norm_num) (by norm_num) ?_
    simp [hshortest, Decimal.Scaled.magnitude]
  rw [IsPlain, ← hsmall, ← not_le, ← hlarge]
  omega

theorem shortestForm_eq_documentedForm (h : IsDouble m e) : shortestForm negative m e = documentedForm negative m e := by
  unfold shortestForm documentedForm
  by_cases hm : m = 0
  · rw [if_pos hm, if_pos hm]
  · have hplain := isPlain_iff hm h
    have hlayout := Decimal.Scaled.layout_eq resultStyle (Decimal.coefficient_shortest_ne_zero .up hm h)
    rw [if_neg hm, if_neg hm, Decimal.layout, show resultStyle.tie = .up from rfl, hlayout]
    by_cases hp : IsPlain m e
    · rw [if_pos hp, if_neg]
      · rfl
      · simp [resultStyle, hplain.mp hp]
    · rw [if_neg hp, if_pos]
      · rfl
      · rw [hplain] at hp
        simp [resultStyle]
        omega

/-! What is measured behind the point. -/

theorem lengthAfterPoint_of_point (ha : '.' ∉ a) : lengthAfterPoint (a ++ '.' :: b) = b.length := by
  have ha : ∀ d ∈ a, (d == '.') = false := fun d hd => by simpa using ne_of_mem_of_not_mem hd ha
  rw [lengthAfterPoint, Text.cutAt_append_cons ha (by simp)]

theorem lengthAfterPoint_of_no_point (ht : '.' ∉ t) : lengthAfterPoint t = 0 := by
  have ht : ∀ d ∈ t, (d == '.') = false := fun d hd => by simpa using ne_of_mem_of_not_mem hd ht
  rw [lengthAfterPoint, Text.cutAt_eq_none ht]

theorem fractionDigits_of_point (ha : '.' ∉ a) : fractionDigits (a ++ '.' :: b) = (b.takeWhile Char.isDigit).length := by
  have ha : ∀ d ∈ a, (d != '.') = true := fun d hd => by simpa using ne_of_mem_of_not_mem hd ha
  rw [fractionDigits, List.dropWhile_append_of_pos ha]
  rfl

theorem fractionDigits_of_no_point (ht : '.' ∉ t) : fractionDigits t = 0 := by
  have ht : ∀ d ∈ t, (d != '.') = true := fun d hd => by simpa using ne_of_mem_of_not_mem hd ht
  rw [fractionDigits, List.dropWhile_eq_nil_iff.mpr ht]
  rfl

/-! The layouts. -/

/-- All characters are digits. -/
def AllDigits (t : Text) : Prop := ∀ c ∈ t, c.isDigit = true

namespace AllDigits

theorem append (ha : AllDigits a) (hb : AllDigits b) : AllDigits (a ++ b) := by
  intro c hc
  exact (List.mem_append.mp hc).elim (ha c) (hb c)

theorem sublist (ht : AllDigits t) (h : a.Sublist t) : AllDigits a := fun c hc => ht c (h.subset hc)

theorem not_mem {c : Char} (ht : AllDigits t) (hc : c.isDigit = false) : c ∉ t := by
  intro hmem
  rw [ht c hmem] at hc
  cases hc

theorem point_not_mem (ht : AllDigits t) : '.' ∉ t := ht.not_mem (by decide)

theorem digits (n : Nat) : AllDigits (Decimal.digits n) := fun _ hc =>
  Nat.isDigit_of_mem_toDigits (by decide) (by decide) hc

theorem zeros (n : Nat) : AllDigits (Decimal.zeros n) := by
  intro c hc
  rw [List.eq_of_mem_replicate hc]
  rfl

theorem significant (d : Decimal.Scaled) : AllDigits d.significant :=
  (digits d.coefficient).sublist <| by
    have h := (List.dropWhile_sublist (· == '0') (l := (Decimal.digits d.coefficient).reverse)).reverse
    rwa [List.reverse_reverse] at h

end AllDigits

theorem not_mem_sign {c : Char} (hc : c ≠ '-') (negative : Bool) : c ∉ Decimal.sign negative := by
  cases negative <;> simp [Decimal.sign, hc]

theorem point_not_mem_sign (negative : Bool) : '.' ∉ Decimal.sign negative := not_mem_sign (by decide) negative

theorem not_mem_fixed {places : Nat} {c : Char} (hc : c.isDigit = false) (hpoint : c ≠ '.') :
    c ∉ Decimal.fixed places m e := by
  intro hmem
  simp only [Decimal.fixed, List.mem_append, List.mem_singleton, hpoint, or_false] at hmem
  have hpadded (n : Nat) : AllDigits (Decimal.padded (places + 1) (Decimal.digits n)) := (AllDigits.zeros _).append (.digits n)
  obtain hmem | hmem := hmem
  · exact ((hpadded _).sublist (List.take_sublist _ _)).not_mem hc hmem
  · exact ((hpadded _).sublist (List.drop_sublist _ _)).not_mem hc hmem

/-- A plain decimal has digits alone behind the point. -/
theorem lengthAfterPoint_plain (hds : AllDigits ds) (point : Int) :
    lengthAfterPoint (Decimal.sign negative ++ Decimal.plain false ds point) =
      fractionDigits (Decimal.sign negative ++ Decimal.plain false ds point) := by
  have hmeasured {a b : Text} (ha : AllDigits a) (hb : AllDigits b) :
      lengthAfterPoint (Decimal.sign negative ++ (a ++ '.' :: b)) =
        fractionDigits (Decimal.sign negative ++ (a ++ '.' :: b)) := by
    have hfront : '.' ∉ Decimal.sign negative ++ a := by
      simp [point_not_mem_sign, ha.point_not_mem]
    rw [← List.append_assoc, lengthAfterPoint_of_point hfront, fractionDigits_of_point hfront,
      List.takeWhile_eq_self_iff.mpr hb]
  unfold Decimal.plain
  split
  · simpa using hmeasured (a := ['0']) (by simp [AllDigits]) ((AllDigits.zeros (-point).toNat).append hds)
  · split
    · have hwhole : '.' ∉ Decimal.sign negative ++ (ds ++ Decimal.zeros (point.toNat - ds.length) ++ []) := by
        have hall := hds.append (.zeros (point.toNat - ds.length))
        simp [point_not_mem_sign, hall.point_not_mem]
      rw [if_neg Bool.false_ne_true, lengthAfterPoint_of_no_point hwhole, fractionDigits_of_no_point hwhole]
    · simpa using hmeasured (hds.sublist (List.take_sublist point.toNat ds)) (hds.sublist (List.drop_sublist _ _))

/-- The letter, the sign and the digits of the exponent stand behind the mantissa. -/
theorem scientific_eq (ds : Text) (x : Int) : ∃ c, c ≠ '.' ∧ Decimal.scientific true ds x =
    (if ds.length ≤ 1 then ds else ds.take 1 ++ ['.'] ++ ds.drop 1) ++ 'e' :: c :: Decimal.digits x.natAbs := by
  by_cases hx : x < 0
  · exact ⟨'-', by decide, by simp [Decimal.scientific, hx]⟩
  · exact ⟨'+', by decide, by simp [Decimal.scientific, hx]⟩

/-- Behind a point, the characters of the exponent are measured with the digits. -/
theorem lengthAfterPoint_scientific (hds : AllDigits ds) (x : Int) :
    lengthAfterPoint (Decimal.sign negative ++ Decimal.scientific true ds x) =
      fractionDigits (Decimal.sign negative ++ Decimal.scientific true ds x) +
        if fractionDigits (Decimal.sign negative ++ Decimal.scientific true ds x) = 0 then 0
        else 2 + (Decimal.digits x.natAbs).length := by
  obtain ⟨c, hc, hform⟩ := scientific_eq ds x
  rw [hform]
  split
  · have hwhole : '.' ∉ Decimal.sign negative ++ (ds ++ 'e' :: c :: Decimal.digits x.natAbs) := by
      simp [point_not_mem_sign, hds.point_not_mem, (AllDigits.digits x.natAbs).point_not_mem, hc.symm]
    rw [lengthAfterPoint_of_no_point hwhole, fractionDigits_of_no_point hwhole]
    rfl
  · next hlength =>
    have hfront : '.' ∉ Decimal.sign negative ++ ds.take 1 := by
      simp [point_not_mem_sign, (hds.sublist (List.take_sublist 1 ds)).point_not_mem]
    have hdigits : ((ds.drop 1 ++ 'e' :: c :: Decimal.digits x.natAbs).takeWhile Char.isDigit).length = ds.length - 1 := by
      rw [List.takeWhile_append_of_pos (hds.sublist (List.drop_sublist 1 ds)), List.takeWhile_cons_of_neg (by decide)]
      simp
    have hcut : Decimal.sign negative ++ (ds.take 1 ++ ['.'] ++ ds.drop 1 ++ 'e' :: c :: Decimal.digits x.natAbs) =
        (Decimal.sign negative ++ ds.take 1) ++ '.' :: (ds.drop 1 ++ 'e' :: c :: Decimal.digits x.natAbs) := by
      simp
    rw [hcut, lengthAfterPoint_of_point hfront, fractionDigits_of_point hfront, hdigits, if_neg (by omega)]
    simp only [List.length_append, List.length_drop, List.length_cons]
    omega

/-! The text of a result. -/

/-- Too much is measured if and only if the form has an exponent and a point. -/
theorem lengthAfterPoint_documentedForm (negative : Bool) (m : Nat) (e : Int) :
    lengthAfterPoint (documentedForm negative m e) = fractionDigits (documentedForm negative m e) +
      if m = 0 ∨ IsPlain m e ∨ fractionDigits (documentedForm negative m e) = 0 then 0
      else 2 + (Decimal.digits (shortest .up m e).leading.natAbs).length := by
  unfold documentedForm
  have hds := AllDigits.significant (shortest .up m e)
  by_cases hm : m = 0
  · simp [hm]
    decide
  · by_cases hp : IsPlain m e
    · simp [hm, hp, lengthAfterPoint_plain hds]
    · simp [hm, hp, lengthAfterPoint_scientific hds]

theorem miscounted_iff : Miscounted negative m e ↔
    fractionDigits (documentedForm negative m e) ≤ longestFraction ∧
      longestFraction < lengthAfterPoint (documentedForm negative m e) := by
  rw [lengthAfterPoint_documentedForm, longestFraction]
  constructor
  · intro h
    have hcounted : ¬ (m = 0 ∨ IsPlain m e ∨ fractionDigits (documentedForm negative m e) = 0) := by
      simp [h.ne_zero, h.not_plain, h.has_point.ne']
    rw [if_neg hcounted]
    have hmany := h.many_characters
    exact ⟨h.few_digits, by omega⟩
  · rintro ⟨hfew, hmany⟩
    split at hmany
    · omega
    · next hcounted =>
      simp only [not_or] at hcounted
      obtain ⟨hm, hp, hpoint⟩ := hcounted
      exact ⟨hm, hp, Nat.pos_of_ne_zero hpoint, hfew, by omega⟩

theorem mem_documentedForm_of_miscounted (h : Miscounted negative m e) : 'e' ∈ documentedForm negative m e := by
  simp [documentedForm, h.ne_zero, h.not_plain, Decimal.scientific]

/-- A result is shown as the rule says, if and only if the characters of an exponent are not what makes the form too long.
Then it is rounded instead of shown. -/
theorem resultText_eq_documentedText_iff {x : Float} (h : Decimal.Class.of x = .finite negative m e) :
    (resultText (some x) = documentedText negative m e ↔ ¬ Miscounted negative m e) ∧
      (Miscounted negative m e →
        resultText (some x) = '=' :: (Decimal.sign negative ++ Decimal.fixed roundedPlaces m e) ∧
        documentedText negative m e = '=' :: documentedForm negative m e) := by
  have hform := @shortestForm_eq_documentedForm negative m e (Decimal.isDouble_of_class h)
  have hshown : resultText (some x) =
      if longestFraction < lengthAfterPoint (documentedForm negative m e) then
        '=' :: (Decimal.sign negative ++ Decimal.fixed roundedPlaces m e)
      else '=' :: documentedForm negative m e := by
    simp [resultText, h, hform]
  have hrounded (hmis : Miscounted negative m e) :
      resultText (some x) = '=' :: (Decimal.sign negative ++ Decimal.fixed roundedPlaces m e) ∧
        documentedText negative m e = '=' :: documentedForm negative m e := by
    rw [hshown, documentedText, if_pos (miscounted_iff.mp hmis).2, if_pos hmis.few_digits]
    exact ⟨rfl, rfl⟩
  refine ⟨⟨fun heq hmis => ?_, fun hmis => ?_⟩, hrounded⟩
  · obtain ⟨hresult, hdocumented⟩ := hrounded hmis
    rw [hresult, hdocumented] at heq
    have hmem := mem_documentedForm_of_miscounted hmis
    -- The rounded number has no letter.
    rw [← (List.cons.inj heq).2, List.mem_append] at hmem
    exact hmem.elim (not_mem_sign (by decide) negative) (not_mem_fixed (by decide) (by decide))
  · have hle : fractionDigits (documentedForm negative m e) ≤ lengthAfterPoint (documentedForm negative m e) := by
      rw [lengthAfterPoint_documentedForm]
      exact Nat.le_add_right _ _
    rw [miscounted_iff, longestFraction] at hmis
    rw [hshown, documentedText, longestFraction]
    by_cases hlong : 5 < lengthAfterPoint (documentedForm negative m e)
    · rw [if_pos hlong, if_neg (by omega)]
      rfl
    · rw [if_neg hlong, if_pos (by omega)]

theorem resultText_eq_documentedText_of_short_exponent :
    Decimal.Class.of (Decimal.nearest 25 100000000) = .finite false 4722366482869645 (-74) ∧
      ¬ Miscounted false 4722366482869645 (-74) ∧
      resultText (some (Decimal.nearest 25 100000000)) = documentedText false 4722366482869645 (-74) := by
  have hclass : Decimal.Class.of (Decimal.nearest 25 100000000) = .finite false 4722366482869645 (-74) := by decide +kernel
  have hmis : ¬ Miscounted false 4722366482869645 (-74) := fun h => absurd h.many_characters (by decide +kernel)
  exact ⟨hclass, hmis, (resultText_eq_documentedText_iff hclass).1.mpr hmis⟩

/-- Two digits stand behind the point of `1.25e-10`, and still it is shown rounded to zero. -/
theorem resultText_ne_documentedText_of_long_exponent :
    Decimal.Class.of (Decimal.nearest 125 1000000000000) = .finite false 4835703278458517 (-85) ∧
      fractionDigits (documentedForm false 4835703278458517 (-85)) = 2 ∧
      documentedText false 4835703278458517 (-85) = "=1.25e-10".toList ∧
      resultText (some (Decimal.nearest 125 1000000000000)) = "=0.0000".toList := by
  decide +kernel

end LiveTex

import Mathlib.Data.Int.Log
import Mathlib.Data.Rat.Floor
import LiveTex.Decimal.Layout
import LiveTex.Proofs.Decimal.Grid

/-!
The exponent of the first digit. It is the decimal logarithm of what is written, so a power of ten that is the shortest
decimal of some double divides the doubles by the exponents of their shortest decimals.
-/

namespace LiveTex.Decimal

variable {m M : Nat} {e E : Int}

/-- The exponent of the first digit. -/
def Scaled.leading (d : Scaled) : Int := d.scale + (digits d.coefficient).length - 1

/-- The digits without the zeros at the end. -/
def Scaled.significant (d : Scaled) : Text := ((digits d.coefficient).reverse.dropWhile (· == '0')).reverse

theorem Scaled.layout_eq {d : Scaled} (style : Style) (hd : d.coefficient ≠ 0) : d.layout style =
    if style.plainFrom.any (d.leading < ·) || style.plainTo.any (· < d.leading) then
      scientific style.plusSign d.significant d.leading
    else plain style.pointZero d.significant (d.leading + 1) := by
  rw [layout, if_neg hd]
  rfl

theorem length_digits_bounds {n : Nat} (hn : n ≠ 0) : 10 ^ ((digits n).length - 1) ≤ n ∧ n < 10 ^ (digits n).length := by
  have hpos : 0 < (digits n).length := Nat.length_toDigits_pos
  refine ⟨?_, (Nat.length_toDigits_le_iff (by decide) hpos).mp le_rfl⟩
  by_cases hone : (digits n).length = 1
  · rw [hone]
    exact Nat.pos_of_ne_zero hn
  · by_contra hlt
    have hle : (digits n).length ≤ (digits n).length - 1 :=
      (Nat.length_toDigits_le_iff (by decide) (by omega)).mpr (Nat.lt_of_not_le hlt)
    omega

namespace Scaled

variable {d : Scaled}

theorem magnitude_pos (hd : d.coefficient ≠ 0) : 0 < d.magnitude := by
  have hcoefficient : (0 : ℚ) < d.coefficient := by exact_mod_cast Nat.pos_of_ne_zero hd
  exact mul_pos hcoefficient (zpow_pos (by norm_num) _)

theorem leading_eq_log (hd : d.coefficient ≠ 0) : d.leading = Int.log 10 d.magnitude := by
  have hlength : 0 < (digits d.coefficient).length := Nat.length_toDigits_pos
  obtain ⟨hlow, hhigh⟩ := length_digits_bounds hd
  have hscale : (0 : ℚ) < 10 ^ d.scale := zpow_pos (by norm_num) _
  have hle : d.leading ≤ Int.log 10 d.magnitude := by
    rw [← Int.zpow_le_iff_le_log (by decide) (magnitude_pos hd)]
    have hleading : d.leading = ((digits d.coefficient).length - 1 : Nat) + d.scale := by
      rw [leading]
      omega
    rw [hleading, magnitude, Nat.cast_ofNat, zpow_add₀ (by norm_num), zpow_natCast]
    gcongr
    exact_mod_cast hlow
  have hlt : Int.log 10 d.magnitude < d.leading + 1 := by
    rw [← Int.lt_zpow_iff_log_lt (by decide) (magnitude_pos hd)]
    have hleading : d.leading + 1 = (digits d.coefficient).length + d.scale := by
      rw [leading]
      omega
    rw [hleading, magnitude, Nat.cast_ofNat, zpow_add₀ (by norm_num), zpow_natCast]
    gcongr
    exact_mod_cast hhigh
  omega

theorem le_leading_iff (hd : d.coefficient ≠ 0) (k : Int) : k ≤ d.leading ↔ (10 : ℚ) ^ k ≤ d.magnitude := by
  rw [leading_eq_log hd, ← Int.zpow_le_iff_le_log (by decide) (magnitude_pos hd), Nat.cast_ofNat]

end Scaled

/-- How two doubles compare when the second one is neither subnormal nor at the end of its binade. The midpoint above the
smaller one is below the larger one, and the midpoint below the larger one above the smaller one. -/
theorem compare_cases (h : IsDouble m e) (hE : -1074 ≤ E) (hM : 2 ^ 52 ≤ M) (hM' : M + 1 < 2 ^ 53) :
    magnitude m e < magnitude M E ∧ (m + 1 / 2) * 2 ^ e ≤ (M - 1 / 4 : ℚ) * 2 ^ E ∨ m = M ∧ e = E ∨
      magnitude M E < magnitude m e ∧ (M + 1 / 2) * 2 ^ E ≤ (m - 1 / 2 : ℚ) * 2 ^ e := by
  have hlt : (m : ℚ) + 1 ≤ 2 ^ 53 := by exact_mod_cast h.mantissa_lt
  have hM : (2 : ℚ) ^ 52 ≤ M := by exact_mod_cast hM
  have hM' : (M : ℚ) + 2 ≤ 2 ^ 53 := by exact_mod_cast hM'
  have hpow : (0 : ℚ) < 2 ^ E := zpow_pos (by norm_num) E
  simp only [magnitude]
  obtain hlower | rfl | hhigher := lt_trichotomy e E
  · have hle : (2 : ℚ) ^ e ≤ 2 ^ E / 2 := by
      have hle := zpow_le_zpow_right₀ (show (1 : ℚ) ≤ 2 by norm_num) (show e ≤ E - 1 by omega)
      rwa [zpow_sub_one₀ (by norm_num), ← div_eq_mul_inv] at hle
    have hmagnitude : (m : ℚ) * 2 ^ e ≤ (2 ^ 53 - 1) * (2 ^ E / 2) := by
      gcongr
      linarith
    have hmidpoint : (m + 1 / 2 : ℚ) * 2 ^ e ≤ (2 ^ 53 - 1 / 2) * (2 ^ E / 2) := by
      gcongr
      linarith
    refine .inl ⟨?_, ?_⟩ <;> nlinarith
  · obtain hmantissa | rfl | hmantissa := lt_trichotomy m M
    · have hmantissa : (m : ℚ) + 1 ≤ M := by exact_mod_cast hmantissa
      exact .inl ⟨by gcongr, by gcongr; linarith⟩
    · exact .inr (.inl ⟨rfl, rfl⟩)
    · have hmantissa : (M : ℚ) + 1 ≤ m := by exact_mod_cast hmantissa
      exact .inr (.inr ⟨by gcongr, by gcongr; linarith⟩)
  · have hle : 2 * 2 ^ E ≤ (2 : ℚ) ^ e := by
      have hle := zpow_le_zpow_right₀ (show (1 : ℚ) ≤ 2 by norm_num) (show E + 1 ≤ e by omega)
      rwa [zpow_add_one₀ (by norm_num), mul_comm] at hle
    have hm : (2 : ℚ) ^ 52 ≤ m := by exact_mod_cast h.normal.resolve_right (by omega)
    have hmagnitude : 2 ^ 52 * (2 * 2 ^ E) ≤ (m : ℚ) * 2 ^ e := by gcongr
    have hmidpoint : (2 ^ 52 - 1 / 2) * (2 * 2 ^ E) ≤ (m - 1 / 2 : ℚ) * 2 ^ e := by
      gcongr
      linarith
    refine .inr (.inr ⟨?_, ?_⟩) <;> nlinarith

theorem coefficient_shortest_ne_zero (tie : Tie) (hm : m ≠ 0) (h : IsDouble m e) : (shortest tie m e).coefficient ≠ 0 := by
  intro hzero
  have hlow := (shortest_bounds tie hm h).1
  have hone : (1 : ℚ) ≤ m := by exact_mod_cast Nat.one_le_iff_ne_zero.mpr hm
  have hpos : (0 : ℚ) < (m - 1 / 2) * 2 ^ e := mul_pos (by linarith) (zpow_pos (by norm_num) e)
  simp only [Scaled.magnitude, hzero, Nat.cast_zero, zero_mul] at hlow
  linarith

/-- A power of ten that is the shortest decimal of a double divides the doubles as it divides their shortest decimals. -/
theorem le_leading_shortest_iff {tie : Tie} {k : Int} (hm : m ≠ 0) (h : IsDouble m e) (hE : -1074 ≤ E)
    (hM : 2 ^ 52 ≤ M) (hM' : M + 1 < 2 ^ 53) (hlow : (M - 1 / 4 : ℚ) * 2 ^ E < 10 ^ k)
    (hhigh : (10 : ℚ) ^ k ≤ (M + 1 / 2) * 2 ^ E) (hk : (shortest tie M E).magnitude = 10 ^ k) :
    k ≤ (shortest tie m e).leading ↔ magnitude M E ≤ magnitude m e := by
  rw [Scaled.le_leading_iff (coefficient_shortest_ne_zero tie hm h)]
  obtain ⟨hbelow, habove⟩ := shortest_bounds tie hm h
  obtain ⟨hlt, hmidpoint⟩ | ⟨rfl, rfl⟩ | ⟨hlt, hmidpoint⟩ := compare_cases h hE hM hM'
  · refine iff_of_false (not_le.mpr ?_) (not_le.mpr hlt)
    linarith
  · exact iff_of_true hk.ge le_rfl
  · refine iff_of_true ?_ hlt.le
    linarith

end LiveTex.Decimal

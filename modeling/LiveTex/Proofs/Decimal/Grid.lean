import Mathlib.Algebra.Order.Field.Power
import Mathlib.Data.Rat.Cast.Order
import Mathlib.Tactic.FieldSimp
import Mathlib.Tactic.GCongr
import Mathlib.Tactic.Linarith
import Mathlib.Tactic.NormNum
import Mathlib.Tactic.Positivity
import Mathlib.Tactic.Ring
import LiveTex.Decimal.Shortest

/-!
Where the shortest decimal lies. The grids of decimals are tried down to one that is finer than the interval of a double,
so the decimal that is found lies between the midpoints to the neighbouring doubles.
-/

namespace LiveTex.Decimal

/-- The magnitude of a double. -/
def magnitude (mantissa : Nat) (exponent : Int) : ℚ := mantissa * 2 ^ exponent

/-- The number that a decimal stands for. -/
def Scaled.magnitude (d : Scaled) : ℚ := d.coefficient * 10 ^ d.scale

/-- The mantissas and exponents of doubles. Only the least exponent belongs to small mantissas. -/
structure IsDouble (mantissa : Nat) (exponent : Int) : Prop where
  mantissa_lt : mantissa < 2 ^ 53
  le_exponent : -1074 ≤ exponent
  exponent_le : exponent ≤ 971
  normal : 2 ^ 52 ≤ mantissa ∨ exponent = -1074

theorem isDouble_of_class {x : Float} {negative : Bool} {m : Nat} {e : Int} (h : Class.of x = .finite negative m e) :
    IsDouble m e := by
  have hexponent : x.toBits.toNat / twoTo 52 % twoTo 11 < 2 ^ 11 := Nat.mod_lt _ (by decide)
  have hfraction : x.toBits.toNat % twoTo 52 < 2 ^ 52 := Nat.mod_lt _ (by decide)
  have htwo : twoTo 52 = 2 ^ 52 := rfl
  unfold Class.of Class.ofBits at h
  simp only at h
  split at h
  · split at h <;> cases h
  · split at h
    · cases h
      exact ⟨by omega, by omega, by omega, .inr rfl⟩
    · cases h
      exact ⟨by omega, by omega, by omega, .inl (by omega)⟩

/-- A power with an exponent of either sign as a quotient of powers. -/
theorem pow_toNat_eq {b : ℚ} (hb : b ≠ 0) (k : Int) : b ^ k.toNat = b ^ k * b ^ (-k).toNat := by
  rw [← zpow_natCast, ← zpow_natCast, ← zpow_add₀ hb]
  congr 1
  omega

namespace Interval

variable {i : Interval} {tie : Tie} {scale : Int} {c : Nat}

/-- The number lies between the ends. -/
def Spans (i : Interval) (q : ℚ) : Prop := i.low ≤ q * i.unit ∧ q * i.unit ≤ i.high

theorem tenTo_pos (n : Nat) : (0 : ℚ) < tenTo n := by
  simp [tenTo]

/-- The points of a grid in the units of the grid. -/
theorem mul_unit_inUnits (i : Interval) (scale : Int) (q : ℚ) :
    q * (i.inUnits scale).unit = q * 10 ^ scale * i.unit * tenTo (-scale).toNat := by
  have hpow : (tenTo scale.toNat : ℚ) = 10 ^ scale * tenTo (-scale).toNat := by
    simpa [tenTo] using pow_toNat_eq (b := 10) (by norm_num) scale
  rw [inUnits, Nat.cast_mul, hpow]
  ring

theorem le_and_le_of_holds {n : Nat} (h : i.holds n = true) : i.low ≤ n ∧ n ≤ i.high := by
  unfold holds at h
  cases hclosed : i.closed <;> simp [hclosed] at h <;> omega

theorem spans_of_holds (h : (i.inUnits scale).holds (c * (i.inUnits scale).unit) = true) : i.Spans (c * 10 ^ scale) := by
  have hup := tenTo_pos (-scale).toNat
  obtain ⟨hlow, hhigh⟩ := le_and_le_of_holds h
  have hpoint := mul_unit_inUnits i scale c
  constructor
  · refine le_of_mul_le_mul_right ?_ hup
    rw [← hpoint]
    exact_mod_cast hlow
  · refine le_of_mul_le_mul_right ?_ hup
    rw [← hpoint]
    exact_mod_cast hhigh

/-- The multiple that a grid gives reads back. -/
theorem holds_of_onGrid (h : i.onGrid tie scale = some c) :
    (i.inUnits scale).holds (c * (i.inUnits scale).unit) = true := by
  simp only [onGrid] at h
  split at h
  · cases h
  · next hbelow _ => cases h; exact hbelow
  · next _ habove => cases h; exact habove
  · next hbelow habove =>
    split at h
    · cases h; exact hbelow
    · split at h
      · cases h; exact habove
      · cases tie with
        | up => cases h; exact habove
        | even =>
          cases h
          obtain heven | hodd := Nat.mod_two_eq_zero_or_one ((i.inUnits scale).value / (i.inUnits scale).unit)
          · rw [heven]; exact hbelow
          · rw [hodd]; exact habove

/-- The search ends on a grid with a point in the interval, or below all grids that it may try. -/
theorem search_cases (i : Interval) (tie : Tie) (fuel : Nat) (scale : Int) :
    i.Spans (i.search tie fuel scale).magnitude ∨
      i.search tie fuel scale =
        ⟨(i.inUnits (scale - fuel)).value / (i.inUnits (scale - fuel)).unit, scale - fuel⟩ := by
  induction fuel generalizing scale with
  | zero => exact .inr (by simp [search])
  | succ fuel ih =>
    rw [search]
    cases hgrid : i.onGrid tie scale with
    | some c => exact .inl (spans_of_holds (holds_of_onGrid hgrid))
    | none =>
      have hscale : scale - (fuel + 1 : Nat) = scale - 1 - fuel := by omega
      rw [hscale]
      exact ih (scale - 1)

/-- On a grid that is fine enough, the point below the value lies in the interval. -/
theorem spans_below (hfine : i.low + 10 ^ scale * i.unit ≤ (i.value : ℚ)) (hvalue : i.value ≤ i.high) (hunit : 0 < i.unit) :
    i.Spans (Scaled.magnitude ⟨(i.inUnits scale).value / (i.inUnits scale).unit, scale⟩) := by
  have hup := tenTo_pos (-scale).toNat
  have hunit' : 0 < (i.inUnits scale).unit := Nat.mul_pos hunit (Nat.pow_pos (by decide))
  have hsplit := Nat.div_add_mod' (i.inUnits scale).value (i.inUnits scale).unit
  have hrest := Nat.mod_lt (i.inUnits scale).value hunit'
  generalize (i.inUnits scale).value / (i.inUnits scale).unit = c at hsplit ⊢
  have hpoint := mul_unit_inUnits i scale c
  have hnext := mul_unit_inUnits i scale (c + 1)
  have hle : (c : ℚ) * 10 ^ scale * i.unit ≤ i.value := by
    refine le_of_mul_le_mul_right ?_ hup
    rw [← hpoint]
    have hle : c * (i.inUnits scale).unit ≤ i.value * tenTo (-scale).toNat := by
      rw [← show (i.inUnits scale).value = i.value * tenTo (-scale).toNat from rfl]
      omega
    exact_mod_cast hle
  have hlt : (i.value : ℚ) < (c + 1) * 10 ^ scale * i.unit := by
    refine lt_of_mul_lt_mul_right ?_ hup.le
    rw [← hnext]
    have hlt : i.value * tenTo (-scale).toNat < (c + 1) * (i.inUnits scale).unit := by
      rw [← show (i.inUnits scale).value = i.value * tenTo (-scale).toNat from rfl, Nat.succ_mul]
      omega
    exact_mod_cast hlt
  have hvalue : (i.value : ℚ) ≤ i.high := by exact_mod_cast hvalue
  constructor
  · simp only [Scaled.magnitude]
    linarith
  · simp only [Scaled.magnitude]
    linarith

/-! The interval of a double. -/

section

variable {m : Nat} {e : Int} {q : ℚ}

theorem unit_around_pos (m : Nat) (e : Int) : 0 < (around m e).unit := Nat.pow_pos (by decide)

/-- The ends and the value are multiples of a quarter of the last place. -/
theorem mul_twoTo_toNat (q : ℚ) (e : Int) : q * twoTo (e - 2).toNat = q / 4 * 2 ^ e * twoTo (2 - e).toNat := by
  have hpow := pow_toNat_eq (b := 2) (by norm_num) (e - 2)
  rw [neg_sub, zpow_sub₀ (by norm_num)] at hpow
  simp only [twoTo, Nat.pow_eq, Nat.cast_pow, Nat.cast_ofNat, hpow]
  ring

theorem value_around (m : Nat) (e : Int) : ((around m e).value : ℚ) = magnitude m e * (around m e).unit := by
  have hvalue := mul_twoTo_toNat (4 * m) e
  simp only [around, magnitude, Nat.cast_mul, Nat.cast_ofNat, hvalue]
  ring

theorem high_around (m : Nat) (e : Int) : ((around m e).high : ℚ) = (m + 1 / 2) * 2 ^ e * (around m e).unit := by
  have hhigh := mul_twoTo_toNat (4 * m + 2) e
  simp only [around, Nat.cast_mul, Nat.cast_add, Nat.cast_ofNat, hhigh]
  ring

/-- The lower end is a quarter of the last place below the value, or half of it. -/
theorem low_around (hm : m ≠ 0) (e : Int) : (m - 1 / 2) * 2 ^ e * (around m e).unit ≤ ((around m e).low : ℚ) ∧
    ((around m e).low : ℚ) ≤ (m - 1 / 4) * 2 ^ e * (around m e).unit := by
  obtain ⟨k, hk, hlow⟩ : ∃ k, (k = 1 ∨ k = 2) ∧ (around m e).low = (4 * m - k) * twoTo (e - 2).toNat := by
    refine ⟨_, ?_, rfl⟩
    split <;> simp
  have hkm : k ≤ 4 * m := by omega
  rw [hlow, Nat.cast_mul, mul_twoTo_toNat, Nat.cast_sub hkm, Nat.cast_mul, Nat.cast_ofNat]
  change _ ≤ _ * ((around m e).unit : ℚ) ∧ _ * ((around m e).unit : ℚ) ≤ _
  have hpow : (0 : ℚ) < 2 ^ e := zpow_pos (by norm_num) e
  obtain rfl | rfl := hk <;> constructor <;> gcongr <;> push_cast <;> linarith

theorem bounds_of_spans (hm : m ≠ 0) (h : (around m e).Spans q) : (m - 1 / 2) * 2 ^ e ≤ q ∧ q ≤ (m + 1 / 2) * 2 ^ e := by
  have hunit : (0 : ℚ) < (around m e).unit := by exact_mod_cast unit_around_pos m e
  obtain ⟨hlow, hhigh⟩ := h
  rw [high_around] at hhigh
  exact ⟨le_of_mul_le_mul_right ((low_around hm e).1.trans hlow) hunit, le_of_mul_le_mul_right hhigh hunit⟩

theorem spans_below_around (hm : m ≠ 0) (hfine : (10 : ℚ) ^ scale ≤ 2 ^ (e - 2)) : (around m e).Spans
    (Scaled.magnitude ⟨((around m e).inUnits scale).value / ((around m e).inUnits scale).unit, scale⟩) := by
  have hunit : (0 : ℚ) < (around m e).unit := by exact_mod_cast unit_around_pos m e
  refine spans_below ?_ ?_ (unit_around_pos m e)
  · have hlow := (low_around hm e).2
    have hpow : (2 : ℚ) ^ e = 4 * 2 ^ (e - 2) := by
      rw [zpow_sub₀ (by norm_num)]
      ring
    have hquarter := mul_le_mul_of_nonneg_right hfine hunit.le
    rw [value_around, magnitude]
    rw [hpow] at hlow ⊢
    linarith
  · exact Nat.mul_le_mul_right _ (by omega)

end

end Interval

/-- A power of ten against a power of two. -/
theorem ten_zpow_le_two_zpow {a b : Int} (h : 94 * a ≤ 28 * b ∧ 0 ≤ a ∨ 93 * a ≤ 28 * b ∧ a ≤ 0) :
    (10 : ℚ) ^ a ≤ 2 ^ b := by
  refine le_of_pow_le_pow_left₀ (show 28 ≠ 0 by decide) (by positivity) ?_
  rw [← zpow_natCast, ← zpow_natCast, ← zpow_mul, ← zpow_mul, mul_comm a, mul_comm b, zpow_mul]
  obtain ⟨h, ha⟩ | ⟨h, ha⟩ := h
  · calc ((10 : ℚ) ^ ((28 : Nat) : Int)) ^ a ≤ (2 ^ (94 : Int)) ^ a := zpow_le_zpow_left₀ ha (by positivity) (by norm_num)
      _ = 2 ^ (94 * a) := (zpow_mul 2 94 a).symm
      _ ≤ 2 ^ ((28 : Nat) * b) := zpow_le_zpow_right₀ (by norm_num) h
  · obtain ⟨n, rfl⟩ : ∃ n : Nat, a = -n := ⟨a.natAbs, by omega⟩
    have hpow : ((2 : ℚ) ^ (93 : Int)) ^ n ≤ (10 ^ ((28 : Nat) : Int)) ^ n :=
      pow_le_pow_left₀ (by positivity) (by norm_num) n
    calc ((10 : ℚ) ^ ((28 : Nat) : Int)) ^ (-n : Int) ≤ (2 ^ (93 : Int)) ^ (-n : Int) := by
          rw [zpow_neg, zpow_neg, zpow_natCast, zpow_natCast]
          exact inv_anti₀ (by positivity) hpow
      _ = 2 ^ (93 * (-n : Int)) := (zpow_mul 2 93 (-n)).symm
      _ ≤ 2 ^ ((28 : Nat) * b) := zpow_le_zpow_right₀ (by norm_num) h

/-- The last grid is fine enough for every double. -/
theorem ten_zpow_topScale_le {m : Nat} {e : Int} (hm : m ≠ 0) (h : IsDouble m e) :
    (10 : ℚ) ^ (topScale m e - 24) ≤ 2 ^ (e - 2) := by
  apply ten_zpow_le_two_zpow
  have hlog : m.log2 < 53 := (Nat.log2_lt hm).mpr h.mantissa_lt
  have hle := h.le_exponent
  have hge := h.exponent_le
  unfold topScale
  omega

/-- The shortest decimal lies between the midpoints to the neighbouring doubles. -/
theorem shortest_bounds {m : Nat} {e : Int} (tie : Tie) (hm : m ≠ 0) (h : IsDouble m e) :
    (m - 1 / 2) * 2 ^ e ≤ (shortest tie m e).magnitude ∧ (shortest tie m e).magnitude ≤ (m + 1 / 2) * 2 ^ e := by
  apply Interval.bounds_of_spans hm
  rw [shortest, if_neg hm]
  obtain hspans | hlast := (Interval.around m e).search_cases tie 24 (topScale m e)
  · exact hspans
  · rw [hlast]
    exact Interval.spans_below_around hm (ten_zpow_topScale_le hm h)

end LiveTex.Decimal

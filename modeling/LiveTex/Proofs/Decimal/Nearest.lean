import Mathlib
import LiveTex.Decimal.Reading

/-!
The nearest double is a number: what is too large for a double comes to infinity, and nothing comes to a
NaN.
-/

namespace LiveTex.Decimal

open Float.Model (Format UnpackedFloat)

/-- Packing and unpacking makes a NaN of nothing else. -/
theorem isNaN_unpack_pack {f : UnpackedFloat} (hf : f.isNaN = false) :
    (UnpackedFloat.unpack .binary64 (f.pack .binary64)).isNaN = false := by
  have hpacked : ∀ sign exponent mantissa, exponent ≠ -1#_ ∨ mantissa = 0#_ →
      (UnpackedFloat.unpack .binary64
        (UnpackedFloat.packComponents .binary64 sign exponent mantissa)).isNaN = false := by
    intro sign exponent mantissa h
    simp only [UnpackedFloat.unpack, UnpackedFloat.unpackExponent_packComponents,
      UnpackedFloat.unpackMantissa_packComponents]
    split
    · next hexponent =>
      rw [if_pos (h.resolve_left fun hne => hne hexponent)]
      rfl
    · split
      · split <;> rfl
      · rfl
  cases f with
  | notANumber => cases hf
  | infinity s => exact hpacked s _ _ (.inr rfl)
  | zero s => exact hpacked s _ _ (.inr rfl)
  | finite s m e hm =>
    simp only [UnpackedFloat.pack]
    split
    · exact hpacked s _ _ (.inr rfl)
    · next hbound =>
      split
      · apply hpacked s _ _
        left
        intro hexponent
        have hnat := congrArg BitVec.toNat hexponent
        simp at hnat hbound
        omega
      · exact hpacked s _ _ (.inl (by decide))

/-- Bits up to those of infinity are the bits of a number. -/
theorem isNaN_ofBits {bits : UInt64} (h : bits.toNat ≤ 2047 * twoTo 52) :
    (Float.ofBits bits).isNaN = false := by
  apply isNaN_unpack_pack
  simp only [UnpackedFloat.unpack]
  split
  · next hexponent =>
    have hnat := congrArg BitVec.toNat hexponent
    have hmantissa : @UnpackedFloat.unpackMantissa .binary64 bits.toBitVec = 0#_ := by
      apply BitVec.eq_of_toNat_eq
      simp [UnpackedFloat.unpackMantissa, UnpackedFloat.unpackExponent, Nat.shiftRight_eq_div_pow, twoTo] at *
      omega
    rw [if_pos hmantissa]
    rfl
  · split
    · split <;> rfl
    · rfl

/-- The nearest double is no NaN. -/
theorem isNaN_nearest (num den : Nat) : (nearest num den).isNaN = false := by
  unfold nearest
  split
  · decide
  · apply isNaN_ofBits
    simp only [UInt64.toNat_ofNat']
    apply Nat.le_trans (Nat.mod_le ..)
    omega

theorem isNaN_read (t : Text) : (read t).isNaN = false := by
  unfold read
  split <;> exact isNaN_nearest ..

end LiveTex.Decimal

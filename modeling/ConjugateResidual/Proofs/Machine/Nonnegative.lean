import Mathlib
import ConjugateResidual.Binary64

/-!
Signs of floats. What is packed from a number that is not below zero is not below zero either, and a
zero multiple of a finite number adds nothing to it but perhaps the sign of a zero.
-/

namespace ConjugateResidual.Binary64

open Float.Model Float.Model.UnpackedFloat

def Nonnegative (value : UnpackedFloat) : Prop :=
  (UnpackedFloat.zero .positive).le value = true

section Packing

variable {spec : Float.Model.Format}

private theorem unpackSign_packComponents (sign : Sign) (exponent : BitVec spec.exponentBits)
    (mantissa : BitVec spec.mantissaBitsWithoutImplicit) :
    unpackSign (packComponents spec sign exponent mantissa) = sign.toBitVec := by
  ext i hi
  have first : i = 0 := by omega
  subst first
  simp [unpackSign, packComponents, BitVec.getLsbD_append, BitVec.getElem_append]

private theorem ofBitVec_toBitVec (sign : Sign) : Sign.ofBitVec sign.toBitVec = sign := by
  cases sign <;> rfl

/-- The greatest exponent belongs to an infinity when the mantissa is zero, and to NaN otherwise. -/
theorem nonnegative_unpack_packComponents {exponent : BitVec spec.exponentBits}
    {mantissa : BitVec spec.mantissaBitsWithoutImplicit}
    (number : exponent = -1#_ → mantissa = 0#_) :
    Nonnegative (UnpackedFloat.unpack spec (packComponents spec .positive exponent mantissa)) := by
  unfold UnpackedFloat.unpack
  simp only [unpackMantissa_packComponents, unpackExponent_packComponents,
    unpackSign_packComponents, ofBitVec_toBitVec]
  by_cases greatest : exponent = -1#_
  · rw [if_pos greatest, if_pos (number greatest)]
    rfl
  · rw [if_neg greatest]
    split
    · split
      · rfl
      · rfl
    · rfl

private theorem zero_ne_greatest : (0 : BitVec spec.exponentBits) ≠ -1#_ := by
  simp [spec.he.ne']

theorem unpack_packedZero (sign : Sign) :
    UnpackedFloat.unpack spec (packedZero spec sign) = .zero sign := by
  unfold UnpackedFloat.unpack packedZero
  simp [spec.he.ne']

private theorem nonnegative_unpack_pack {value : UnpackedFloat} (nonnegative : Nonnegative value) :
    Nonnegative (UnpackedFloat.unpack spec (UnpackedFloat.pack spec value)) := by
  cases value with
  | notANumber => cases nonnegative
  | infinity sign =>
      cases sign with
      | negative => cases nonnegative
      | positive => exact nonnegative_unpack_packComponents fun _ => rfl
  | zero sign =>
      rw [UnpackedFloat.pack, unpack_packedZero]
      rfl
  | finite sign mantissa exponent positive =>
      cases sign with
      | negative => cases nonnegative
      | positive =>
          unfold UnpackedFloat.pack
          dsimp only
          split
          · exact nonnegative_unpack_packComponents fun _ => rfl
          · rename_i fits
            split
            · apply nonnegative_unpack_packComponents
              intro greatest
              have values := congrArg BitVec.toNat greatest
              rw [BitVec.neg_one_eq_allOnes, BitVec.toNat_ofNat, BitVec.toNat_allOnes,
                Nat.mod_eq_of_lt (by omega)] at values
              omega
            · apply nonnegative_unpack_packComponents
              intro greatest
              exact absurd greatest zero_ne_greatest

end Packing

private theorem nonnegative_add_zero {value : UnpackedFloat} (nonnegative : Nonnegative value)
    (sign : Sign) (spec : Float.Model.Format) : Nonnegative (value.add spec (.zero sign)) := by
  cases value with
  | notANumber => cases nonnegative
  | infinity own => exact nonnegative
  | zero own => cases own <;> cases sign <;> rfl
  | finite own mantissa exponent positive => exact nonnegative

private theorem mul_zero_of_isFinite {value : UnpackedFloat} (finite : value.isFinite = true)
    (sign : Sign) (spec : Float.Model.Format) :
    ∃ other, value.mul spec (.zero sign) = .zero other := by
  cases value with
  | notANumber => cases finite
  | infinity own => cases finite
  | zero own => exact ⟨_, rfl⟩
  | finite own mantissa exponent positive => exact ⟨_, rfl⟩

private theorem zero_le_iff (number : Float) :
    0.0 ≤ number ↔ Nonnegative number.toModel.unpack := by
  have zero : (0.0 : Float).toModel.unpack = .zero .positive := rfl
  change decide ((0.0 : Float).toModel ≤ number.toModel) = true ↔ _
  rw [decide_eq_true_iff]
  change (0.0 : Float).toModel.unpack.le number.toModel.unpack = true ↔ _
  rw [zero]
  rfl

/-- A tolerance relative to zero is no less than the absolute one. -/
theorem zero_le_add_mul_zero {absolute relative : Float} (nonnegative : 0.0 ≤ absolute)
    (finite : relative.isFinite = true) : 0.0 ≤ absolute + relative * 0.0 := by
  rw [zero_le_iff] at nonnegative ⊢
  rcases mul_zero_of_isFinite finite .positive Format.binary64 with ⟨sign, product⟩
  have multiple : (relative * 0.0).toModel.unpack = .zero sign := by
    change UnpackedFloat.unpack _ (UnpackedFloat.pack _
      (UnpackedFloat.mul _ relative.toModel.unpack (.zero .positive))) = _
    rw [product]
    exact unpack_packedZero sign
  change Nonnegative (UnpackedFloat.unpack _ (UnpackedFloat.pack _
    (UnpackedFloat.add _ absolute.toModel.unpack (relative * 0.0).toModel.unpack)))
  rw [multiple]
  exact nonnegative_unpack_pack (nonnegative_add_zero nonnegative sign _)

end ConjugateResidual.Binary64

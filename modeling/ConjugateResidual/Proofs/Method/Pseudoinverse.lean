import Mathlib

/-!
The pseudoinverse of a linear map from an inner product space of finite dimension, told by the four
Penrose equations. What it gives is the one vector without a part in the kernel whose image is
nearest.
-/

namespace ConjugateResidual.Method

variable {𝕜 E F : Type} [RCLike 𝕜] [NormedAddCommGroup E] [InnerProductSpace 𝕜 E]
variable [NormedAddCommGroup F] [InnerProductSpace 𝕜 F]

/-- The four Penrose equations. -/
structure IsPseudoinverse (map : E →ₗ[𝕜] F) (inverse : F →ₗ[𝕜] E) : Prop where
  forward : ∀ vector, map (inverse (map vector)) = map vector
  backward : ∀ image, inverse (map (inverse image)) = inverse image
  onRange : (map ∘ₗ inverse).IsSymmetric
  offKernel : (inverse ∘ₗ map).IsSymmetric

section Unique

variable {map : E →ₗ[𝕜] F} {inverse : F →ₗ[𝕜] E} (pseudo : IsPseudoinverse map inverse)
include pseudo

private theorem IsPseudoinverse.inverse_map {vector : E}
    (offKernel : ∀ null, map null = 0 → inner 𝕜 null vector = 0) :
    inverse (map vector) = vector := by
  -- What the way there and back leaves out lies in the kernel.
  have null : map (vector - inverse (map vector)) = 0 := by
    rw [map_sub, pseudo.forward, sub_self]
  have turned : inner 𝕜 (vector - inverse (map vector)) (inverse (map vector)) = 0 := by
    have symmetric := pseudo.offKernel (vector - inverse (map vector)) vector
    simp only [LinearMap.comp_apply, null, map_zero, inner_zero_left] at symmetric
    exact symmetric.symm
  have zero : inner 𝕜 (vector - inverse (map vector)) (vector - inverse (map vector)) = 0 := by
    rw [inner_sub_right, offKernel _ null, turned, sub_zero]
  exact (sub_eq_zero.mp (inner_self_eq_zero.mp zero)).symm

private theorem IsPseudoinverse.map_inverse {vector : E} {image : F}
    (nearest : ∀ other, inner 𝕜 (map other) (image - map vector) = 0) :
    map (inverse image) = map vector := by
  have leaves : ∀ other, inner 𝕜 (map other) (image - map (inverse image)) = 0 := by
    intro other
    have symmetric := pseudo.onRange (map other) (image - map (inverse image))
    simp only [LinearMap.comp_apply, pseudo.forward, map_sub, pseudo.backward, sub_self,
      inner_zero_right] at symmetric
    exact symmetric
  have zero :
      inner 𝕜 (map (inverse image) - map vector) (map (inverse image) - map vector) = 0 := by
    have parts : map (inverse image) - map vector =
        (image - map vector) - (image - map (inverse image)) := by
      abel
    nth_rewrite 2 [parts]
    rw [← map_sub, inner_sub_right, nearest, leaves, sub_self]
  exact sub_eq_zero.mp (inner_self_eq_zero.mp zero)

theorem IsPseudoinverse.eq_inverse {vector : E} {image : F}
    (offKernel : ∀ null, map null = 0 → inner 𝕜 null vector = 0)
    (nearest : ∀ other, inner 𝕜 (map other) (image - map vector) = 0) :
    vector = inverse image := by
  calc
    vector = inverse (map vector) := (pseudo.inverse_map offKernel).symm
    _ = inverse (map (inverse image)) := by rw [pseudo.map_inverse nearest]
    _ = inverse image := pseudo.backward image

end Unique

variable [FiniteDimensional 𝕜 E]

/-- What projects on the range when followed by the map, and has no part in the kernel, is a
pseudoinverse. -/
theorem isPseudoinverse_of_projects {map : E →ₗ[𝕜] F} {inverse : F →ₗ[𝕜] E}
    (projects : ∀ image, map (inverse image) = (LinearMap.range map).starProjection image)
    (offKernel : ∀ image, inverse image ∈ (LinearMap.ker map)ᗮ) : IsPseudoinverse map inverse := by
  have forward : ∀ vector, map (inverse (map vector)) = map vector := by
    intro vector
    rw [projects]
    exact Submodule.starProjection_eq_self_iff.mpr (LinearMap.mem_range_self map vector)
  have cuts : ∀ vector, inverse (map vector) = (LinearMap.ker map)ᗮ.starProjection vector := by
    intro vector
    apply (Submodule.eq_starProjection_of_mem_orthogonal (offKernel _) _).symm
    rw [Submodule.orthogonal_orthogonal, LinearMap.mem_ker, map_sub, forward, sub_self]
  refine { forward, backward := ?_, onRange := ?_, offKernel := ?_ }
  · intro image
    rw [cuts]
    exact Submodule.starProjection_eq_self_iff.mpr (offKernel image)
  · intro left right
    rw [LinearMap.comp_apply, LinearMap.comp_apply, projects, projects]
    exact Submodule.inner_starProjection_left_eq_right _ left right
  · intro left right
    rw [LinearMap.comp_apply, LinearMap.comp_apply, cuts, cuts]
    exact Submodule.inner_starProjection_left_eq_right _ left right

/-- A vector is projected on the range, and brought back along the map. -/
theorem exists_isPseudoinverse (map : E →ₗ[𝕜] F) : ∃ inverse, IsPseudoinverse map inverse := by
  let onto := map.kerComplementEquivRange (LinearMap.ker map).isCompl_orthogonal.symm
  let projection := (LinearMap.range map).orthogonalProjectionOnto.toLinearMap
  refine ⟨(LinearMap.ker map)ᗮ.subtype ∘ₗ onto.symm.toLinearMap ∘ₗ projection, ?_⟩
  apply isPseudoinverse_of_projects
  · intro image
    exact congrArg Subtype.val (onto.apply_symm_apply (projection image))
  · intro image
    exact Submodule.coe_mem _

/-- What it gives follows from the Penrose equations alone, by `eq_inverse`. -/
noncomputable def pseudoinverse (map : E →ₗ[𝕜] F) : F →ₗ[𝕜] E :=
  (exists_isPseudoinverse map).choose

theorem isPseudoinverse_pseudoinverse (map : E →ₗ[𝕜] F) :
    IsPseudoinverse map (pseudoinverse map) :=
  (exists_isPseudoinverse map).choose_spec

end ConjugateResidual.Method

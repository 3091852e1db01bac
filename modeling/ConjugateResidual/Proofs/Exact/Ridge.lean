import Mathlib
import ConjugateResidual.Proofs.Exact.GradientStep

/-!
Missing curvature in a problem with a ridge, in exact arithmetic. The normal equations are as steep
as the ridge along every direction, so none is truly flat; a solve speaks of missing curvature only
inside a trust region, for a direction whose image is small against the tolerance.
-/

namespace ConjugateResidual

open Arithmetic Method

variable {𝕜 J : Type} [RCLike 𝕜] {rows columns : ℕ}
variable (problem : MatrixProblem 𝕜 rows columns) (settings : Settings ℝ)

namespace MatrixProblem

structure Faint (direction : EuclideanSpace 𝕜 (Fin columns)) : Prop where
  bounded : 0 < settings.radius
  small : ‖problem.forwardMap direction‖ ^ 2 ≤
    problem.threshold settings * ‖problem.normalMap settings.ridge direction‖ * ‖direction‖

structure Steep (direction : EuclideanSpace 𝕜 (Fin columns)) : Prop where
  nonzero : direction ≠ 0
  image : problem.normalMap settings.ridge direction ≠ 0
  curved : settings.ridge * ‖direction‖ ^ 2 ≤
    curvature (problem.normalMap settings.ridge) direction

variable {problem settings}

/-- Vectors of the row space have an image. -/
theorem forwardMap_ne_zero {vector : EuclideanSpace 𝕜 (Fin columns)}
    (member : vector ∈ problem.rowSpace) (nonzero : vector ≠ 0) :
    problem.forwardMap vector ≠ 0 := by
  intro null
  obtain ⟨image, same⟩ := member
  apply nonzero
  rw [← inner_self_eq_zero (𝕜 := 𝕜)]
  nth_rewrite 2 [← same]
  rw [inner_adjointMap, null, inner_zero_left]

private theorem direction_mem_rowSpace (problem : MatrixProblem 𝕜 rows columns) (ridge : ℝ)
    (steps : ℕ) :
    (problem.iterateAt ridge steps).direction ∈ problem.rowSpace :=
  (mem_of_invariant _ _ problem.normalVector_mem_rowSpace (problem.normalMap_mem_rowSpace ridge)
    steps).2.2

/-- Only a tolerance above zero makes a direction faint. -/
theorem Faint.threshold_pos {direction : EuclideanSpace 𝕜 (Fin columns)}
    (faint : problem.Faint settings direction) (member : direction ∈ problem.rowSpace)
    (nonzero : direction ≠ 0) : 0 < problem.threshold settings := by
  have image : 0 < ‖problem.forwardMap direction‖ ^ 2 :=
    pow_pos (norm_pos_iff.mpr (forwardMap_ne_zero member nonzero)) 2
  have product := image.trans_le faint.small
  rw [mul_assoc] at product
  exact pos_of_mul_pos_left product (mul_nonneg (norm_nonneg _) (norm_nonneg _))

end MatrixProblem

variable {problem settings}
variable {observer : MatrixRun J 𝕜 rows columns Bool} {before state : MatrixState J 𝕜 rows columns}
variable {opening : Opening ℝ} {course : Course ℝ}

section Iteration

variable (admissible : settings.Admissible) (looks : Run.Looks observer)
  (semidefinite : problem.WeightSemidefinite)
  (reached : Reaches problem.toProblem settings observer before opening course state)
  (iterating : course.isOver opening.threshold = false)
include admissible looks semidefinite reached iterating

theorem Reaches.steep : problem.Steep settings state.workspace.direction := by
  have poised := reached.poised admissible looks semidefinite iterating
  have carries := poised.stands.place.carries
  have residual : (problem.iterateAt settings.ridge course.iterations).residual ≠ 0 := by
    rw [← carries.gradient]
    exact poised.descends
  have image : problem.normalMap settings.ridge state.workspace.direction ≠ 0 := by
    rw [carries.direction]
    exact image_direction_ne_zero (semidefinite.isPositive_normalMap admissible.ridge)
      (semidefinite.consistent admissible.ridge) fun earlier before =>
        residual_ne_zero_of_le before residual
  refine { nonzero := ?_, image, curved := ?_ }
  · intro zero
    rw [zero, map_zero] at image
    exact image rfl
  · rw [MatrixProblem.curvature_normalMap]
    exact le_add_of_nonneg_left (semidefinite.weightNonneg _)

theorem Reaches.flat_iff_faint :
    state.workspace.Flat settings opening.threshold ↔
      problem.Faint settings state.workspace.direction := by
  have sized := reached.columns_pos admissible.absolute iterating
  have steep := reached.steep admissible looks semidefinite iterating
  have stands := reached.stands admissible looks sized (Course.underway_of_open iterating)
  have carries := stands.place.carries
  obtain ⟨_, starts⟩ := reached.starts sized admissible.ridge
  have normalImage : state.workspace.normalImage =
      problem.normalMap settings.ridge state.workspace.direction := by
    rw [carries.normalImage, carries.direction]
  have directionImage : state.workspace.directionImage =
      problem.forwardMap state.workspace.direction := by
    rw [carries.directionImage, carries.direction]
  unfold Workspace.Flat
  rw [normalImage, directionImage, starts.threshold]
  constructor
  · rintro (null | ⟨bounded, small⟩)
    · exact absurd null steep.image
    · exact { bounded, small }
  · intro faint
    exact .inr ⟨faint.bounded, faint.small⟩

end Iteration

variable (problem settings)

/-- With a ridge and a positive semidefinite preconditioner, whatever the tolerances, the radius,
the budget and the observer: along every direction that a solve searches the normal equations are at
least as steep as the ridge. A solve reports missing curvature exactly if it finds, inside a trust
region and with a tolerance above zero, a direction whose image is small against the tolerance; so
it never does without a trust region, nor with tolerances of zero. -/
theorem solve_steep (admissible : settings.Admissible) (ridged : 0 < settings.ridge)
    (semidefinite : problem.WeightSemidefinite) (observer : MatrixRun J 𝕜 rows columns Bool)
    (looks : Run.Looks observer) (before : MatrixState J 𝕜 rows columns) :
    (∀ opening course state,
      Reaches problem.toProblem settings observer before opening course state →
        course.isOver opening.threshold = false →
        problem.Steep settings state.workspace.direction ∧
          0 < curvature (problem.normalMap settings.ridge) state.workspace.direction ∧
          (course.iterations < settings.budget →
            problem.Faint settings state.workspace.direction →
              ∃ report final,
                solve problem.toProblem settings observer before = (.ok report, final) ∧
                  report.stats.status = .zeroCurvature ∧
                  report.stats.iterations = course.iterations)) ∧
      ∀ report final, solve problem.toProblem settings observer before = (.ok report, final) →
        report.stats.status = .zeroCurvature →
          0 < settings.radius ∧ 0 < problem.threshold settings ∧
            ∃ steps : ℕ, report.stats.iterations = steps ∧
              problem.Faint settings (problem.iterateAt settings.ridge steps).direction := by
  constructor
  · intro opening course state reached iterating
    have steep := reached.steep admissible looks semidefinite iterating
    have rises : 0 < settings.ridge * ‖state.workspace.direction‖ ^ 2 :=
      mul_pos ridged (pow_pos (norm_pos_iff.mpr steep.nonzero) 2)
    refine ⟨steep, rises.trans_le steep.curved, ?_⟩
    intro budget faint
    have flat := (reached.flat_iff_faint admissible looks semidefinite iterating).mpr faint
    obtain ⟨report, final, solves, status, count, _⟩ :=
      Turning.ends admissible looks semidefinite
        { reached, iterating, budget, flat := (directionIsFlat_iff _ _ _).mpr flat }
    exact ⟨report, final, solves, status, count⟩
  · intro report final solves status
    obtain ⟨opening, course, state, turning, count, _⟩ :=
      solve_turning admissible looks semidefinite solves status
    have reached := turning.reached
    have steep := reached.steep admissible looks semidefinite turning.iterating
    have faint := (reached.flat_iff_faint admissible looks semidefinite turning.iterating).mp
      ((directionIsFlat_iff _ _ _).mp turning.flat)
    have carries := (reached.poised admissible looks semidefinite
      turning.iterating).stands.place.carries
    rw [carries.direction] at faint
    have nonzero := steep.nonzero
    rw [carries.direction] at nonzero
    exact ⟨faint.bounded, faint.threshold_pos (problem.direction_mem_rowSpace _ _) nonzero,
      course.iterations, count, faint⟩

theorem solve_steep_unit :
    ∃ opening state,
      Reaches (MatrixProblem.unit.scaled 8).toProblem (.ridged 1) neverExit
          (.ofWorkspace (J := Unit) MatrixProblem.unit.ownWorkspace) opening opening.course
          state ∧
        0 < curvature ((MatrixProblem.unit.scaled 8).normalMap 1) state.workspace.direction := by
  have semidefinite : (MatrixProblem.unit.scaled 8).WeightSemidefinite :=
    MatrixProblem.weightSemidefinite_unit
  have free : (RunState.ofWorkspace (J := Unit)
      MatrixProblem.unit.ownWorkspace).workspace.busy = false := rfl
  obtain ⟨opening, state, turning, _⟩ := exists_turning_unit zero_le_one neverExit free
  obtain ⟨steep, _⟩ := solve_steep (MatrixProblem.unit.scaled 8) (.ridged 1)
    (Settings.admissible_ridged zero_le_one) one_pos semidefinite neverExit looks_neverExit
    (.ofWorkspace (J := Unit) MatrixProblem.unit.ownWorkspace)
  exact ⟨opening, state, turning.reached, (steep _ _ _ turning.reached turning.iterating).2.1⟩

/-- A single equation with a ridge of one, where the curvature along the first direction is twice
the square of its length, is reported to lack curvature. -/
theorem zeroCurvature_despite_ridge :
    0 < (Settings.ridged 1).ridge ∧ (Settings.ridged 1).Admissible ∧
      (MatrixProblem.unit.scaled 8).WeightSemidefinite ∧
      ∃ report final,
        solve (MatrixProblem.unit.scaled 8).toProblem (.ridged 1) neverExit
              (.ofWorkspace (J := Unit) MatrixProblem.unit.ownWorkspace) = (.ok report, final) ∧
          report.stats.status = .zeroCurvature := by
  have admissible := Settings.admissible_ridged zero_le_one
  have semidefinite : (MatrixProblem.unit.scaled 8).WeightSemidefinite :=
    MatrixProblem.weightSemidefinite_unit
  have free : (RunState.ofWorkspace (J := Unit)
      MatrixProblem.unit.ownWorkspace).workspace.busy = false := rfl
  obtain ⟨opening, state, turning, _⟩ := exists_turning_unit zero_le_one neverExit free
  obtain ⟨report, final, solves, status, _⟩ :=
    turning.ends admissible looks_neverExit semidefinite
  exact ⟨one_pos, admissible, semidefinite, report, final, solves, status⟩

end ConjugateResidual

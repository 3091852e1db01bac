import Mathlib
import ConjugateResidual.Proofs.Method.Pseudoinverse
import ConjugateResidual.Proofs.Exact.Aftermath
import ConjugateResidual.Proofs.Exact.Monotone

/-!
Which of the best points a solve without a ridge finds, in exact arithmetic and with a positive
semidefinite preconditioner. All solutions lie in the weighted row space, and a best point that lies
there is the shortest of all: any other differs from it by a vector orthogonal to that space.
-/

namespace ConjugateResidual

open Arithmetic Method

variable {𝕜 J : Type} [RCLike 𝕜] {rows columns : ℕ}

namespace MatrixProblem

variable (problem : MatrixProblem 𝕜 rows columns)

def InWeightedRowSpace (point : EuclideanSpace 𝕜 (Fin columns)) : Prop :=
  ∃ image, problem.adjointMap (problem.weightMap image) = point

/-- A point where the objective without a ridge is least, and any other such point is longer. -/
structure Shortest (point : EuclideanSpace 𝕜 (Fin columns)) : Prop where
  least : ∀ other, problem.objective 0 point ≤ problem.objective 0 other
  shorter : ∀ other, problem.objective 0 other ≤ problem.objective 0 point → other ≠ point →
    ‖point‖ < ‖other‖

variable {problem}

/-- Without a ridge the method stays in the weighted row space. -/
theorem Lands.inWeightedRowSpace {steps : ℕ} {point : EuclideanSpace 𝕜 (Fin columns)}
    (lands : problem.Lands 0 steps point) : problem.InWeightedRowSpace point := by
  let space := LinearMap.range (problem.adjointMap ∘ₗ problem.weightMap)
  have start : problem.normalVector ∈ space := LinearMap.mem_range_self _ _
  have invariant : ∀ vector ∈ space, problem.normalMap 0 vector ∈ space := by
    intro vector _
    rw [normalMap_apply, RCLike.ofReal_zero, zero_smul, add_zero]
    exact LinearMap.mem_range_self _ _
  have member : point ∈ space := Iterate.LeadsTo.mem start invariant lands
  exact member

section Semidefinite

variable (semidefinite : problem.WeightSemidefinite)
include semidefinite

/-- From a solution of the normal equations the objective rises by the curvature alone. -/
theorem objective_of_solution {ridge : ℝ} (nonneg : 0 ≤ ridge)
    {point : EuclideanSpace 𝕜 (Fin columns)}
    (solves : problem.normalMap ridge point = problem.normalVector)
    (other : EuclideanSpace 𝕜 (Fin columns)) :
    problem.objective ridge other =
      problem.objective ridge point + curvature (problem.normalMap ridge) (other - point) := by
  have along := energy_along (semidefinite.isPositive_normalMap nonneg).isSymmetric
    problem.normalVector point (other - point) 1
  rw [RCLike.ofReal_one, one_smul, add_sub_cancel, solves, sub_self, inner_zero_right, map_zero,
    mul_zero, sub_zero, one_mul, one_mul] at along
  rw [objective_eq_energy semidefinite, objective_eq_energy semidefinite, along]
  ring

private theorem inner_eq_zero_of_flat {null point : EuclideanSpace 𝕜 (Fin columns)}
    (flat : curvature (problem.normalMap 0) null = 0) (member : problem.InWeightedRowSpace point) :
    inner 𝕜 null point = 0 := by
  obtain ⟨image, rfl⟩ := member
  rw [curvature_normalMap, zero_mul, add_zero] at flat
  have weighted := image_eq_zero_of_curvature semidefinite.isPositive flat
  rw [inner_adjointMap, ← semidefinite.isPositive.isSymmetric, weighted, inner_zero_left]

private theorem shortest_of_solution {point : EuclideanSpace 𝕜 (Fin columns)}
    (solves : problem.normalMap 0 point = problem.normalVector)
    (member : problem.InWeightedRowSpace point) : problem.Shortest point := by
  have rises := objective_of_solution semidefinite le_rfl solves
  constructor
  · intro other
    rw [rises other]
    exact le_add_of_nonneg_right
      (curvature_nonneg semidefinite.weightNonneg le_rfl _)
  · intro other least different
    rw [rises other] at least
    have flat : curvature (problem.normalMap 0) (other - point) = 0 :=
      le_antisymm (by linarith) (curvature_nonneg semidefinite.weightNonneg le_rfl _)
    have orthogonal := inner_eq_zero_of_flat semidefinite flat member
    have square := norm_add_sq_eq_norm_sq_add_norm_sq_of_inner_eq_zero (other - point) point
      orthogonal
    rw [sub_add_cancel] at square
    have apart : 0 < ‖other - point‖ := norm_pos_iff.mpr (sub_ne_zero.mpr different)
    apply (mul_self_lt_mul_self_iff (norm_nonneg _) (norm_nonneg _)).mpr
    rw [square]
    exact lt_add_of_pos_left _ (mul_pos apart apart)

end Semidefinite

/-- Without a preconditioner the shortest best point is what the pseudoinverse gives. -/
theorem eq_pseudoinverse (absent : problem.weight? = none)
    {point : EuclideanSpace 𝕜 (Fin columns)}
    (solves : problem.normalMap 0 point = problem.normalVector)
    (member : problem.InWeightedRowSpace point) :
    point = pseudoinverse problem.forwardMap problem.rightHandSide := by
  apply (isPseudoinverse_pseudoinverse problem.forwardMap).eq_inverse
  · obtain ⟨image, rfl⟩ := member
    intro null zero
    rw [inner_adjointMap, zero, inner_zero_left]
  · intro other
    have gradient := problem.normalVector_sub_normalMap 0 point
    rw [solves, sub_self, RCLike.ofReal_zero, zero_smul, sub_zero,
      problem.weightMap_of_none absent] at gradient
    rw [← inner_adjointMap, ← gradient, inner_zero_right]

end MatrixProblem

section Return

variable {problem : MatrixProblem 𝕜 rows columns} {settings : Settings ℝ}
variable {observer : MatrixRun J 𝕜 rows columns Bool} {before final : MatrixState J 𝕜 rows columns}
variable {report : Report ℝ}
variable (admissible : settings.Admissible) (looks : Run.Looks observer)
  (solves : solve problem.toProblem settings observer before = (.ok report, final))
include admissible looks solves

theorem solve_leaves_solution (optimal : ∀ figures ∈ report.figures?, figures.optimality = 0) :
    problem.normalMap settings.ridge final.workspace.solution = problem.normalVector := by
  by_cases blank : problem.rightHandSide = 0
  · rw [(solve_leaves_zero solves blank).1, map_zero, MatrixProblem.normalVector, blank, map_zero,
      map_zero]
  · obtain ⟨figures, steps, told, -, describe, -⟩ := solve_leaves solves admissible looks blank
    have gradient := describe.optimality.symm.trans (optimal figures told)
    rw [norm_eq_zero, describe.gradient, ← MatrixProblem.normalVector_sub_normalMap,
      sub_eq_zero] at gradient
    exact gradient.symm

theorem solve_leaves_lands (semidefinite : problem.WeightSemidefinite) :
    ∃ steps, problem.Lands settings.ridge steps final.workspace.solution := by
  have free : before.workspace.busy = false := by
    rw [Bool.eq_false_iff]
    intro busy
    rw [solve_of_busy busy] at solves
    cases solves
  have ending := solve_ends problem.toProblem settings observer before
  rw [solves] at ending
  exact ending.lands admissible looks semidefinite free

end Return

variable (problem : MatrixProblem 𝕜 rows columns) (settings : Settings ℝ)

/-- Without a ridge, with a positive semidefinite preconditioner, whatever the rank of the operator,
the radius, the tolerances, the budget and the observer: every solution that is shown or returned
lies in the weighted row space. So a solve that returns with a gradient of norm zero has found the
shortest of all points where the objective is least; without a preconditioner this is the
pseudoinverse applied to the right-hand side. -/
theorem solve_finds_shortest (admissible : settings.Admissible) (ridgeless : settings.ridge = 0)
    (semidefinite : problem.WeightSemidefinite) :
    (∀ (answer : List (MatrixWorkspace 𝕜 rows columns) → Except (Fault ℝ) Bool)
        (workspace : MatrixWorkspace 𝕜 rows columns),
        let result := solve problem.toProblem settings (watch answer) (.ofWorkspace workspace)
        ∀ shown ∈ result.2.journal, problem.InWeightedRowSpace shown.solution) ∧
      ∀ (observer : MatrixRun J 𝕜 rows columns Bool), Run.Looks observer →
        ∀ (before : MatrixState J 𝕜 rows columns) (report : Report ℝ)
          (final : MatrixState J 𝕜 rows columns),
          solve problem.toProblem settings observer before = (.ok report, final) →
            problem.InWeightedRowSpace final.workspace.solution ∧
              ((∀ figures ∈ report.figures?, figures.optimality = 0) →
                problem.Shortest final.workspace.solution ∧
                  (problem.weight? = none →
                    final.workspace.solution =
                      pseudoinverse problem.forwardMap problem.rightHandSide)) := by
  constructor
  · intro answer workspace result shown member
    obtain ⟨index, found⟩ := List.mem_iff_getElem?.mp member
    have place := (seen_solve admissible workspace index shown found).place admissible
      (looks_watch answer)
    have lands : problem.Lands 0 (index + 1) shown.solution := by
      rw [place.carries.solution, ridgeless]
      exact .nowhere
    exact lands.inWeightedRowSpace
  · intro observer looks before report final solves
    obtain ⟨steps, lands⟩ := solve_leaves_lands admissible looks solves semidefinite
    rw [ridgeless] at lands
    have member := lands.inWeightedRowSpace
    refine ⟨member, ?_⟩
    intro optimal
    have solution := solve_leaves_solution admissible looks solves optimal
    rw [ridgeless] at solution
    refine ⟨MatrixProblem.shortest_of_solution semidefinite solution member, ?_⟩
    intro absent
    exact MatrixProblem.eq_pseudoinverse absent solution member

theorem solve_finds_shortest_unweighted :
    let problem : MatrixProblem ℝ 1 1 := { MatrixProblem.unit with weight? := none }
    ∃ report final,
      solve problem.toProblem (.exact 0 2) neverExit
            (.ofWorkspace (J := Unit) problem.ownWorkspace) = (.ok report, final) ∧
        (∀ figures ∈ report.figures?, figures.optimality = 0) ∧
        problem.Shortest final.workspace.solution ∧
        final.workspace.solution = pseudoinverse problem.forwardMap problem.rightHandSide := by
  intro problem
  have semidefinite : problem.WeightSemidefinite := by
    intro weight present
    cases present
  have strict : (Settings.exact 0 2).Strict :=
    { ridge := le_rfl, absolute := rfl, relative := rfl, radius := rfl }
  have free : (RunState.ofWorkspace (J := Unit) problem.ownWorkspace).workspace.busy = false := rfl
  obtain ⟨report, final, solves, -, -, -, -, -, solution⟩ :=
    solve_strict semidefinite strict Nat.one_pos free one_lt_two
  have optimal : ∀ figures ∈ report.figures?, figures.optimality = 0 := by
    intro figures found
    obtain ⟨_, steps, told, -, describe, -⟩ := solve_leaves solves strict.admissible looks_neverExit
      MatrixProblem.rightHandSide_unit_ne_zero
    rw [told] at found
    cases found
    rw [describe.optimality, describe.gradient, ← MatrixProblem.normalVector_sub_normalMap]
    exact norm_eq_zero.mpr (sub_eq_zero.mpr solution.symm)
  obtain ⟨shortest, pseudo⟩ := ((solve_finds_shortest problem (.exact 0 2) strict.admissible rfl
    semidefinite).2 neverExit looks_neverExit _ report final solves).2 optimal
  exact ⟨report, final, solves, optimal, shortest, pseudo rfl⟩

end ConjugateResidual

import ConjugateResidual.Proofs.Course.Columnless
import ConjugateResidual.Proofs.Machine.Acceptance
import ConjugateResidual.Proofs.Machine.Nonnegative
import ConjugateResidual.Proofs.Machine.WellFormed
import ConjugateResidual.Proofs.Machine.Working

/-!
Problems without unknowns on the machine. They are solved before the first iteration, by a vector
without entries, if there is no ridge or the right-hand side counts as zero; otherwise the routine
that adds a multiple of the gradient refuses it, and the solve fails.
-/

namespace ConjugateResidual

open Arithmetic

namespace Tensor

variable {field : ElementType} {length : Nat}

private theorem IsVector.eq_zeros {tensor : Tensor} (isVector : tensor.IsVector field 0) :
    tensor = zeros field 0 := by
  rcases tensor with ⟨elementType, shape, entries⟩
  rcases isVector with ⟨rfl, rfl, empty⟩
  cases List.length_eq_zero_iff.mp empty
  rfl

private theorem addScaled_zeros (field : ElementType) (scale : Float) :
    addScaled scale (zeros field 0) (zeros field 0) = .error .routineRefused :=
  rfl

/-- Vectors of one field and length always have an inner product. -/
theorem IsVector.dot (supported : field.isSupported = true) {left right : Tensor}
    (left_vector : left.IsVector field length) (right_vector : right.IsVector field length) :
    ∃ product, Tensor.dot left right = .ok product := by
  have inexact := ElementType.isInexact_of_isSupported supported
  unfold Tensor.dot
  rw [left_vector.elementType, right_vector.elementType, left_vector.size, right_vector.size,
    if_neg (not_not.mpr rfl)]
  cases field with
  | real precision => exact ⟨_, rfl⟩
  | complex precision => exact ⟨_, rfl⟩
  | _ => cases inexact

end Tensor

private theorem Check.inRange_tolerance {field : ElementType}
    (supported : field.isSupported = true) :
    ∃ tolerance, field.tolerance? = .ok tolerance ∧ InRange tolerance := by
  have fields := ElementType.mem_supported supported
  unfold InRange
  simp only [ElementType.supported, List.mem_cons, List.not_mem_nil, or_false] at fields
  rcases fields with rfl | rfl | rfl | rfl
  · exact ⟨_, rfl, by decide +kernel⟩
  · exact ⟨_, rfl, by decide +kernel⟩
  · exact ⟨_, rfl, by decide +kernel⟩
  · exact ⟨_, rfl, by decide +kernel⟩

namespace Design

variable {design : Design}

private theorem isVector_weight {weight : Weight Event Float Tensor}
    (weighs : design.toProblem.weight? = some weight) {vector weighted : Tensor}
    (answered : (weight.apply vector).outcome = .ok weighted) :
    weighted.IsVector design.field design.rows := by
  unfold toProblem Preconditioner.isIdentity at weighs
  cases acts : design.preconditioner.function? with
  | none => simp [acts] at weighs
  | some function =>
      simp only [acts, Option.isNone_some, Bool.false_eq_true, if_false, Option.some.injEq]
        at weighs
      subst weighs
      simp only [Preconditioner.apply, acts] at answered
      rcases Reply.of_bind_eq_ok answered with ⟨product, -, stored⟩
      exact .store stored

/-- A checked design without columns is a problem without unknowns. -/
theorem columnless (supported : design.field.isSupported = true)
    (rightHandSide : design.rightHandSide.IsVector design.field design.rows)
    (unknownless : design.columns = 0) (works : design.toProblem.Works) :
    design.toProblem.Columnless (Tensor.zeros design.field 0)
      (Tensor.IsVector design.field design.rows) := by
  have blank : (Tensor.zeros design.field 0).IsVector design.field design.columns := by
    rw [unknownless]
    exact Tensor.isVector_zeros _ _
  constructor
  case rightHandSide => exact rightHandSide
  case forward =>
    rcases works.forward _ blank with ⟨image, answered⟩
    exact ⟨image, answered, (LinearOperator.stored_applyForward answered).toIsVector⟩
  case adjoint =>
    intro vector inside
    rcases works.adjoint vector inside with ⟨image, answered⟩
    have isVector := LinearOperator.isVector_applyAdjoint answered
    rw [unknownless] at isVector
    rw [answered, isVector.eq_zeros]
  case weight =>
    intro weight weighs vector inside
    rcases works.weight weight weighs vector inside with ⟨weighted, answered⟩
    exact ⟨weighted, answered, isVector_weight weighs answered⟩
  case dot =>
    intro left right left_vector right_vector
    exact left_vector.dot supported right_vector
  case refuses => exact Tensor.addScaled_zeros _

end Design

private theorem Request.options_of_prepare {request : Request} {options : Options Float}
    {problem : MachineProblem} (ready : request.prepare.outcome = .ok (options, problem)) :
    Options.ofKeywords request.keywords = .ok options := by
  rcases Reply.of_bind_eq_ok ready with ⟨chosen, read, posed⟩
  rcases Reply.of_bind_eq_ok posed with ⟨design, -, same⟩
  cases same
  exact read

/-- Zero is within the tolerance of a solve, whatever tolerances were asked for. -/
theorem Options.InRange.zero_within {options : Options Float} (range : options.InRange)
    {tolerance : Float}
    (fallback : Check.InRange tolerance) (rows columns : Nat) :
    let settings := options.resolve rows columns tolerance
    0.0 ≤ settings.absolute + settings.relative * 0.0 := by
  have absolute : Check.InRange (options.absolute?.getD tolerance) := by
    cases asked : options.absolute? with
    | none => exact fallback
    | some own => exact range.absolute own asked
  have relative : Check.InRange (options.relative?.getD tolerance) := by
    cases asked : options.relative? with
    | none => exact fallback
    | some own => exact range.relative own asked
  exact Binary64.zero_le_add_mul_zero absolute.2 relative.1

section Solves

variable {request : Request} {options : Options Float} {problem : MachineProblem}
variable (ready : request.prepare.outcome = .ok (options, problem)) (grid : request.data.IsGrid)
  (unknownless : problem.columns = 0) (works : problem.Works)
include ready grid unknownless works

/-- What a request without unknowns asks for. -/
theorem Request.columnless :
    problem.Columnless (Tensor.zeros problem.field 0)
        (Tensor.IsVector problem.field problem.rows) ∧
      problem.field.isSupported = true ∧
      Check.InRange problem.tolerance ∧
      VectorArithmetic.cleared problem.zeroColumns = Tensor.zeros problem.field 0 := by
  rcases request.of_prepare_eq_ok ready with ⟨design, built, rfl⟩
  rcases Design.equations_of_build built with ⟨equations, -, -⟩
  have supported : design.field.isSupported = true :=
    (Design.checkRightHandSide_eq_ok_iff.mp equations.checked).2.supported
  refine ⟨?_, supported, ?_, ?_⟩
  · exact Design.columnless supported (Design.isVector_of_build grid equations) unknownless works
  · rcases Check.inRange_tolerance supported with ⟨tolerance, known, range⟩
    simp only [Design.toProblem, known]
    exact range
  · rw [← unknownless]
    exact Tensor.cleared_eq_zeros_iff.mpr (Tensor.isVector_zeros _ _)

variable (observer : MachineRun Bool) (trail : Trail Event Float)

private theorem Request.returns_columnless
    (unridged : isZero (VectorArithmetic.norm problem.rightHandSide : Float) = true ∨
      isPositive options.ridge = false) :
    ∃ workspace report after,
      solveFresh request.prepare observer trail = (.ok (workspace, report), after) ∧
        workspace.solution = .zeros problem.field 0 ∧ report.Immediate := by
  rcases Request.columnless ready grid unknownless works with
    ⟨columnless, supported, fallback, blank⟩
  have range := (Keywords.ofKeywords_eq_ok_iff.mp (request.options_of_prepare ready)).2
  have within := range.zero_within fallback problem.rows problem.columns
  rw [← Tensor.norm_zeros supported 0] at within
  rcases columnless.solveFresh_returns ready trail unridged (decide_eq_true within) with
    ⟨workspace, report, after, returned, solution, immediate⟩
  exact ⟨workspace, report, after, returned, solution.trans blank, immediate⟩

theorem Request.refuses_columnless
    (nonzero : isZero (VectorArithmetic.norm problem.rightHandSide : Float) = false)
    (ridged : isPositive options.ridge = true) :
    ∃ after, solveFresh request.prepare observer trail = (.error .routineRefused, after) := by
  rcases Request.columnless ready grid unknownless works with ⟨columnless, -⟩
  exact columnless.solveFresh_refused ready trail nonzero ridged

end Solves

/-- A problem without unknowns whose operators work is solved at once when there is no ridge or the
right-hand side counts as zero, by a vector without entries and without a warning. With a ridge
every other such problem fails, in the routine that is to add a multiple of a vector without
entries. -/
theorem columnless_problems_need_no_ridge {request : Request} {options : Options Float}
    {problem : MachineProblem} (ready : request.prepare.outcome = .ok (options, problem))
    (grid : request.data.IsGrid) (unknownless : problem.columns = 0) (works : problem.Works)
    (observer : MachineRun Bool) (trail : Trail Event Float) :
    let norm : Float := VectorArithmetic.norm problem.rightHandSide
    (isZero norm = true ∨ isPositive options.ridge = false →
      ∃ workspace report after,
        solveFresh request.prepare observer trail = (.ok (workspace, report), after) ∧
          workspace.solution = .zeros problem.field 0 ∧ report.Immediate) ∧
    (isZero norm = false → isPositive options.ridge = true →
      ∃ after, solveFresh request.prepare observer trail = (.error .routineRefused, after)) :=
  ⟨request.returns_columnless ready grid unknownless works observer trail,
    request.refuses_columnless ready grid unknownless works observer trail⟩

/-! ### One equation without unknowns -/

def Request.unknownless (ridge : Float) : Request :=
  { operatorSource := .dense { elementType := .float64, shape := [1, 0], entries := [] }
    data := .array (.vector .float64 [.ofReal 1.0])
    keywords := { ridge := .number ridge } }

def Options.ridgeOnly (ridge : Float) : Options Float :=
  { ridge, absolute? := none, relative? := none, radius := 0.0, budget := 0, interval := 0
    keepsHistory := false, mode := .multiply }

theorem Check.inRange_zero : InRange 0.0 := by
  unfold InRange
  decide +kernel

theorem Check.inRange_one : InRange 1.0 := by
  unfold InRange
  decide +kernel

private theorem Options.ofKeywords_unknownless {ridge : Float} (range : Check.InRange ridge) :
    Options.ofKeywords (Request.unknownless ridge).keywords = .ok (.ridgeOnly ridge) := by
  rw [Keywords.ofKeywords_eq_ok_iff]
  constructor
  · exact
      { ridge := rfl, absolute := rfl, relative := rfl, radius := rfl, budget := rfl
        interval := rfl, history := rfl, mode := rfl
        observer := fun value found => by cases found }
  · exact
      { ridge := range, radius := Check.inRange_zero
        absolute := fun tolerance found => by cases found
        relative := fun tolerance found => by cases found }

/-- A valid request, whatever its ridge. -/
theorem Request.prepare_unknownless {ridge : Float} (range : Check.InRange ridge) :
    ∃ problem,
      (Request.unknownless ridge).prepare.outcome = .ok (.ridgeOnly ridge, problem) ∧
        problem.columns = 0 ∧ problem.Works ∧
        isZero (VectorArithmetic.norm problem.rightHandSide : Float) = false := by
  have prepared : ∃ problem,
      (Request.unknownless ridge).prepare.outcome = .ok (.ridgeOnly ridge, problem) ∧
        problem.columns = 0 ∧ problem.weight? = none ∧
        isZero (VectorArithmetic.norm problem.rightHandSide : Float) = false := by
    unfold Request.prepare
    rw [Options.ofKeywords_unknownless range]
    exact ⟨_, rfl, rfl, rfl, by decide +kernel⟩
  rcases prepared with ⟨problem, ready, unknownless, plain, nonzero⟩
  exact ⟨problem, ready, unknownless, Request.works_of_matrix ready trivial plain, nonzero⟩

/-- Without a ridge there is an answer without entries, with a ridge there is none. -/
theorem columnless_problems_need_no_ridge_single :
    (∃ workspace report after,
      solveFresh (Request.unknownless 0.0).prepare neverExit { printed := [], journal := [] } =
          (.ok (workspace, report), after) ∧
        workspace.solution.entries = [] ∧ report.Immediate) ∧
      ∃ after,
        solveFresh (Request.unknownless 1.0).prepare neverExit { printed := [], journal := [] } =
          (.error .routineRefused, after) := by
  constructor
  · rcases Request.prepare_unknownless Check.inRange_zero with
      ⟨problem, ready, unknownless, works, -⟩
    have returns := (columnless_problems_need_no_ridge ready rfl unknownless works neverExit
      { printed := [], journal := [] }).1 (.inr (by decide +kernel))
    rcases returns with ⟨workspace, report, after, returned, solution, immediate⟩
    refine ⟨workspace, report, after, returned, ?_, immediate⟩
    rw [solution]
    rfl
  · rcases Request.prepare_unknownless Check.inRange_one with
      ⟨problem, ready, unknownless, works, nonzero⟩
    exact (columnless_problems_need_no_ridge ready rfl unknownless works neverExit
      { printed := [], journal := [] }).2 nonzero (by decide +kernel)

/-- It is not so that every valid problem without unknowns is solved. -/
theorem columnless_problems_may_fail :
    ¬ ∀ (request : Request) (options : Options Float) (problem : MachineProblem),
      request.prepare.outcome = .ok (options, problem) → request.data.IsGrid →
      problem.columns = 0 → problem.Works →
      ∀ (observer : MachineRun Bool) (trail : Trail Event Float),
        ∃ workspace report after,
          solveFresh request.prepare observer trail = (.ok (workspace, report), after) ∧
            workspace.solution = .zeros problem.field 0 ∧ report.Immediate := by
  intro solved
  rcases Request.prepare_unknownless Check.inRange_one with
    ⟨problem, ready, unknownless, works, nonzero⟩
  rcases solved _ _ _ ready rfl unknownless works neverExit { printed := [], journal := [] } with
    ⟨workspace, report, after, returned, -⟩
  rcases Request.refuses_columnless ready rfl unknownless works neverExit
      { printed := [], journal := [] }
    nonzero (by decide +kernel) with ⟨after', refused⟩
  rw [refused] at returned
  cases returned

end ConjugateResidual

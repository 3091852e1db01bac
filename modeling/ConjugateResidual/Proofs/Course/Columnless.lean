import ConjugateResidual.Proofs.Course.Attempt

/-!
Problems without unknowns, in any arithmetic. The only vector of the solution space is blank, and so
the blank solution is optimal before the first iteration. But a ridge adds a multiple of a vector
without entries, and where that is refused, so is the whole solve.
-/

namespace ConjugateResidual

open Arithmetic

variable {J R X Y : Type} [VectorArithmetic R X] [VectorArithmetic R Y]

/-- All operators answer, those of the solution space by a vector that nothing can be added to. -/
structure Problem.Columnless (problem : Problem J R X Y) (blank : X) (space : Y → Prop) : Prop where
  rightHandSide : space problem.rightHandSide
  forward : ∃ image, (problem.forward blank).outcome = .ok image ∧ space image
  adjoint : ∀ vector, space vector → (problem.adjoint vector).outcome = .ok blank
  weight : ∀ weight ∈ problem.weight?, ∀ vector, space vector →
    ∃ weighted, (weight.apply vector).outcome = .ok weighted ∧ space weighted
  dot : ∀ left right : Y, space left → space right →
    ∃ product, VectorArithmetic.dot left right = .ok product
  refuses : ∀ scale : R, VectorArithmetic.addScaled scale blank blank = .error .routineRefused

structure Report.Immediate (report : Report R) : Prop where
  iterations : report.stats.iterations = 0
  solved : report.stats.solved = true
  unwarned : report.warnings = []

/-- A course that is optimal where it opens ends there. -/
theorem Reaches.ends_optimal [Arithmetic R] {problem : Problem J R X Y} {settings : Settings R}
    {observer : Run J R X Y Bool} {before state : RunState J R X Y} {opening : Opening R}
    (reached : Reaches problem settings observer before opening opening.course state)
    (start : opening.course.iterations = 0)
    (optimal : opening.course.isOptimal opening.threshold = true) :
    ∃ report after, solve problem settings observer before = (.ok report, after) ∧
      after.workspace.solution = state.workspace.solution ∧ report.Immediate := by
  have finished : opening.course.isOver opening.threshold = true := by
    simp [Course.isOver, optimal]
  have solved : opening.course.isSolved opening.threshold = true := by
    simp [Course.isSolved, optimal]
  rcases reached.ends (.inl finished) with ⟨printed, figures, solves⟩
  refine ⟨_, _, solves, rfl, ?_⟩
  constructor
  case iterations =>
    change (opening.course.iterations : Int) = 0
    rw [start]
    rfl
  case solved => exact solved
  case unwarned =>
    change opening.course.warnings settings opening.threshold = []
    simp [Course.warnings, solved]

namespace Problem.Columnless

variable {problem : Problem J R X Y} {settings : Settings R} {observer : Run J R X Y Bool}
variable {blank : X} {space : Y → Prop} (columnless : problem.Columnless blank space)
include columnless

private theorem weigh {vector : Y} (inside : space vector) (state : RunState J R X Y) :
    ∃ weighted after, problem.weigh vector state = (.ok weighted, after) ∧ space weighted ∧
      after.workspace.solution = state.workspace.solution := by
  unfold Problem.weigh
  cases weighs : problem.weight? with
  | none => exact ⟨vector, state, rfl, inside, rfl⟩
  | some weight =>
      rcases columnless.weight weight weighs vector inside with ⟨weighted, answered, image⟩
      dsimp only
      rw [Run.bind_apply, Run.perform_apply, answered]
      exact ⟨weighted, _, rfl, image, rfl⟩

private theorem applyAdjoint {vector : Y} (inside : space vector) (state : RunState J R X Y) :
    problem.applyAdjoint vector state =
      (.ok blank, { state with journal := state.journal ++ (problem.adjoint vector).journal }) := by
  unfold Problem.applyAdjoint
  rw [Run.perform_apply, columnless.adjoint vector inside]

private theorem applyForward :
    ∃ image, space image ∧ ∀ state : RunState J R X Y,
      problem.applyForward blank state =
        (.ok image,
          { state with journal := state.journal ++ (problem.forward blank).journal }) := by
  rcases columnless.forward with ⟨image, answered, inside⟩
  refine ⟨image, inside, ?_⟩
  intro state
  unfold Problem.applyForward
  rw [Run.perform_apply, answered]

variable [Arithmetic R]

/-- All that is left of the launch is the ridge. -/
theorem gather_eq (settings : Settings R) (norm : R) (state : RunState J R X Y)
    (starts : space state.workspace.residual) :
    ∃ product after, after.workspace.solution = state.workspace.solution ∧
      gather problem settings norm state =
        (do
          let normalImage ← addRidge settings.ridge blank blank
          Run.update ({ · with normalImage })
          pure
            { curvature := withRidge settings.ridge product (VectorArithmetic.norm blank)
              optimality := VectorArithmetic.norm blank
              residual := norm } : Run J R X Y (Progress R)) after := by
  rcases columnless.weigh starts state with ⟨weighted, first, weighs, inside, kept⟩
  rcases columnless.applyForward with ⟨image, image_inside, applies⟩
  unfold gather
  rw [Run.bind_of_ok (Run.workspace_apply state), Run.bind_of_ok weighs,
    Run.bind_of_ok (columnless.applyAdjoint inside first),
    Run.bind_of_ok (Run.update_apply _ _), Run.bind_of_ok (applies _),
    Run.bind_of_ok (Run.update_apply _ _)]
  generalize between_eq : RunState.mk _ _ = between
  rcases columnless.weigh image_inside between with
    ⟨weightedImage, second, weighsImage, image_weighted, keptImage⟩
  rw [Run.bind_of_ok weighsImage, Run.bind_of_ok (Run.update_apply _ _),
    Run.bind_of_ok (columnless.applyAdjoint image_weighted _),
    Run.bind_of_ok (Run.update_apply _ _)]
  rcases columnless.dot image weightedImage image_inside image_weighted with ⟨product, multiplied⟩
  rw [multiplied]
  refine ⟨product, _, ?_, rfl⟩
  exact keptImage.trans (by rw [← between_eq]; exact kept)

private theorem gather_ridged (positive : isPositive settings.ridge = true) (norm : R)
    (state : RunState J R X Y) (starts : space state.workspace.residual) :
    ∃ after, gather problem settings norm state = (.error .routineRefused, after) := by
  rcases columnless.gather_eq settings norm state starts with ⟨product, after, -, gathers⟩
  have refused : addRidge (J := J) (Y := Y) settings.ridge blank blank after =
      (.error .routineRefused, after) := by
    unfold addRidge
    rw [if_pos positive, Run.ofExcept_apply, columnless.refuses]
  rw [gathers, Run.bind_of_error refused]
  exact ⟨after, rfl⟩

private theorem gather_unridged (unridged : isPositive settings.ridge = false) (norm : R)
    (state : RunState J R X Y) (starts : space state.workspace.residual) :
    ∃ curvature after, after.workspace.solution = state.workspace.solution ∧
      gather problem settings norm state =
        (.ok { curvature, optimality := VectorArithmetic.norm blank, residual := norm },
          after) := by
  rcases columnless.gather_eq settings norm state starts with ⟨product, after, kept, gathers⟩
  have passed : addRidge (J := J) (Y := Y) settings.ridge blank blank after =
      (.ok blank, after) := by
    unfold addRidge
    rw [if_neg (by simp [unridged]), Run.pure_apply]
  rw [gathers, Run.bind_of_ok passed]
  refine ⟨_, _, ?_, rfl⟩
  exact kept

section Solve

variable {before : RunState J R X Y} (free : before.workspace.busy = false)
include free

theorem solve_refused
    (nonzero : isZero (VectorArithmetic.norm problem.rightHandSide : R) = false)
    (positive : isPositive settings.ridge = true) :
    ∃ after, solve problem settings observer before = (.error .routineRefused, after) := by
  have announced := announce_held problem settings before
  rcases columnless.gather_ridged positive (VectorArithmetic.norm problem.rightHandSide)
      (problem.entered settings before) columnless.rightHandSide with ⟨after, gathered⟩
  have refused := openCourse_of_gather_error problem settings gathered
  rw [solve_of_nonzero free announced nonzero, solveNonzero, Run.bind_of_error refused]
  exact ⟨_, rfl⟩

/-- Without a ridge the start is optimal, if the blank solution counts as optimal at all. -/
theorem solve_returns
    (unridged : isZero (VectorArithmetic.norm problem.rightHandSide : R) = true ∨
      isPositive settings.ridge = false)
    (optimal : le (VectorArithmetic.norm blank)
      (settings.absolute + settings.relative * VectorArithmetic.norm blank) = true) :
    ∃ report after, solve problem settings observer before = (.ok report, after) ∧
      after.workspace.solution = VectorArithmetic.cleared before.workspace.solution ∧
      report.Immediate := by
  have announced := announce_held problem settings before
  by_cases zero : isZero (VectorArithmetic.norm problem.rightHandSide : R) = true
  · rw [solve_of_zero free announced zero, solveZero_apply]
    refine ⟨_, _, rfl, rfl, ?_⟩
    rcases Workspace.stats_answered (problem.entered settings before).workspace with
      ⟨solved, -, iterations⟩
    exact { iterations, solved, unwarned := rfl }
  · have nonzero := eq_false_of_ne_true zero
    rcases columnless.gather_unridged (unridged.resolve_left zero)
        (VectorArithmetic.norm problem.rightHandSide) (problem.entered settings before)
        columnless.rightHandSide with ⟨curvature, between, kept, gathered⟩
    rcases openCourse_of_gather_ok problem settings gathered with ⟨printed, opens⟩
    have reached : Reaches problem settings observer before _ _ _ :=
      .opened free announced nonzero opens
    rcases reached.ends_optimal rfl optimal with ⟨report, after, solves, stays, told⟩
    exact ⟨report, after, solves, stays.trans kept, told⟩

end Solve

section Fresh

variable {prepared : Reply J R (Options R × Problem J R X Y)} {options : Options R}
variable (ready : prepared.outcome = .ok (options, problem)) (trail : Trail J R)
include ready

theorem solveFresh_refused
    (nonzero : isZero (VectorArithmetic.norm problem.rightHandSide : R) = false)
    (positive : isPositive options.ridge = true) :
    ∃ after, solveFresh prepared observer trail = (.error .routineRefused, after) := by
  let settings := options.resolve problem.rows problem.columns problem.tolerance
  let before : RunState J R X Y :=
    { trail with
      journal := trail.journal ++ prepared.journal
      workspace := problem.freshWorkspace }
  have free : before.workspace.busy = false := rfl
  have ridged : isPositive settings.ridge = true := positive
  rcases columnless.solve_refused free nonzero ridged with ⟨after, refused⟩
  exact ⟨_, solveFresh_of_fault observer ready refused⟩

theorem solveFresh_returns
    (unridged : isZero (VectorArithmetic.norm problem.rightHandSide : R) = true ∨
      isPositive options.ridge = false)
    (optimal :
      let settings := options.resolve problem.rows problem.columns problem.tolerance
      le (VectorArithmetic.norm blank)
        (settings.absolute + settings.relative * VectorArithmetic.norm blank) = true) :
    ∃ workspace report after,
      solveFresh prepared observer trail = (.ok (workspace, report), after) ∧
        workspace.solution = VectorArithmetic.cleared problem.zeroColumns ∧
        report.Immediate := by
  let before : RunState J R X Y :=
    { trail with
      journal := trail.journal ++ prepared.journal
      workspace := problem.freshWorkspace }
  have free : before.workspace.busy = false := rfl
  rcases columnless.solve_returns free unridged optimal with
    ⟨report, after, solves, solution, immediate⟩
  exact ⟨_, _, _, solveFresh_of_ok observer ready solves, solution, immediate⟩

end Fresh

end Problem.Columnless

end ConjugateResidual

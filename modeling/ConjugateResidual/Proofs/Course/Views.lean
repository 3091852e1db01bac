import ConjugateResidual.Proofs.Course.Reach

/-!
Solves for a right-hand side that is a view of the workspace. A solve clears the solution before it
reads the right-hand side, so it is a solve for what the view shows by then; only a view of the
solution has changed.
-/

namespace ConjugateResidual

open Arithmetic

variable {J R X Y : Type} [VectorArithmetic R X] [VectorArithmetic R Y]

def Problem.withRightHandSide (problem : Problem J R X Y) (rightHandSide : Y) :
    Problem J R X Y :=
  { problem with rightHandSide }

def Workspace.wiped (workspace : Workspace R X Y) : Workspace R X Y :=
  { workspace with solution := VectorArithmetic.cleared workspace.solution }

namespace View

def AvoidsSolution : View X Y → Prop
  | .ofColumns .solution _ => False
  | _ => True

omit [VectorArithmetic R X] in
/-- A view shows vectors, and neither the records nor who holds the workspace. -/
theorem read_eq {workspace workspace' : Workspace R X Y} (view : View X Y)
    (columns : workspace'.column = workspace.column) (rows : workspace'.row = workspace.row) :
    view.read workspace' = view.read workspace := by
  cases view with
  | own entries => rfl
  | ofColumns vector part => exact congrArg part (congrFun columns vector)
  | ofRows vector part => exact congrArg part (congrFun rows vector)

theorem AvoidsSolution.read_wiped {view : View X Y} (avoids : view.AvoidsSolution)
    (workspace : Workspace R X Y) : view.read workspace.wiped = view.read workspace := by
  cases view with
  | own entries => rfl
  | ofColumns vector part =>
      cases vector with
      | solution => exact avoids.elim
      | gradient => rfl
      | direction => rfl
      | normalImage => rfl
  | ofRows vector part =>
      cases vector with
      | residual => rfl
      | directionImage => rfl
      | gradientImage => rfl
      | weighted => rfl

/-- What a solve on a workspace comes to be asked: it is prepared for the entries that the view
shows at first, and goes on with those that it shows once the solution is cleared. -/
def posed (view : View X Y) (prepare : Y → Reply J R (Options R × Problem J R X Y))
    (workspace : Workspace R X Y) : Reply J R (Options R × Problem J R X Y) :=
  let prepared := prepare (view.read workspace)
  { prepared with
    outcome := prepared.outcome.map fun (options, problem) =>
      (options, problem.withRightHandSide (view.read workspace.wiped)) }

end View

def TakesOver (prepare : Y → Reply J R (Options R × Problem J R X Y)) (rightHandSide : Y) :
    Prop :=
  ∀ options problem, (prepare rightHandSide).outcome = .ok (options, problem) →
    problem.rightHandSide = rightHandSide

variable {prepare : Y → Reply J R (Options R × Problem J R X Y)} {view : View X Y}
variable {workspace : Workspace R X Y}

theorem View.posed_eq (takes : TakesOver prepare (view.read workspace))
    (kept : view.read workspace.wiped = view.read workspace) :
    view.posed prepare workspace = prepare (view.read workspace) := by
  unfold posed
  rw [kept]
  cases ready : prepare (view.read workspace) with
  | mk journal outcome =>
      cases outcome with
      | error fault => rfl
      | ok result =>
          obtain ⟨options, problem⟩ := result
          have same := takes options problem (congrArg Reply.outcome ready)
          simp only [Except.map, Problem.withRightHandSide, ← same]

theorem View.posed_of_error {fault : Fault R}
    (unready : (prepare (view.read workspace)).outcome = .error fault) :
    (view.posed prepare workspace).outcome = .error fault := by
  unfold posed
  simp only [unready, Except.map]

theorem View.posed_of_ok {options : Options R} {problem : Problem J R X Y}
    (ready : (prepare (view.read workspace)).outcome = .ok (options, problem)) :
    (view.posed prepare workspace).outcome =
      .ok (options, problem.withRightHandSide (view.read workspace.wiped)) := by
  unfold posed
  simp only [ready, Except.map]

/-! ### Solves -/

section

variable (view : View X Y) (problem : Problem J R X Y) (settings : Settings R)

/-- The records are cleared and the copy is made ready before the right-hand side is read, but no
view shows either. -/
theorem setUp_eq (state : RunState J R X Y) :
    setUp view problem settings state =
      setUp (.own (view.read state.workspace.wiped)) problem settings state := by
  let begun : Workspace R X Y :=
    { state.workspace.wiped with recorder := .cleared settings.keepsHistory }
  have plain : view.read begun = view.read state.workspace.wiped := view.read_eq rfl rfl
  have buffered : view.read begun.withBuffer = view.read state.workspace.wiped := by
    refine view.read_eq rfl (funext fun vector => ?_)
    cases vector with
    | residual => rfl
    | directionImage => rfl
    | gradientImage => rfl
    | weighted => rfl
  unfold setUp
  by_cases weighted : problem.weight?.isSome
  · rw [← buffered]
    simp only [if_pos weighted]
    rfl
  · rw [← plain]
    simp only [if_neg weighted]
    rfl

private theorem announceFrom_eq (state : RunState J R X Y) :
    announceFrom view problem settings state =
      announce (problem.withRightHandSide (view.read state.workspace.wiped)) settings state := by
  unfold announce announceFrom
  by_cases spoken : 0 < settings.interval
  · simp only [if_pos spoken]
    exact setUp_eq view problem settings _
  · simp only [if_neg spoken]
    exact setUp_eq view problem settings _

variable [Arithmetic R] (observer : Run J R X Y Bool)

omit [VectorArithmetic R X] [VectorArithmetic R Y] in
theorem solveZero_withRightHandSide (rightHandSide : Y) :
    solveZero (problem.withRightHandSide rightHandSide) settings = solveZero problem settings :=
  rfl

private theorem iterations_withRightHandSide (rightHandSide : Y) (threshold : R) (remaining : Nat)
    (course : Course R) :
    iterations (problem.withRightHandSide rightHandSide) settings observer threshold remaining
        course =
      iterations problem settings observer threshold remaining course := by
  induction remaining generalizing course with
  | zero => rfl
  | succ remaining ih =>
      simp only [iterations, ih]
      rfl

/-- Once it has been read, a right-hand side is not looked at again. -/
theorem solveNonzero_withRightHandSide (rightHandSide : Y) (norm : R) :
    solveNonzero (problem.withRightHandSide rightHandSide) settings observer norm =
      solveNonzero problem settings observer norm := by
  unfold solveNonzero
  simp only [iterations_withRightHandSide]
  rfl

theorem solveFrom_eq (state : RunState J R X Y) :
    solveFrom view problem settings observer state =
      solve (problem.withRightHandSide (view.read state.workspace.wiped)) settings observer
        state := by
  unfold solveFrom
  rw [solve_eq]
  cases free : state.workspace.busy with
  | true => rw [Run.holding_of_busy free, Run.holding_of_busy free]
  | false =>
      have shown : view.read state.held.workspace.wiped = view.read state.workspace.wiped :=
        view.read_eq rfl rfl
      rw [Run.holding_of_free free, Run.holding_of_free free, Run.bind_apply, Run.bind_apply,
        announceFrom_eq, shown]
      simp only [solveZero_withRightHandSide, solveNonzero_withRightHandSide]

end

variable [Arithmetic R]

/-- A solve in place for a view is the solve in place that it comes to be asked for. -/
theorem solveInPlaceFrom_eq (view : View X Y)
    (prepare : Y → Reply J R (Options R × Problem J R X Y)) (observer : Run J R X Y Bool)
    (state : RunState J R X Y) :
    solveInPlaceFrom view prepare observer state =
      solveInPlace (view.posed prepare state.workspace) observer state := by
  unfold solveInPlaceFrom
  rw [Run.bind_of_ok (Run.workspace_apply _), Run.bind_apply, Run.perform_apply]
  cases ready : (prepare (view.read state.workspace)).outcome with
  | error fault =>
      rw [solveInPlace_of_error (View.posed_of_error ready)]
      rfl
  | ok result =>
      obtain ⟨options, problem⟩ := result
      rw [solveInPlace_eq (View.posed_of_ok ready)]
      dsimp only
      rw [Run.bind_of_ok (Run.workspace_apply _), Run.bind_apply, Run.ofExcept_apply]
      dsimp only [Problem.withRightHandSide]
      cases fits : state.workspace.checkFits (R := R) problem.rows problem.columns
          problem.field with
      | error fault => rfl
      | ok => exact solveFrom_eq view problem _ observer _

end ConjugateResidual

import Mathlib
import ConjugateResidual.Proofs.Exact.Unbounded

/-!
Without a trust region a solve sees its problem through the normal equations only. Two problems with
the same normal equations are solved alike: one iteration keeps the solves in step, and so do all of
them.
-/

namespace ConjugateResidual

open Arithmetic Method

variable {𝕜 : Type} [RCLike 𝕜] {rows rows' columns : ℕ}

structure ColumnPart (𝕜 : Type) (columns : ℕ) where
  solution : EuclideanSpace 𝕜 (Fin columns)
  gradient : EuclideanSpace 𝕜 (Fin columns)
  direction : EuclideanSpace 𝕜 (Fin columns)
  normalImage : EuclideanSpace 𝕜 (Fin columns)
  iterations : ℤ
  optimalities : List ℝ

def Workspace.columnPart (workspace : MatrixWorkspace 𝕜 rows columns) : ColumnPart 𝕜 columns :=
  { solution := workspace.solution, gradient := workspace.gradient
    direction := workspace.direction, normalImage := workspace.normalImage
    iterations := workspace.recorder.iterations
    optimalities := workspace.recorder.optimalities }

def watchColumns (answer : List (ColumnPart 𝕜 columns) → Except (Fault ℝ) Bool) :
    MatrixRun (MatrixWorkspace 𝕜 rows columns) 𝕜 rows columns Bool :=
  watch fun seen => answer (seen.map Workspace.columnPart)

def Course.outline (course : Course ℝ) : Course ℝ :=
  { course with residual := 0 }

def Report.verdict (report : Report ℝ) : ℤ × Bool × List ℝ :=
  (report.stats.iterations, report.stats.solved, report.stats.optimalities)

structure SameEquations (problem : MatrixProblem 𝕜 rows columns) (ridge : ℝ)
    (problem' : MatrixProblem 𝕜 rows' columns) (ridge' : ℝ) : Prop where
  operator : problem'.normalMap ridge' = problem.normalMap ridge
  vector : problem'.normalVector = problem.normalVector

variable (problem : MatrixProblem 𝕜 rows columns) (settings : Settings ℝ)

noncomputable def MatrixProblem.columnsAt (steps : ℕ) : ColumnPart 𝕜 columns :=
  let current := problem.iterateAt settings.ridge steps
  { solution := current.solution, gradient := current.residual, direction := current.direction
    normalImage := problem.normalMap settings.ridge current.direction
    iterations := steps
    optimalities :=
      if settings.keepsHistory then
        (List.range (steps + 1)).map fun step => ‖(problem.iterateAt settings.ridge step).residual‖
      else [] }

variable {problem settings}

theorem Workspace.At.columnPart {steps : ℕ} {workspace : MatrixWorkspace 𝕜 rows columns}
    (place : workspace.At problem settings steps) :
    workspace.columnPart = problem.columnsAt settings steps := by
  unfold Workspace.columnPart
  rw [place.recorder, place.carries.solution, place.carries.gradient, place.carries.direction,
    place.carries.normalImage]
  rfl

variable {problem' : MatrixProblem 𝕜 rows' columns} {ridge' : ℝ}

namespace SameEquations

variable (same : SameEquations problem settings.ridge problem' ridge')
include same

theorem iterateAt (steps : ℕ) :
    problem'.iterateAt ridge' steps = problem.iterateAt settings.ridge steps := by
  unfold MatrixProblem.iterateAt
  rw [same.operator, same.vector]

private theorem threshold :
    problem'.threshold { settings with ridge := ridge' } = problem.threshold settings := by
  unfold MatrixProblem.threshold
  rw [same.vector]

theorem columnsAt (steps : ℕ) :
    problem'.columnsAt { settings with ridge := ridge' } steps =
      problem.columnsAt settings steps := by
  unfold MatrixProblem.columnsAt
  simp only [same.iterateAt, same.operator]

end SameEquations

/-! ### One iteration -/

structure Agrees (state : MatrixState (MatrixWorkspace 𝕜 rows columns) 𝕜 rows columns)
    (state' : MatrixState (MatrixWorkspace 𝕜 rows' columns) 𝕜 rows' columns) : Prop where
  seen : state'.journal.map Workspace.columnPart = state.journal.map Workspace.columnPart
  solution : state'.workspace.solution = state.workspace.solution
  optimalities : state'.workspace.recorder.optimalities = state.workspace.recorder.optimalities

structure Alike (problem : MatrixProblem 𝕜 rows columns) (settings : Settings ℝ)
    (problem' : MatrixProblem 𝕜 rows' columns) (ridge' : ℝ) (course course' : Course ℝ)
    (state : MatrixState (MatrixWorkspace 𝕜 rows columns) 𝕜 rows columns)
    (state' : MatrixState (MatrixWorkspace 𝕜 rows' columns) 𝕜 rows' columns) : Prop where
  stands : course.Stands problem settings state.workspace
  stands' : course'.Stands problem' { settings with ridge := ridge' } state'.workspace
  outline : course'.outline = course.outline
  seen : state'.journal.map Workspace.columnPart = state.journal.map Workspace.columnPart

private theorem Course.isOver_of_outline {course course' : Course ℝ}
    (outline : course'.outline = course.outline) (threshold : ℝ) :
    course'.isOver threshold = course.isOver threshold := by
  have flags := congrArg (Course.isOver threshold) outline
  exact flags

theorem Course.iterations_of_outline {course course' : Course ℝ}
    (outline : course'.outline = course.outline) : course'.iterations = course.iterations := by
  have counts := congrArg Course.iterations outline
  exact counts

variable {course course' : Course ℝ}
variable {state : MatrixState (MatrixWorkspace 𝕜 rows columns) 𝕜 rows columns}
variable {state' : MatrixState (MatrixWorkspace 𝕜 rows' columns) 𝕜 rows' columns}

theorem Alike.agrees (same : SameEquations problem settings.ridge problem' ridge')
    (alike : Alike problem settings problem' ridge' course course' state state') :
    Agrees state state' := by
  have columns := alike.stands.place.columnPart
  have columns' := alike.stands'.place.columnPart
  rw [same.columnsAt, Course.iterations_of_outline alike.outline, ← columns] at columns'
  exact
    { seen := alike.seen
      solution := congrArg ColumnPart.solution columns'
      optimalities := congrArg ColumnPart.optimalities columns' }

inductive InStep (problem : MatrixProblem 𝕜 rows columns) (settings : Settings ℝ)
    (problem' : MatrixProblem 𝕜 rows' columns) (ridge' threshold : ℝ) :
    Except (Fault ℝ) (Course ℝ) × MatrixState (MatrixWorkspace 𝕜 rows columns) 𝕜 rows columns →
      Except (Fault ℝ) (Course ℝ) ×
        MatrixState (MatrixWorkspace 𝕜 rows' columns) 𝕜 rows' columns → Prop where
  | failed {fault : Fault ℝ}
      {after : MatrixState (MatrixWorkspace 𝕜 rows columns) 𝕜 rows columns}
      {after' : MatrixState (MatrixWorkspace 𝕜 rows' columns) 𝕜 rows' columns}
      (agrees : Agrees after after') :
      InStep problem settings problem' ridge' threshold (.error fault, after)
        (.error fault, after')
  | ended {next next' : Course ℝ}
      {after : MatrixState (MatrixWorkspace 𝕜 rows columns) 𝕜 rows columns}
      {after' : MatrixState (MatrixWorkspace 𝕜 rows' columns) 𝕜 rows' columns}
      (outline : next'.outline = next.outline) (ended : next.isOver threshold = true)
      (agrees : Agrees after after') :
      InStep problem settings problem' ridge' threshold (.ok next, after) (.ok next', after')
  | alike {next next' : Course ℝ}
      {after : MatrixState (MatrixWorkspace 𝕜 rows columns) 𝕜 rows columns}
      {after' : MatrixState (MatrixWorkspace 𝕜 rows' columns) 𝕜 rows' columns}
      (alike : Alike problem settings problem' ridge' next next' after after') :
      InStep problem settings problem' ridge' threshold (.ok next, after) (.ok next', after')

private theorem SameEquations.measured (same : SameEquations problem settings.ridge problem' ridge')
    {next : MatrixWorkspace 𝕜 rows columns} {next' : MatrixWorkspace 𝕜 rows' columns}
    (gradient : next'.gradient = next.gradient) :
    (problem'.measure { settings with ridge := ridge' } next').curvature =
        (problem.measure settings next).curvature ∧
      (problem'.measure { settings with ridge := ridge' } next').optimality =
        (problem.measure settings next).optimality := by
  refine ⟨?_, congrArg norm gradient⟩
  change curvature (problem'.normalMap ridge') _ = curvature (problem.normalMap _) _
  rw [same.operator, gradient]

private theorem completed_inStep (same : SameEquations problem settings.ridge problem' ridge')
    {answer : List (ColumnPart 𝕜 columns) → Except (Fault ℝ) Bool} {threshold : ℝ}
    {next : MatrixWorkspace 𝕜 rows columns} {next' : MatrixWorkspace 𝕜 rows' columns}
    (outline : course'.outline = course.outline)
    (seen : state'.journal.map Workspace.columnPart = state.journal.map Workspace.columnPart)
    (place : (next.completed (course.iterations + 1) (problem.measure settings next)).At problem
      settings (course.iterations + 1))
    (place' : (next'.completed (course'.iterations + 1)
        (problem'.measure { settings with ridge := ridge' } next')).At problem'
      { settings with ridge := ridge' } (course'.iterations + 1)) :
    InStep problem settings problem' ridge' threshold
      (course.completed settings (watchColumns answer) (problem.measure settings next)
        { state with workspace := next })
      (course'.completed { settings with ridge := ridge' } (watchColumns answer)
        (problem'.measure { settings with ridge := ridge' } next')
        { state' with workspace := next' }) := by
  obtain ⟨printed, completes⟩ := course.completed_apply settings (watchColumns answer)
    (problem.measure settings next) { state with workspace := next }
  obtain ⟨printed', completes'⟩ := course'.completed_apply { settings with ridge := ridge' }
    (watchColumns answer) (problem'.measure { settings with ridge := ridge' } next')
    { state' with workspace := next' }
  rw [completes, completes']
  have counts := Course.iterations_of_outline outline
  have columns : (next'.completed (course'.iterations + 1)
        (problem'.measure { settings with ridge := ridge' } next')).columnPart =
      (next.completed (course.iterations + 1) (problem.measure settings next)).columnPart := by
    rw [place'.columnPart, same.columnsAt, counts, place.columnPart]
  have shown : (state'.journal ++ [next'.completed (course'.iterations + 1)
        (problem'.measure { settings with ridge := ridge' } next')]).map Workspace.columnPart =
      (state.journal ++ [next.completed (course.iterations + 1)
        (problem.measure settings next)]).map Workspace.columnPart := by
    rw [List.map_append, List.map_append, seen, List.map_singleton, List.map_singleton, columns]
  dsimp only [watchColumns, watch]
  rw [shown]
  cases answer ((state.journal ++ [next.completed (course.iterations + 1)
      (problem.measure settings next)]).map Workspace.columnPart) with
  | error fault =>
      refine .failed { seen := shown, solution := ?_, optimalities := ?_ }
      · exact congrArg ColumnPart.solution columns
      · exact congrArg ColumnPart.optimalities columns
  | ok exited =>
      have gradient : next'.gradient = next.gradient := congrArg ColumnPart.gradient columns
      obtain ⟨curvatures, optimalities⟩ := same.measured gradient
      have flat : course'.flat = course.flat := by
        have flags := congrArg Course.flat outline
        exact flags
      have clipped : course'.clipped = course.clipped := by
        have flags := congrArg Course.clipped outline
        exact flags
      refine .alike
        { stands := { place, progress := rfl }, stands' := { place := place', progress := rfl }
          outline := ?_, seen := shown }
      unfold Course.outline
      simp only [curvatures, optimalities, counts, flat, clipped]

section Runs

variable (same : SameEquations problem settings.ridge problem' ridge')
  (answer : List (ColumnPart 𝕜 columns) → Except (Fault ℝ) Bool)
  (unbounded : ¬ 0 < settings.radius) (sizedRows : 0 < rows) (sizedRows' : 0 < rows')
  (sized : 0 < columns) (nonneg : 0 ≤ settings.ridge) (nonneg' : 0 ≤ ridge') (threshold : ℝ)
include same unbounded sizedRows sizedRows' sized nonneg nonneg'

private theorem iterate_inStep
    (alike : Alike problem settings problem' ridge' course course' state state') :
    InStep problem settings problem' ridge' threshold
      (iterate problem.toProblem settings (watchColumns answer) threshold course state)
      (iterate problem'.toProblem { settings with ridge := ridge' } (watchColumns answer) threshold
        course' state') := by
  have counts := Course.iterations_of_outline alike.outline
  have agrees := alike.agrees same
  have current : problem'.iterateAt ridge' course'.iterations =
      problem.iterateAt settings.ridge course.iterations := by
    rw [counts, same.iterateAt]
  have unbounded' : ¬ 0 < ({ settings with ridge := ridge' } : Settings ℝ).radius := unbounded
  -- What either solve does is decided by the divisors at their common iterate.
  by_cases image : problem.normalMap settings.ridge
      (problem.iterateAt settings.ridge course.iterations).direction = 0
  · obtain ⟨after, ran, journal, solution, recorder⟩ :=
      iterate_of_image_zero (watchColumns answer) threshold unbounded
        sizedRows sized nonneg alike.stands image
    obtain ⟨after', ran', journal', solution', recorder'⟩ :=
      iterate_of_image_zero (watchColumns answer) threshold unbounded'
        sizedRows' sized nonneg' alike.stands' (by rw [current, same.operator]; exact image)
    dsimp only at ran' solution'
    rw [current, same.operator] at ran' solution'
    rw [ran, ran']
    refine .ended ?_ ?_
      { seen := by rw [journal', journal, alike.seen]
        solution := by rw [solution', solution]
        optimalities := by rw [recorder', recorder, agrees.optimalities] }
    · have outline := alike.outline
      simp only [Course.outline, Course.mk.injEq, Progress.mk.injEq] at outline ⊢
      simp only [outline, and_self]
    · simp only [Course.isOver, Bool.or_true, Bool.true_or]
  · by_cases curved : curvature (problem.normalMap settings.ridge)
        (problem.iterateAt settings.ridge course.iterations).residual = 0
    · obtain ⟨after, ran, journal, solution, recorder⟩ :=
        iterate_of_curvature_zero (watchColumns answer) threshold
          unbounded sizedRows sized nonneg alike.stands image curved
      obtain ⟨after', ran', journal', solution', recorder'⟩ :=
        iterate_of_curvature_zero (watchColumns answer) threshold
          unbounded' sizedRows' sized nonneg' alike.stands'
          (by rw [current, same.operator]; exact image)
          (by rw [current, same.operator]; exact curved)
      dsimp only at solution'
      rw [current] at solution'
      rw [ran, ran']
      exact .failed
        { seen := by rw [journal', journal, alike.seen]
          solution := by rw [solution', solution]
          optimalities := by rw [recorder', recorder, agrees.optimalities] }
    · obtain ⟨ran, place⟩ :=
        iterate_of_divisors (watchColumns answer) threshold
          unbounded sizedRows sized nonneg alike.stands image curved
      obtain ⟨ran', place'⟩ :=
        iterate_of_divisors (watchColumns answer) threshold
          unbounded' sizedRows' sized nonneg' alike.stands'
          (by rw [current, same.operator]; exact image)
          (by rw [current, same.operator]; exact curved)
      rw [ran, ran']
      exact completed_inStep same alike.outline alike.seen place place'

private theorem iterations_inStep (remaining : ℕ)
    (alike : Alike problem settings problem' ridge' course course' state state') :
    (iterations problem'.toProblem { settings with ridge := ridge' } (watchColumns answer) threshold
            remaining course' state').1.map Course.outline =
        (iterations problem.toProblem settings (watchColumns answer) threshold remaining course
            state).1.map Course.outline ∧
      Agrees
        (iterations problem.toProblem settings (watchColumns answer) threshold remaining course
          state).2
        (iterations problem'.toProblem { settings with ridge := ridge' } (watchColumns answer)
          threshold remaining course' state').2 := by
  induction remaining generalizing course course' state state' with
  | zero => exact ⟨congrArg Except.ok alike.outline, alike.agrees same⟩
  | succ remaining ih =>
      have overs := Course.isOver_of_outline alike.outline threshold
      unfold iterations
      rw [overs]
      cases course.isOver threshold with
      | true => exact ⟨congrArg Except.ok alike.outline, alike.agrees same⟩
      | false =>
          simp only [Bool.false_eq_true, if_false]
          have inStep := iterate_inStep same answer unbounded sizedRows sizedRows' sized nonneg
            nonneg' threshold alike
          rw [Run.bind_apply, Run.bind_apply]
          generalize iterate problem.toProblem settings (watchColumns answer) threshold course
            state = result at inStep
          generalize iterate problem'.toProblem { settings with ridge := ridge' }
            (watchColumns answer) threshold course' state' = result' at inStep
          cases inStep with
          | failed agrees => exact ⟨rfl, agrees⟩
          | @ended next next' after after' outline ended agrees =>
              have ended' : next'.isOver threshold = true := by
                rw [Course.isOver_of_outline outline, ended]
              dsimp only
              rw [iterations_of_isOver ended, iterations_of_isOver ended']
              exact ⟨congrArg Except.ok outline, agrees⟩
          | alike alike => exact ih alike

end Runs

/-! ### Whole solves -/

private theorem SameEquations.opens_alike
    (same : SameEquations problem settings.ridge problem' ridge')
    {opening opening' : Opening ℝ} (starts : opening.Starts problem settings state.workspace)
    (starts' : opening'.Starts problem' { settings with ridge := ridge' } state'.workspace)
    (quiet : state.journal = []) (quiet' : state'.journal = []) :
    opening'.threshold = opening.threshold ∧
      Alike problem settings problem' ridge' opening.course opening'.course state state' := by
  have threshold : opening'.threshold = opening.threshold := by
    rw [starts.threshold, starts'.threshold, same.threshold]
  have curvature : opening'.course.curvature = opening.course.curvature := by
    rw [starts'.stands.curvature_eq, starts.stands.curvature_eq, starts'.iterations,
      starts.iterations, same.iterateAt, same.operator]
  have optimality : opening'.course.optimality = opening.course.optimality := by
    rw [starts'.stands.optimality_eq, starts.stands.optimality_eq, starts'.iterations,
      starts.iterations, same.iterateAt]
  refine ⟨threshold,
    { stands := starts.stands, stands' := starts'.stands, outline := ?_
      seen := by rw [quiet, quiet']; rfl }⟩
  unfold Course.outline
  simp only [curvature, optimality, starts.iterations, starts'.iterations, starts.underway.1,
    starts'.underway.1, starts.underway.2, starts'.underway.2, starts.running, starts'.running]

private theorem closeCourse_agrees {opening opening' : Opening ℝ}
    (threshold : opening'.threshold = opening.threshold)
    (outline : course'.outline = course.outline) (agrees : Agrees state state') :
    (closeCourse problem'.toProblem { settings with ridge := ridge' } opening' course'
          state').1.map Report.verdict =
        (closeCourse problem.toProblem settings opening course state).1.map Report.verdict ∧
      Agrees (closeCourse problem.toProblem settings opening course state).2
        (closeCourse problem'.toProblem { settings with ridge := ridge' } opening' course'
          state').2 := by
  rw [closeCourse_eq, closeCourse_eq]
  refine ⟨congrArg Except.ok ?_, { agrees with }⟩
  have solved : course'.isSolved opening'.threshold = course.isSolved opening.threshold := by
    rw [threshold]
    have flags := congrArg (Course.isSolved opening.threshold) outline
    exact flags
  change ((course'.iterations : ℤ), course'.isSolved opening'.threshold,
      state'.workspace.recorder.optimalities) =
    ((course.iterations : ℤ), course.isSolved opening.threshold,
      state.workspace.recorder.optimalities)
  rw [Course.iterations_of_outline outline, solved, agrees.optimalities]

variable (problem settings problem' ridge') in
private theorem judged_agrees {opening opening' : Opening ℝ}
    (threshold : opening'.threshold = opening.threshold)
    {run : MatrixRun (MatrixWorkspace 𝕜 rows columns) 𝕜 rows columns (Course ℝ)}
    {run' : MatrixRun (MatrixWorkspace 𝕜 rows' columns) 𝕜 rows' columns (Course ℝ)}
    (outlines : (run' state').1.map Course.outline = (run state).1.map Course.outline)
    (agrees : Agrees (run state).2 (run' state').2) :
    ((run' >>= closeCourse problem'.toProblem { settings with ridge := ridge' } opening')
          state').1.map Report.verdict =
        ((run >>= closeCourse problem.toProblem settings opening) state).1.map Report.verdict ∧
      Agrees ((run >>= closeCourse problem.toProblem settings opening) state).2
        ((run' >>= closeCourse problem'.toProblem { settings with ridge := ridge' } opening')
          state').2 := by
  rw [Run.bind_apply, Run.bind_apply]
  generalize run state = result at outlines agrees ⊢
  generalize run' state' = result' at outlines agrees ⊢
  obtain ⟨outcome, after⟩ := result
  obtain ⟨outcome', after'⟩ := result'
  cases outcome with
  | error fault =>
      cases outcome' with
      | error fault' =>
          cases outlines
          exact ⟨rfl, agrees⟩
      | ok last' => cases outlines
  | ok last =>
      cases outcome' with
      | error fault' => cases outlines
      | ok last' => exact closeCourse_agrees threshold (Except.ok.inj outlines) agrees

/-- A solve whose gradient is zero from the start ends at once, whatever its right-hand side. -/
theorem solve_of_normalVector_eq_zero {J : Type} (observer : MatrixRun J 𝕜 rows columns Bool)
    (admissible : settings.Admissible) (sized : 0 < columns) (zero : problem.normalVector = 0)
    {before : MatrixState J 𝕜 rows columns} (free : before.workspace.busy = false) :
    let result := solve problem.toProblem settings observer before
    let optimalities : List ℝ := if settings.keepsHistory then [0] else []
    result.1.map Report.verdict = .ok (0, true, optimalities) ∧
      result.2.journal = before.journal ∧ result.2.workspace.solution = 0 ∧
      result.2.workspace.recorder.optimalities = optimalities := by
  intro result optimalities
  by_cases blank : problem.rightHandSide = 0
  · obtain ⟨printed, solves⟩ :=
      solve_of_rightHandSide_eq_zero settings observer blank free
    let prepared := (problem.toProblem (J := J)).prepared settings before.held.workspace
    obtain ⟨solved, _, iterations⟩ := prepared.stats_answered
    have recorded : prepared.answered.recorder.optimalities = optimalities :=
      Problem.optimalities_answered _ settings _
    have result_eq : result = _ := solves
    rw [result_eq]
    refine ⟨congrArg Except.ok ?_, rfl, rfl, recorded⟩
    change (prepared.answered.stats.iterations, prepared.answered.stats.solved,
      prepared.answered.recorder.optimalities) = _
    rw [iterations, solved, recorded]
  · obtain ⟨opening, state, starts, journal, solves⟩ :=
      solve_of_rightHandSide_ne_zero observer sized admissible.ridge blank free
    have place := starts.stands.place
    rw [starts.iterations] at place
    have start : (problem.iterateAt settings.ridge 0).residual = 0 := zero
    have optimal : opening.course.optimality ≤ opening.threshold := by
      rw [starts.stands.optimality_eq, starts.iterations, start, norm_zero, starts.threshold]
      exact problem.threshold_nonneg admissible
    have ended := Course.isOver_of_optimality_le optimal
    have recorded : state.workspace.recorder.optimalities = optimalities := by
      rw [place.recorder]
      simp only [MatrixProblem.recorderAt, zero_add, List.range_one, List.map_singleton, start,
        norm_zero, optimalities]
    have result_eq : result = _ := solves
    rw [result_eq, Run.bind_of_ok (iterations_of_isOver ended _ state), closeCourse_eq]
    refine ⟨congrArg Except.ok ?_, journal, place.carries.solution, recorded⟩
    have solved : opening.course.isSolved opening.threshold = true := by
      rw [Course.isSolved, Progress.isOptimal, (le_real _ _).mpr optimal, Bool.or_true]
    change ((opening.course.iterations : ℤ), opening.course.isSolved opening.threshold,
      state.workspace.recorder.optimalities) = _
    rw [starts.iterations, solved, recorded]
    rfl

theorem solve_agrees (same : SameEquations problem settings.ridge problem' ridge')
    (admissible : settings.Admissible) (unbounded : ¬ 0 < settings.radius) (sized : 0 < columns)
    (nonneg' : 0 ≤ ridge') (answer : List (ColumnPart 𝕜 columns) → Except (Fault ℝ) Bool)
    {before : MatrixState (MatrixWorkspace 𝕜 rows columns) 𝕜 rows columns}
    {before' : MatrixState (MatrixWorkspace 𝕜 rows' columns) 𝕜 rows' columns}
    (free : before.workspace.busy = false) (free' : before'.workspace.busy = false)
    (quiet : before.journal = []) (quiet' : before'.journal = []) :
    (solve problem'.toProblem { settings with ridge := ridge' } (watchColumns answer)
          before').1.map Report.verdict =
        (solve problem.toProblem settings (watchColumns answer) before).1.map Report.verdict ∧
      Agrees (solve problem.toProblem settings (watchColumns answer) before).2
        (solve problem'.toProblem { settings with ridge := ridge' } (watchColumns answer)
          before').2 := by
  have admissible' : ({ settings with ridge := ridge' } : Settings ℝ).Admissible :=
    { admissible with ridge := nonneg' }
  -- If the gradient is zero, only one of the right-hand sides may be zero.
  by_cases zero : problem.normalVector = 0
  · obtain ⟨verdict, journal, solution, optimalities⟩ :=
      solve_of_normalVector_eq_zero (watchColumns answer) admissible sized zero free
    obtain ⟨verdict', journal', solution', optimalities'⟩ :=
      solve_of_normalVector_eq_zero (watchColumns answer) admissible' sized
        (same.vector.trans zero) free'
    refine ⟨verdict'.trans verdict.symm, { seen := ?_, solution := ?_, optimalities := ?_ }⟩
    · rw [journal, journal', quiet, quiet']
      rfl
    · rw [solution, solution']
    · rw [optimalities, optimalities']
  · have nonzero := problem.rightHandSide_ne_zero zero
    have nonzero' : problem'.rightHandSide ≠ 0 := by
      apply problem'.rightHandSide_ne_zero
      rw [same.vector]
      exact zero
    obtain ⟨opening, state, starts, journal, solves⟩ :=
      solve_of_rightHandSide_ne_zero (watchColumns answer) sized admissible.ridge nonzero free
    obtain ⟨opening', state', starts', journal', solves'⟩ :=
      solve_of_rightHandSide_ne_zero (watchColumns answer) sized admissible'.ridge nonzero' free'
    obtain ⟨threshold, alike⟩ := same.opens_alike starts starts' (journal.trans quiet)
      (journal'.trans quiet')
    obtain ⟨outlines, agrees⟩ := iterations_inStep same answer unbounded
      (problem.rows_pos nonzero) (problem'.rows_pos nonzero') sized admissible.ridge nonneg'
      opening.threshold settings.budget alike
    rw [solves, solves', threshold]
    obtain ⟨verdict, kept⟩ :=
      judged_agrees problem settings problem' ridge' threshold outlines agrees
    exact ⟨verdict, { kept with }⟩

variable (problem settings)

/-- Without a trust region a solve is the conjugate residual method for the normal equations.
Whatever the preconditioner and the observer, every workspace that is shown stands at the iterate of
its number, no divisor on the way there was zero, and the recorded norms are those of the residuals
of the method. Two problems with the same normal equations are therefore solved alike. -/
theorem solve_refines_method (admissible : settings.Admissible) (unbounded : settings.radius = 0)
    (sized : 0 < columns) :
    (∀ (answer : List (MatrixWorkspace 𝕜 rows columns) → Except (Fault ℝ) Bool)
        (workspace : MatrixWorkspace 𝕜 rows columns) (index : ℕ)
        (shown : MatrixWorkspace 𝕜 rows columns),
        (solve problem.toProblem settings (watch answer)
            (.ofWorkspace workspace)).2.journal[index]? = some shown →
          let operator := problem.normalMap settings.ridge
          let method := Method.iterate operator problem.normalVector
          shown.solution = (method (index + 1)).solution ∧
            shown.gradient = (method (index + 1)).residual ∧
            shown.direction = (method (index + 1)).direction ∧
            shown.normalImage = operator (method (index + 1)).direction ∧
            (settings.keepsHistory = true → ∀ step ≤ index + 1,
              shown.recorder.optimalities[step]? = some ‖(method step).residual‖) ∧
            ∀ step ≤ index, operator (method step).direction ≠ 0 ∧
              curvature operator (method step).residual ≠ 0) ∧
      ∀ (rows' : ℕ) (problem' : MatrixProblem 𝕜 rows' columns) (ridge' : ℝ),
        0 ≤ ridge' → SameEquations problem settings.ridge problem' ridge' →
        ∀ (answer : List (ColumnPart 𝕜 columns) → Except (Fault ℝ) Bool)
          (workspace : MatrixWorkspace 𝕜 rows columns)
          (workspace' : MatrixWorkspace 𝕜 rows' columns),
          workspace.busy = false → workspace'.busy = false →
          let result :=
            solve problem.toProblem settings (watchColumns answer) (.ofWorkspace workspace)
          let result' :=
            solve problem'.toProblem { settings with ridge := ridge' } (watchColumns answer)
              (.ofWorkspace workspace')
          result'.1.map Report.verdict = result.1.map Report.verdict ∧
            result'.2.journal.map Workspace.columnPart =
              result.2.journal.map Workspace.columnPart ∧
            result'.2.workspace.solution = result.2.workspace.solution := by
  constructor
  · intro answer workspace index shown found operator method
    have place := (seen_solve admissible workspace index shown found).place admissible
      (looks_watch answer)
    have carries := place.carries
    refine ⟨carries.solution, carries.gradient, carries.direction, carries.normalImage, ?_, ?_⟩
    · intro keeps step within
      rw [place.recorder]
      simp only [MatrixProblem.recorderAt, keeps, if_true, List.getElem?_map,
        List.getElem?_range (Nat.lt_succ_iff.mpr within), Option.map_some]
      rfl
    · intro step within
      exact place.divisors step (Nat.lt_succ_iff.mpr within)
  · intro rows' problem' ridge' nonneg' same answer workspace workspace' free free' result result'
    have bounded : ¬ 0 < settings.radius := by
      rw [unbounded]
      exact lt_irrefl 0
    have quiet : (RunState.ofWorkspace (J := MatrixWorkspace 𝕜 rows columns)
        workspace).journal = [] := rfl
    have quiet' : (RunState.ofWorkspace (J := MatrixWorkspace 𝕜 rows' columns)
        workspace').journal = [] := rfl
    obtain ⟨verdict, agrees⟩ :=
      solve_agrees same admissible bounded sized nonneg' answer free free' quiet quiet'
    exact ⟨verdict, agrees.seen, agrees.solution⟩

private theorem sameEquations_unit :
    SameEquations MatrixProblem.unit 0 { MatrixProblem.unit with weight? := none } 0 := by
  have weight : ∀ vector, ({ MatrixProblem.unit with weight? := none } :
      MatrixProblem ℝ 1 1).weightMap vector = MatrixProblem.unit.weightMap vector := by
    intro vector
    rw [MatrixProblem.weightMap_unit, MatrixProblem.weightMap_of_none _ rfl]
  refine { operator := LinearMap.ext fun vector => ?_, vector := ?_ }
  · rw [MatrixProblem.normalMap_apply, weight]
    rfl
  · unfold MatrixProblem.normalVector
    rw [weight]
    rfl

theorem solve_refines_method_unit :
    let solution := solve MatrixProblem.unit.toProblem (.exact 0 1) (watch fun _ => .ok false)
      (.ofWorkspace MatrixProblem.unit.ownWorkspace)
    let columns := solve MatrixProblem.unit.toProblem (.exact 0 1) (watchColumns fun _ => .ok false)
      (.ofWorkspace MatrixProblem.unit.ownWorkspace)
    let columns' :=
      solve ({ MatrixProblem.unit with weight? := none } : MatrixProblem ℝ 1 1).toProblem
        (.exact 0 1) (watchColumns fun _ => .ok false)
        (.ofWorkspace MatrixProblem.unit.ownWorkspace)
    (∃ shown, solution.2.journal[0]? = some shown ∧
        shown.solution = (Method.iterate (MatrixProblem.unit.normalMap 0)
          MatrixProblem.unit.normalVector 1).solution) ∧
      columns'.1.map Report.verdict = columns.1.map Report.verdict := by
  obtain ⟨follows, agrees⟩ := solve_refines_method MatrixProblem.unit (.exact 0 1)
    (Settings.admissible_exact le_rfl 1) rfl Nat.one_pos
  obtain ⟨shown, found⟩ := MatrixProblem.shows_unit 0 le_rfl
    (fun bounded => absurd bounded (lt_irrefl 0)) fun _ => .ok false
  refine ⟨⟨shown, found, (follows _ _ 0 shown found).1⟩, ?_⟩
  exact (agrees 1 _ 0 le_rfl sameEquations_unit (fun _ => .ok false)
    MatrixProblem.unit.ownWorkspace MatrixProblem.unit.ownWorkspace rfl rfl).1

end ConjugateResidual

import ConjugateResidual.Observer
import ConjugateResidual.Proofs.Course.Turns

/-!
How a solve that returns is reported, in any arithmetic. The course that is judged at the end tallies
with the turns of the solve; from this `reports_tell_the_end` reads off the report what the last step
was, what the observer answered last, and whether the budget was used up.
-/

namespace ConjugateResidual

open Arithmetic

variable {J R X Y : Type}

/-- What the observer answers when it is asked for the last time. -/
def Run.lastAnswer? (observer : Run J R X Y Bool) (asked : List (RunState J R X Y)) :
    Option (Except (Fault R) Bool) :=
  asked.getLast?.map fun state => (observer state).1

theorem Turn.lastAnswer?_ne_of_passes {observer : Run J R X Y Bool} {turns : List (Turn J R X Y)}
    (passes : ∀ turn ∈ turns, turn.Passes observer) :
    Run.lastAnswer? observer (consulted turns) ≠ some (.ok true) := by
  intro exits
  obtain ⟨state, last, answered⟩ := Option.map_eq_some_iff.mp exits
  rw [answers_of_passes passes (List.mem_of_getLast? last)] at answered
  cases answered

structure Course.Tallies (observer : Run J R X Y Bool) (turns : List (Turn J R X Y)) (solution : X)
    (last : Course R) : Prop where
  clipped : last.clipped = true ↔ turns.getLast?.bind Turn.step? = some .toSphere
  flat : last.flat = true ↔ turns.getLast?.bind Turn.step? = some .alongGradient
  exited :
    last.exited = true ↔ Run.lastAnswer? observer (Turn.consulted turns) = some (.ok true)
  iterations : last.iterations = (Turn.consulted turns).length
  landing : ∀ turn ∈ turns.getLast?, turn.step? ≠ some .full → turn.landing? = some solution

variable [Arithmetic R]
variable {settings : Settings R} {observer : Run J R X Y Bool} {threshold : R}

theorem Unfolds.tallies {course last : Course R} {state final : RunState J R X Y}
    {turns : List (Turn J R X Y)}
    (unfolds : Unfolds settings observer threshold course state turns (.ok last, final))
    (underway : course.Underway) (running : course.exited = false)
    (unbegun : course.iterations = 0) :
    last.Tallies observer turns final.workspace.solution := by
  obtain ⟨rfl, same⟩ | ⟨earlier, turn, before, between, rfl, passes, iterating, count, turned⟩ :=
    unfolds.ends
  · cases same
    exact
      { clipped := by simp [underway.2]
        flat := by simp [underway.1]
        exited := by simp [running, Turn.consulted, Run.lastAnswer?]
        iterations := unbegun
        landing := by simp }
  · have going := Course.underway_of_open iterating
    have pending := Course.running_of_open iterating
    have unanswered := Turn.lastAnswer?_ne_of_passes passes
    have counted := Turn.length_consulted passes
    rw [unbegun, Nat.zero_add] at count
    generalize same : (Except.ok last, final) = result at turned
    cases turned with
    | alongGradient frame =>
        cases same
        exact
          { clipped := by simp [going.2]
            flat := by simp
            exited := by simpa [Turn.consulted_concat, pending] using unanswered
            iterations := by simp [Turn.consulted_concat, count, counted]
            landing := by simp }
    | toSphere frame =>
        cases same
        exact
          { clipped := by simp
            flat := by simp [going.1]
            exited := by simpa [Turn.consulted_concat, pending] using unanswered
            iterations := by simp [Turn.consulted_concat, count, counted]
            landing := by simp }
    | stuck unasked frame => cases same
    | @asked progress _ asked frame shown =>
        obtain ⟨answered, rfl⟩ := Prod.mk.inj same
        cases answer : (observer asked).1 with
        | error fault =>
            rw [answer] at answered
            cases answered
        | ok exited =>
            rw [answer] at answered
            cases answered
            exact
              { clipped := by simp [going.2]
                flat := by simp [going.1]
                exited := by simp [Turn.consulted_concat, Run.lastAnswer?, answer]
                iterations := by simp [Turn.consulted_concat, count, counted]
                landing := by simp }

/-- What the report of a solve says, by the last step, the last answer of the observer and the
figures at the end. The wish of the observer comes first, then the sphere, missing curvature, and
optimality. -/
structure Report.Tells (budget : Nat) (lastStep? : Option Step)
    (lastAnswer? : Option (Except (Fault R) Bool)) (figures : Figures R) (report : Report R) :
    Prop where
  within : report.stats.iterations ≤ budget
  consistent : report.stats.inconsistent = false
  known : report.stats.status ≠ .unknown ∧ report.stats.status ≠ .zeroRightHandSide
  userExit : report.stats.status = .userExit ↔ lastAnswer? = some (.ok true)
  onBoundary : report.stats.status ≠ .userExit →
    (report.stats.status = .onBoundary ↔ lastStep? = some .toSphere)
  zeroCurvature : report.stats.status ∉ [.userExit, .onBoundary] →
    (report.stats.status = .zeroCurvature ↔ lastStep? = some .alongGradient)
  optimal : report.stats.status ∉ [.userExit, .onBoundary, .zeroCurvature] →
    (report.stats.status = .solved ↔ le figures.optimality figures.threshold = true)
  budgetExhausted : report.stats.status ∉ [.userExit, .onBoundary, .zeroCurvature, .solved] →
    report.stats.status = .budgetExhausted ∧ report.stats.iterations = budget
  solved : report.stats.solved = true ↔
    le figures.optimality figures.threshold = true ∨ lastStep? = some .toSphere ∨
      lastStep? = some .alongGradient
  warnings : report.warnings =
    if report.stats.iterations = budget ∧ report.stats.solved = false then
      [{ iterations := budget, optimality := figures.optimality, threshold := figures.threshold }]
    else []

namespace Course

variable {course : Course R}

private theorem status_eq_userExit_iff :
    course.status settings threshold = .userExit ↔ course.exited = true := by
  unfold status
  grind

section Running

variable (running : course.exited = false)
include running

private theorem status_eq_onBoundary_iff :
    course.status settings threshold = .onBoundary ↔ course.clipped = true := by
  unfold status
  grind

private theorem status_eq_zeroCurvature_iff (inside : course.clipped = false) :
    course.status settings threshold = .zeroCurvature ↔ course.flat = true := by
  unfold status
  grind

variable (underway : course.Underway)
include underway

private theorem status_eq_solved_iff :
    course.status settings threshold = .solved ↔ course.isOptimal threshold = true := by
  unfold status isSolved
  rw [running, underway.1, underway.2]
  simp only [Bool.false_eq_true, if_false, Bool.or_self, Bool.false_or]
  grind

/-- A course that has ended without reaching anything has used up its budget. -/
theorem status_of_not_isOptimal
    (ended : course.isOver threshold = true ∨ course.iterations = settings.budget)
    (rough : course.isOptimal threshold = false) :
    course.status settings threshold = .budgetExhausted ∧
      course.iterations = settings.budget := by
  have spent : course.iterations = settings.budget :=
    ended.resolve_left (by simp [isOver, running, underway.1, underway.2, rough])
  refine ⟨?_, spent⟩
  simp [status, isSolved, isTired, running, underway.1, underway.2, rough, spent]

end Running

private theorem status_known
    (ended : course.isOver threshold = true ∨ course.iterations = settings.budget) :
    course.status settings threshold ≠ .unknown ∧
      course.status settings threshold ≠ .zeroRightHandSide := by
  unfold status isSolved isTired
  unfold isOver at ended
  grind

private theorem warnings_eq (within : course.iterations ≤ settings.budget) :
    course.warnings settings threshold =
      if course.iterations = settings.budget ∧ course.isSolved threshold = false then
        [{ iterations := settings.budget, optimality := course.optimality, threshold }]
      else [] := by
  unfold warnings isTired
  by_cases spent : course.iterations = settings.budget
  · simp [spent]
  · have spare : ¬ settings.budget ≤ course.iterations := by omega
    simp [spent, spare]

namespace Tallies

variable {turns : List (Turn J R X Y)} {solution : X} {last : Course R}
variable (tallies : last.Tallies observer turns solution)
include tallies

private theorem isSolved_iff :
    last.isSolved threshold = true ↔
      le last.optimality threshold = true ∨
        turns.getLast?.bind Turn.step? = some .toSphere ∨
        turns.getLast?.bind Turn.step? = some .alongGradient := by
  rw [← tallies.clipped, ← tallies.flat]
  unfold isSolved Progress.isOptimal
  grind

/-- The last course of a solve is judged by its turns. -/
theorem tells {opening : Opening R} (problem : Problem J R X Y) (workspace : Workspace R X Y)
    (within : last.iterations ≤ settings.budget)
    (ended : last.isOver opening.threshold = true ∨ last.iterations = settings.budget) :
    (problem.reported settings (some (last.figures opening))
        (last.warnings settings opening.threshold)
        (last.settle settings opening.threshold workspace).stats).Tells settings.budget
      (turns.getLast?.bind Turn.step?) (Run.lastAnswer? observer (Turn.consulted turns))
      (last.figures opening) := by
  -- In the report the status is that of the course, and its count that of the course.
  have running (other : last.status settings opening.threshold ≠ .userExit) :
      last.exited = false :=
    eq_false_of_ne_true fun exited => other (status_eq_userExit_iff.mpr exited)
  have inside (running : last.exited = false)
      (other : last.status settings opening.threshold ≠ .onBoundary) : last.clipped = false :=
    eq_false_of_ne_true fun clipped => other ((status_eq_onBoundary_iff running).mpr clipped)
  have curved (running : last.exited = false) (inside : last.clipped = false)
      (other : last.status settings opening.threshold ≠ .zeroCurvature) : last.flat = false :=
    eq_false_of_ne_true fun flat => other ((status_eq_zeroCurvature_iff running inside).mpr flat)
  refine
    { within := Int.ofNat_le.mpr within
      consistent := rfl
      known := status_known ended
      userExit := status_eq_userExit_iff.trans tallies.exited
      onBoundary := fun other =>
        (status_eq_onBoundary_iff (running other)).trans tallies.clipped
      zeroCurvature := ?_, optimal := ?_, budgetExhausted := ?_
      solved := tallies.isSolved_iff
      warnings := ?_ }
  · intro others
    simp only [List.mem_cons, List.not_mem_nil, or_false, not_or] at others
    have going := running others.1
    exact (status_eq_zeroCurvature_iff going (inside going others.2)).trans tallies.flat
  · intro others
    simp only [List.mem_cons, List.not_mem_nil, or_false, not_or] at others
    have going := running others.1
    have bounded := inside going others.2.1
    exact status_eq_solved_iff going ⟨curved going bounded others.2.2, bounded⟩
  · intro others
    simp only [List.mem_cons, List.not_mem_nil, or_false, not_or] at others
    have going := running others.1
    have bounded := inside going others.2.1
    have underway : last.Underway := ⟨curved going bounded others.2.2.1, bounded⟩
    have rough : last.isOptimal opening.threshold = false :=
      eq_false_of_ne_true fun optimal =>
        others.2.2.2 ((status_eq_solved_iff going underway).mpr optimal)
    obtain ⟨status, spent⟩ := status_of_not_isOptimal going underway ended rough
    exact ⟨status, congrArg Int.ofNat spent⟩
  · have same : (last.iterations : Int) = settings.budget ↔ last.iterations = settings.budget :=
      Int.ofNat_inj
    rw [show (problem.reported settings (some (last.figures opening))
      (last.warnings settings opening.threshold)
      (last.settle settings opening.threshold workspace).stats).warnings =
        last.warnings settings opening.threshold from rfl, warnings_eq within]
    simp only [← same]
    rfl

end Tallies

end Course

variable [VectorArithmetic R X] [VectorArithmetic R Y]
variable {problem : Problem J R X Y} {before final : RunState J R X Y} {turns : List (Turn J R X Y)}
variable {report : Report R}

theorem Account.tells_zero
    (account : Account problem settings observer before turns (.ok report, final))
    (zero : isZero (VectorArithmetic.norm problem.rightHandSide : R) = true) :
    report.figures? = none ∧ report.stats.iterations = 0 ∧ report.stats.solved = true ∧
      report.stats.inconsistent = false ∧ report.stats.status = .zeroRightHandSide ∧
      report.warnings = [] := by
  cases account with
  | zero _ answered =>
      rw [solveZero_apply] at answered
      cases answered
      obtain ⟨solved, status, count⟩ :=
        Workspace.stats_answered (problem.entered settings before).workspace
      exact ⟨rfl, count, solved, Workspace.inconsistent_answered _, status, rfl⟩
  | judged nonzero =>
      rw [zero] at nonzero
      cases nonzero

theorem Account.tells_nonzero
    (account : Account problem settings observer before turns (.ok report, final))
    (nonzero : isZero (VectorArithmetic.norm problem.rightHandSide : R) = false) :
    ∃ figures, report.figures? = some figures ∧
      report.Tells settings.budget (turns.getLast?.bind Turn.step?)
        (Run.lastAnswer? observer (Turn.consulted turns)) figures ∧
      report.stats.iterations = (Turn.consulted turns).length ∧
      ∀ turn ∈ turns.getLast?, turn.step? ≠ some .full →
        turn.landing? = some final.workspace.solution := by
  cases account with
  | zero zero =>
      rw [zero] at nonzero
      cases nonzero
  | judged _ opens unfolds within ended closed =>
      obtain ⟨start, rfl⟩ := opening_of_openCourse opens
      have tallies := unfolds.tallies ⟨rfl, rfl⟩ rfl rfl
      rw [closeCourse_eq] at closed
      cases closed
      exact ⟨_, rfl, tallies.tells problem _ within ended,
        congrArg Int.ofNat tallies.iterations, tallies.landing⟩

/-- The report of a solve that returns, in any arithmetic and whatever the observer does: it tells
what the last step was, what the observer answered last and where the figures stand against the
threshold. A step to the sphere or along the gradient leads to the solution that is left in the
workspace. -/
theorem reports_tell_the_end (problem : Problem J R X Y) (settings : Settings R)
    (observer : Run J R X Y Bool) (before : RunState J R X Y) {report : Report R}
    {final : RunState J R X Y}
    (returned : solve problem settings observer before = (.ok report, final)) :
    let lastTurn? := (solveTurns problem settings observer before).getLast?
    let asked := consultations problem settings observer before
    (isZero (VectorArithmetic.norm problem.rightHandSide : R) = true →
      report.figures? = none ∧ report.stats.iterations = 0 ∧ report.stats.solved = true ∧
        report.stats.inconsistent = false ∧ report.stats.status = .zeroRightHandSide ∧
        report.warnings = []) ∧
    (isZero (VectorArithmetic.norm problem.rightHandSide : R) = false →
      ∃ figures, report.figures? = some figures ∧
        report.Tells settings.budget (lastTurn?.bind Turn.step?) (Run.lastAnswer? observer asked)
          figures ∧
        report.stats.iterations = asked.length ∧
        ∀ turn ∈ lastTurn?, turn.step? ≠ some .full →
          turn.landing? = some final.workspace.solution) := by
  intro lastTurn? asked
  have account := solve_account problem settings observer before
  rw [returned] at account
  exact ⟨account.tells_zero, account.tells_nonzero⟩

/-! ### Three equations in two unknowns -/

def Request.tall : Request :=
  { operatorSource :=
      .dense
        { elementType := .float64, shape := [3, 2]
          entries := [1.0, 0.0, 0.0, 2.0, 1.0, 1.0].map Entry.ofReal }
    data := .array (.vector .float64 ([1.0, 2.0, 5.0].map Entry.ofReal))
    keywords := { budget := .integer 1, keepsHistory := .truth true } }

def Workspace.tall : MachineWorkspace :=
  .fresh 3 2 .float64 (.zeros .float64 2) (.zeros .float64 3)

/-- In the iteration that uses up its budget a solve is stopped by its observer. The wish of the
observer is reported, and the missing iterations are warned of all the same. -/
theorem reports_tell_the_end_tall :
    ∃ options problem before report final,
      Request.tall.prepare.outcome = .ok (options, problem) ∧
        solveWith options problem (Script.exitAt 1).observe before = (.ok report, final) ∧
        report.stats.status = .userExit ∧ report.stats.solved = false ∧
        Run.lastAnswer? (Script.exitAt 1).observe
          (consultations problem
            (options.resolve problem.rows problem.columns problem.tolerance)
            (Script.exitAt 1).observe before) = some (.ok true) ∧
        ∃ figures, report.figures? = some figures ∧
          le figures.optimality figures.threshold = false ∧
          report.warnings =
            [{ iterations := 1, optimality := figures.optimality,
               threshold := figures.threshold }] := by
  let view (report : Report Float) : Status × Bool × List Nat × Bool :=
    (report.stats.status, report.stats.solved, report.warnings.map Shortfall.iterations,
      report.figures?.isSome)
  have computed : (solveInPlace Request.tall.prepare (Script.exitAt 1).observe
      (.ofWorkspace .tall)).1.toOption.map view = some (.userExit, false, [1], true) := by
    decide +kernel
  obtain ⟨options, problem, before, report, final, ready, returned, viewed⟩ :=
    solveWith_of_view computed
  simp only [view, Prod.mk.injEq] at viewed
  obtain ⟨status, unsolved, warned, judged⟩ := viewed
  obtain ⟨blank, told⟩ := reports_tell_the_end problem _ _ _ returned
  cases zero : isZero (VectorArithmetic.norm problem.rightHandSide : Float) with
  | true =>
      rw [(blank zero).1] at judged
      cases judged
  | false =>
      obtain ⟨figures, shown, tells, _⟩ := told zero
      have rough : le figures.optimality figures.threshold = false :=
        eq_false_of_ne_true fun small => by
          have solved := tells.solved.mpr (.inl small)
          rw [unsolved] at solved
          cases solved
      refine ⟨options, problem, before, report, final, ready, returned, status, unsolved,
        tells.userExit.mp status, figures, shown, rough, ?_⟩
      have warnings := tells.warnings
      split at warnings
      · rw [warnings] at warned ⊢
        have budget := List.singleton_inj.mp warned
        dsimp only at budget
        rw [budget]
      · rw [warnings] at warned
        cases warned

end ConjugateResidual

import ConjugateResidual.Solve

/-!
What the parts of a solve do besides the work on the vectors: the lines that they print, the
records that they keep, and when the observer is asked. In any arithmetic.
-/

namespace ConjugateResidual

open Arithmetic

theorem of_bind_eq_ok {A B E : Type} {outcome : Except E A} {next : A → Except E B}
    {result : B} (bound : (outcome >>= next) = .ok result) :
    ∃ value, outcome = .ok value ∧ next value = .ok result := by
  cases outcome with
  | error fault => cases bound
  | ok value => exact ⟨value, rfl, bound⟩

variable {J R X Y : Type}
variable (problem : Problem J R X Y) (settings : Settings R) (observer : Run J R X Y Bool)
variable (state : RunState J R X Y)

theorem report_apply (interval iterations : Nat) (progress : Progress R) :
    report interval iterations progress state =
      (.ok (),
        { state with
          printed :=
            state.printed ++
              if isDue interval iterations then
                [.progress iterations progress.optimality progress.residual]
              else [] }) := by
  unfold report
  cases isDue interval iterations with
  | true => rfl
  | false => simp only [Bool.false_eq_true, if_false, List.append_nil, Run.pure_apply]

def Workspace.completed (iterations : Nat) (progress : Progress R) (workspace : Workspace R X Y) :
    Workspace R X Y :=
  { workspace with
    recorder :=
      ({ workspace.recorder with iterations } |>.recordResidual progress.residual
        |>.recordOptimality progress.optimality) }

theorem Workspace.keepsHistory_completed (iterations : Nat) (progress : Progress R)
    (workspace : Workspace R X Y) :
    (workspace.completed iterations progress).recorder.keepsHistory =
      workspace.recorder.keepsHistory := by
  unfold Workspace.completed
  rw [Recorder.keepsHistory_recordOptimality, Recorder.keepsHistory_recordResidual]

def RunState.consulted (iterations : Nat) (progress : Progress R) : RunState J R X Y :=
  { state with
    printed :=
      state.printed ++
        if isDue settings.interval iterations then
          [.progress iterations progress.optimality progress.residual]
        else []
    workspace := state.workspace.completed iterations progress }

/-- The observer is asked about the completed iteration, after its line has been printed. -/
theorem complete_eq (iterations : Nat) (progress : Progress R) :
    complete settings observer iterations progress state =
      observer (state.consulted settings iterations progress) := by
  unfold complete
  rw [Run.bind_of_ok (Run.update_apply _ state), Run.bind_of_ok (report_apply _ _ _ _)]
  rfl

def Course.completed (course : Course R) (progress : Progress R) : Run J R X Y (Course R) := do
  let exited ← complete settings observer (course.iterations + 1) progress
  pure { course with toProgress := progress, iterations := course.iterations + 1, exited }

theorem Course.completed_eq (course : Course R) (progress : Progress R)
    (state : RunState J R X Y) :
    course.completed settings observer progress state =
      let asked := observer (state.consulted settings (course.iterations + 1) progress)
      (asked.1.map fun exited =>
        { course with toProgress := progress, iterations := course.iterations + 1, exited },
        asked.2) := by
  unfold Course.completed
  rw [Run.bind_apply, complete_eq]
  generalize observer _ = asked
  obtain ⟨outcome, after⟩ := asked
  cases outcome with
  | error fault => rfl
  | ok exited => rfl

theorem Course.completed_apply (course : Course R) (progress : Progress R)
    (state : RunState J R X Y) :
    ∃ printed, course.completed settings observer progress state =
      let asked :=
        observer
          { state with
            printed, workspace := state.workspace.completed (course.iterations + 1) progress }
      (asked.1.map fun exited =>
        { course with toProgress := progress, iterations := course.iterations + 1, exited },
        asked.2) :=
  ⟨_, course.completed_eq settings observer progress state⟩

theorem Course.of_completed_eq_ok {settings : Settings R} {observer : Run J R X Y Bool}
    {course next : Course R} {progress : Progress R} {state after : RunState J R X Y}
    (completes : course.completed settings observer progress state = (.ok next, after)) :
    ∃ exited,
      next =
        { course with
          toProgress := progress, iterations := course.iterations + 1, exited } := by
  obtain ⟨printed, asks⟩ := course.completed_apply settings observer progress state
  rw [asks] at completes
  have answered := congrArg Prod.fst completes
  dsimp only at answered
  cases asked : (observer
      { state with
        printed,
        workspace := state.workspace.completed (course.iterations + 1) progress }).1 with
  | error fault =>
      rw [asked] at answered
      cases answered
  | ok exited =>
      rw [asked] at answered
      cases answered
      exact ⟨exited, rfl⟩

def Course.continued (course : Course R) (progress : Progress R) : Course R :=
  { course with toProgress := progress, iterations := course.iterations + 1, exited := false }

theorem Course.completed_neverExit (course : Course R) (progress : Progress R)
    (state : RunState J R X Y) :
    ∃ after, course.completed settings neverExit progress state =
      (.ok (course.continued progress), after) := by
  obtain ⟨printed, asks⟩ := course.completed_apply settings neverExit progress state
  exact ⟨_, asks⟩

def Workspace.settled (iterations : Nat) (solved : Bool) (status : Status)
    (workspace : Workspace R X Y) : Workspace R X Y :=
  { workspace with
    recorder := { workspace.recorder with iterations, solved, inconsistent := false, status } }

def Problem.reported (figures? : Option (Figures R)) (warnings : List (Shortfall R))
    (stats : Snapshot R) : Report R :=
  { stats, budget := settings.budget, ridge := settings.ridge, radius := settings.radius
    mode? := problem.weight?.map Weight.mode
    figures?, warnings }

section Preparation

variable [VectorArithmetic R X] [VectorArithmetic R Y]

def Problem.prepared (workspace : Workspace R X Y) : Workspace R X Y :=
  { workspace with
    solution := VectorArithmetic.cleared workspace.solution
    residual := problem.rightHandSide
    weighted? :=
      if problem.weight?.isSome then workspace.withBuffer.weighted? else workspace.weighted?
    recorder :=
      (Recorder.cleared settings.keepsHistory).recordResidual
        (VectorArithmetic.norm problem.rightHandSide) }

theorem announce_eq :
    announce problem settings state =
      (.ok (VectorArithmetic.norm problem.rightHandSide),
        { state with
          printed :=
            state.printed ++
              if 0 < settings.interval then [.banner problem.rows problem.columns] else []
          workspace := problem.prepared settings state.workspace }) := by
  unfold announce announceFrom setUp Problem.prepared
  by_cases shown : 0 < settings.interval
  · by_cases weighted : problem.weight?.isSome
    · simp only [if_pos shown, if_pos weighted]
      rfl
    · simp only [if_pos shown, if_neg weighted]
      rfl
  · by_cases weighted : problem.weight?.isSome
    · simp only [if_neg shown, if_pos weighted, List.append_nil]
      rfl
    · simp only [if_neg shown, if_neg weighted, List.append_nil]
      rfl

theorem announce_apply :
    ∃ printed, announce problem settings state =
      (.ok (VectorArithmetic.norm problem.rightHandSide),
        { state with printed, workspace := problem.prepared settings state.workspace }) :=
  ⟨_, announce_eq problem settings state⟩

theorem of_announce_eq {norm : R} {entered : RunState J R X Y} {problem : Problem J R X Y}
    {settings : Settings R} {state : RunState J R X Y}
    (announced : announce problem settings state = (.ok norm, entered)) :
    norm = VectorArithmetic.norm problem.rightHandSide ∧
      ∃ printed, entered =
        { state with printed, workspace := problem.prepared settings state.workspace } := by
  obtain ⟨printed, announces⟩ := announce_apply problem settings state
  rw [announces] at announced
  cases announced
  exact ⟨rfl, printed, rfl⟩

end Preparation

variable [Arithmetic R]

def Workspace.answered (workspace : Workspace R X Y) : Workspace R X Y :=
  { workspace with
    recorder :=
      (workspace.settled 0 true .zeroRightHandSide).recorder.recordOptimality 0 }

theorem Workspace.stats_answered (workspace : Workspace R X Y) :
    workspace.answered.stats.solved = true ∧
      workspace.answered.stats.status = .zeroRightHandSide ∧
        workspace.answered.stats.iterations = 0 := by
  unfold Workspace.answered Workspace.stats Recorder.snapshot Recorder.recordOptimality
  split
  · exact ⟨rfl, rfl, rfl⟩
  · exact ⟨rfl, rfl, rfl⟩

theorem Workspace.inconsistent_answered (workspace : Workspace R X Y) :
    workspace.answered.stats.inconsistent = false := by
  unfold Workspace.answered Workspace.stats Recorder.snapshot Recorder.recordOptimality
  split
  · rfl
  · rfl

theorem solveZero_apply :
    solveZero problem settings state =
      let answered := state.workspace.answered
      (.ok (problem.reported settings none [] answered.stats),
        { state with workspace := answered }) :=
  rfl

def Course.settle (threshold : R) (course : Course R) (workspace : Workspace R X Y) :
    Workspace R X Y :=
  workspace.settled course.iterations (course.isSolved threshold)
    (course.status settings threshold)

def Course.figures (opening : Opening R) (course : Course R) : Figures R :=
  { initialOptimality := opening.course.optimality, threshold := opening.threshold
    optimality := course.optimality, residual := course.residual }

/-- Whatever happened before, the end of a course is judged. -/
theorem closeCourse_eq (opening : Opening R) (course : Course R) :
    closeCourse problem settings opening course state =
      let settled := course.settle settings opening.threshold state.workspace
      (.ok
        (problem.reported settings (some (course.figures opening))
          (course.warnings settings opening.threshold) settled.stats),
        { state with
          printed := state.printed ++ if 0 < settings.interval then [.blank] else []
          workspace := settled }) := by
  unfold closeCourse
  by_cases shown : 0 < settings.interval
  · simp only [if_pos shown]
    rfl
  · simp only [if_neg shown, List.append_nil]
    rfl

theorem of_closeCourse_eq {problem : Problem J R X Y} {settings : Settings R}
    {state final : RunState J R X Y} {opening : Opening R} {course : Course R}
    {outcome : Except (Fault R) (Report R)}
    (closed : closeCourse problem settings opening course state = (outcome, final)) :
    ∃ printed figures,
      let settled := course.settle settings opening.threshold state.workspace
      outcome =
          .ok (problem.reported settings (some figures)
            (course.warnings settings opening.threshold) settled.stats) ∧
        final = { state with printed, workspace := settled } := by
  rw [closeCourse_eq] at closed
  cases closed
  exact ⟨_, _, rfl, rfl⟩

theorem figures_of_closeCourse_eq {problem : Problem J R X Y} {settings : Settings R}
    {state final : RunState J R X Y} {opening : Opening R} {course : Course R} {report : Report R}
    (closed : closeCourse problem settings opening course state = (.ok report, final)) :
    report.figures? = some (course.figures opening) := by
  rw [closeCourse_eq] at closed
  cases closed
  rfl

theorem Problem.optimalities_answered [VectorArithmetic R X] [VectorArithmetic R Y]
    (workspace : Workspace R X Y) :
    (problem.prepared settings workspace).answered.recorder.optimalities =
      if settings.keepsHistory then [0] else [] := by
  unfold Workspace.answered Workspace.settled Problem.prepared
  rw [Recorder.optimalities_recordOptimality]
  unfold Recorder.recordResidual Recorder.cleared
  cases settings.keepsHistory with
  | false => rfl
  | true => rfl

theorem Problem.residuals_answered [VectorArithmetic R X] [VectorArithmetic R Y]
    (workspace : Workspace R X Y) :
    (problem.prepared settings workspace).answered.recorder.residuals =
      if settings.keepsHistory then [VectorArithmetic.norm problem.rightHandSide] else [] := by
  unfold Workspace.answered Workspace.settled Problem.prepared Recorder.recordOptimality
    Recorder.recordResidual Recorder.cleared
  cases settings.keepsHistory with
  | false => rfl
  | true => rfl

def Progress.opening (start : Progress R) : Opening R :=
  { threshold := settings.absolute + settings.relative * start.optimality
    course := { start with iterations := 0, flat := false, clipped := false, exited := false } }

variable [VectorArithmetic R X] [VectorArithmetic R Y] {problem state}

/-- The header and the line of the start are printed after the launch. -/
theorem openCourse_eq {norm : R} {start : Progress R} {after : RunState J R X Y}
    (launches : launch problem settings norm state = (.ok start, after)) :
    openCourse problem settings norm state =
      (.ok (start.opening settings),
        { after with
          printed :=
            after.printed ++
              if 0 < settings.interval then
                [.header, .progress 0 start.optimality start.residual]
              else [] }) := by
  unfold openCourse
  rw [Run.bind_of_ok launches]
  by_cases shown : 0 < settings.interval
  · have due : isDue settings.interval 0 = true := by simp [isDue, shown]
    simp only [if_pos shown]
    rw [Run.bind_of_ok (Run.print_apply _ _), Run.bind_of_ok (report_apply _ _ _ _), due]
    simp only [if_true, List.append_assoc, List.cons_append, List.nil_append]
    rfl
  · have silent : isDue settings.interval 0 = false := by simp [isDue, shown]
    simp only [if_neg shown]
    rw [Run.bind_of_ok (report_apply _ _ _ _), silent]
    rfl

theorem openCourse_of_launch {norm : R} {start : Progress R} {after : RunState J R X Y}
    (launches : launch problem settings norm state = (.ok start, after)) :
    ∃ printed, openCourse problem settings norm state =
      (.ok (start.opening settings), { after with printed }) :=
  ⟨_, openCourse_eq settings launches⟩

theorem openCourse_of_fault {norm : R} {fault : Fault R} {after : RunState J R X Y}
    (launches : launch problem settings norm state = (.error fault, after)) :
    openCourse problem settings norm state = (.error fault, after) :=
  Run.bind_of_error launches _

theorem solveFresh_of_ok {prepared : Reply J R (Options R × Problem J R X Y)}
    {options : Options R} (ready : prepared.outcome = .ok (options, problem)) {trail : Trail J R}
    {report : Report R} {final : RunState J R X Y}
    (solves :
      solveWith options problem observer
          { trail with
            journal := trail.journal ++ prepared.journal
            workspace := problem.freshWorkspace } =
        (.ok report, final)) :
    solveFresh prepared observer trail = (.ok (final.workspace, report), final.toTrail) := by
  unfold solveFresh
  simp only [ready, solves]
  rfl

theorem solveFresh_of_fault {prepared : Reply J R (Options R × Problem J R X Y)}
    {options : Options R} (ready : prepared.outcome = .ok (options, problem)) {trail : Trail J R}
    {fault : Fault R} {final : RunState J R X Y}
    (fails :
      solveWith options problem observer
          { trail with
            journal := trail.journal ++ prepared.journal
            workspace := problem.freshWorkspace } =
        (.error fault, final)) :
    solveFresh prepared observer trail = (.error fault, final.toTrail) := by
  unfold solveFresh
  simp only [ready, fails]
  rfl

theorem solveInPlace_of_error {prepared : Reply J R (Options R × Problem J R X Y)}
    {fault : Fault R} (unready : prepared.outcome = .error fault) {observer : Run J R X Y Bool}
    {state : RunState J R X Y} :
    solveInPlace prepared observer state =
      (.error fault, { state with journal := state.journal ++ prepared.journal }) := by
  unfold solveInPlace
  rw [Run.bind_apply, Run.perform_apply, unready]

/-- A prepared problem is solved on the present workspace if it fits. -/
theorem solveInPlace_eq {prepared : Reply J R (Options R × Problem J R X Y)} {options : Options R}
    (ready : prepared.outcome = .ok (options, problem)) (observer : Run J R X Y Bool)
    (state : RunState J R X Y) :
    solveInPlace prepared observer state =
      let entered := { state with journal := state.journal ++ prepared.journal }
      match state.workspace.checkFits problem.rows problem.columns problem.field with
      | .error fault => (.error fault, entered)
      | .ok () => solveWith options problem observer entered := by
  unfold solveInPlace
  rw [Run.bind_apply, Run.perform_apply, ready]
  dsimp only
  rw [Run.bind_of_ok (Run.workspace_apply _), Run.bind_apply, Run.ofExcept_apply]
  dsimp only
  cases state.workspace.checkFits (R := R) problem.rows problem.columns problem.field with
  | error fault => rfl
  | ok => rfl

theorem of_solveInPlace_eq_ok {prepared : Reply J R (Options R × Problem J R X Y)}
    {options : Options R} (ready : prepared.outcome = .ok (options, problem))
    {observer : Run J R X Y Bool} {state final : RunState J R X Y} {report : Report R}
    (returned : solveInPlace prepared observer state = (.ok report, final)) :
    solveWith options problem observer
        { state with journal := state.journal ++ prepared.journal } = (.ok report, final) := by
  rw [solveInPlace_eq ready] at returned
  dsimp only at returned
  split at returned
  · cases returned
  · exact returned

/-- A solve in place that returns is a solve of the problem that was prepared. -/
theorem solveWith_of_view {V : Type} {view : Report R → V} {value : V}
    {prepared : Reply J R (Options R × Problem J R X Y)} {observer : Run J R X Y Bool}
    {state : RunState J R X Y}
    (viewed : (solveInPlace prepared observer state).1.toOption.map view = some value) :
    ∃ options problem before report final,
      prepared.outcome = .ok (options, problem) ∧
        solveWith options problem observer before = (.ok report, final) ∧
        view report = value := by
  cases returned : solveInPlace prepared observer state with
  | mk outcome final =>
      rw [returned] at viewed
      cases outcome with
      | error fault => cases viewed
      | ok report =>
          cases ready : prepared.outcome with
          | error fault =>
              rw [solveInPlace_of_error ready] at returned
              cases returned
          | ok posed =>
              exact ⟨posed.1, posed.2, _, report, final, rfl, of_solveInPlace_eq_ok ready returned,
                Option.some.inj viewed⟩

theorem solveInPlace_freshWorkspace {prepared : Reply J R (Options R × Problem J R X Y)}
    {options : Options R} (ready : prepared.outcome = .ok (options, problem))
    (observer : Run J R X Y Bool) (trail : Trail J R) :
    solveInPlace prepared observer { trail with workspace := problem.freshWorkspace } =
      solveWith options problem observer
        { trail with
          journal := trail.journal ++ prepared.journal
          workspace := problem.freshWorkspace } := by
  have fits : (problem.freshWorkspace : Workspace R X Y).checkFits (R := R) problem.rows
      problem.columns problem.field = .ok () := by
    unfold Workspace.checkFits
    rw [if_neg (fun differs => differs rfl), if_neg (fun differs => differs rfl)]
  rw [solveInPlace_eq ready]
  dsimp only
  rw [fits]

def freshEnd (ended : Except (Fault R) (Report R) × RunState J R X Y) :
    Except (Fault R) (Workspace R X Y × Report R) × Trail J R :=
  (ended.1.map fun report => (ended.2.workspace, report), ended.2.toTrail)

theorem solveFresh_eq {prepared : Reply J R (Options R × Problem J R X Y)} {options : Options R}
    (ready : prepared.outcome = .ok (options, problem)) (observer : Run J R X Y Bool)
    (trail : Trail J R) :
    solveFresh prepared observer trail =
      freshEnd
        (solveInPlace prepared observer { trail with workspace := problem.freshWorkspace }) := by
  rw [solveInPlace_freshWorkspace ready]
  unfold solveFresh
  simp only [ready]
  rfl

theorem solveInPlace_of_solveFresh {prepared : Reply J R (Options R × Problem J R X Y)}
    {observer : Run J R X Y Bool} {trail after : Trail J R} {workspace : Workspace R X Y}
    {report : Report R}
    (returned : solveFresh prepared observer trail = (.ok (workspace, report), after)) :
    ∃ options problem, prepared.outcome = .ok (options, problem) ∧
      solveInPlace prepared observer { trail with workspace := problem.freshWorkspace } =
        (.ok report, { after with workspace }) := by
  cases ready : prepared.outcome with
  | error fault =>
      unfold solveFresh at returned
      simp only [ready] at returned
      cases returned
  | ok posed =>
      obtain ⟨options, problem⟩ := posed
      refine ⟨options, problem, rfl, ?_⟩
      rw [solveFresh_eq ready] at returned
      generalize solveInPlace prepared observer _ = ended at returned ⊢
      obtain ⟨outcome, final⟩ := ended
      cases outcome with
      | error fault => cases returned
      | ok report =>
          cases returned
          rfl

end ConjugateResidual

import ConjugateResidual.Proofs.Course.Upkeep

/-!
Whole solves that keep step. The bond lasts while both sides print and record alike; the observers
are a pair that keeps step as well. The two reports differ in nothing but the mode of the
preconditioner.
-/

namespace ConjugateResidual

open Arithmetic

variable {J R X Y : Type}
variable {bond : Surroundings J R → Surroundings J R → Prop} {copies : Option Y → Option Y → Prop}
variable {space : Y → Prop} {problem problem' : Problem J R X Y} {settings : Settings R}
variable {observer observer' : Run J R X Y Bool} {pre : Vectors X Y → Prop}

/-- Observers keep step if they leave a held workspace alone and answer alike. -/
theorem Run.Respects.lockstep (respects : Run.Respects observer)
    (respects' : Run.Respects observer')
    (answers : ∀ state state', state.Together bond copies state' →
      state.workspace.busy = true ∧ state'.workspace.busy = true ∧
        (observer' state').1 = (observer state).1 ∧
        bond { toTrail := (observer state).2.toTrail, toFrame := state.workspace.frame }
          { toTrail := (observer' state').2.toTrail, toFrame := state'.workspace.frame }) :
    Run.Lockstep bond copies pre observer observer' (fun _ => True) pre := by
  intro state state' together starts
  obtain ⟨busy, busy', outcome, bonded⟩ := answers state state' together
  have kept := respects state busy
  have kept' := respects' state' busy'
  refine { outcome, together := ?_, given := fun _ _ => ⟨trivial, ?_⟩ }
  · refine { bonded := ?_, vectors := ?_, copies := ?_ }
    · unfold RunState.surroundings
      rw [kept, kept']
      exact bonded
    · unfold RunState.vectors
      rw [kept, kept']
      exact together.vectors
    · rw [kept, kept']
      exact together.copies
  · unfold RunState.vectors
    rw [kept]
    exact starts

section Reporting

variable (alike : RecordsAlike bond)
include alike

theorem report_lockstep (interval iterations : Nat) (progress : Progress R) :
    Run.Lockstep (J := J) (X := X) (Y := Y) bond copies pre (report interval iterations progress)
      (report interval iterations progress) (fun _ => True) pre := by
  unfold report
  split
  · exact .print alike _
  · exact .pure trivial

private theorem complete_lockstep
    (observes : Run.Lockstep bond copies pre observer observer' (fun _ => True) pre)
    (iterations : Nat) (progress : Progress R) :
    Run.Lockstep bond copies pre (complete settings observer iterations progress)
      (complete settings observer' iterations progress) (fun _ => True) pre := by
  unfold complete
  refine .bind (.record alike fun recorder =>
    { recorder with iterations } |>.recordResidual progress.residual
      |>.recordOptimality progress.optimality) fun _ _ => ?_
  exact .bind (report_lockstep alike _ _ _) fun _ _ => observes

private theorem settleAttempt_lockstep
    (observes : Run.Lockstep bond copies pre observer observer' (fun _ => True) pre)
    (course : Course R) (tried : Course R ⊕ Progress R) :
    Run.Lockstep bond copies pre (course.settleAttempt settings observer tried)
      (course.settleAttempt settings observer' tried) (fun _ => True) pre := by
  cases tried with
  | inl next => exact .pure trivial
  | inr progress => exact .bind (complete_lockstep alike observes _ _) fun _ _ => .pure trivial

end Reporting

variable [Arithmetic R] [VectorArithmetic R X] [VectorArithmetic R Y]

def runCourse (problem : Problem J R X Y) (settings : Settings R) (observer : Run J R X Y Bool)
    (rightHandSideNorm : R) : Run J R X Y (Opening R × Course R) := do
  let opening ← openCourse problem settings rightHandSideNorm
  let course ←
    iterations problem settings observer opening.threshold settings.budget opening.course
  pure (opening, course)

theorem solveNonzero_eq (norm : R) :
    solveNonzero problem settings observer norm =
      runCourse problem settings observer norm >>= fun (opening, course) =>
        closeCourse problem settings opening course := by
  unfold solveNonzero runCourse
  simp only [bind_assoc, pure_bind]

section Paired

variable (alike : RecordsAlike bond) (paired : problem.Paired bond copies space problem')
include alike paired

private theorem openCourse_lockstep (norm : R) :
    Run.Lockstep bond copies (fun vectors => space vectors.residual)
      (openCourse problem settings norm) (openCourse problem' settings norm) (fun _ => True)
      (Vectors.ImagesIn space) := by
  unfold openCourse
  rw [launch_eq, launch_eq]
  have launched : Run.Lockstep bond copies (fun vectors => space vectors.residual)
      (gather problem settings norm >>= recordStart)
      (gather problem' settings norm >>= recordStart) (fun _ => True)
      (Vectors.ImagesIn space) := by
    refine .bind (gather_lockstep settings paired norm) fun start _ => ?_
    exact .bind (.record alike fun recorder => recorder.recordOptimality start.optimality)
      fun _ _ => .pure trivial
  refine .bind launched fun start _ => ?_
  split
  · refine .bind (.print alike _) fun _ _ => ?_
    exact .bind (report_lockstep alike _ _ _) fun _ _ => .pure trivial
  · exact .bind (report_lockstep alike _ _ _) fun _ _ => .pure trivial

variable (observes : Run.Lockstep bond copies (Vectors.ImagesIn space) observer observer'
  (fun _ => True) (Vectors.ImagesIn space))
include observes

private theorem iterate_lockstep (threshold : R) (course : Course R) :
    Run.Lockstep bond copies (Vectors.ImagesIn space)
      (iterate problem settings observer threshold course)
      (iterate problem' settings observer' threshold course) (fun _ => True)
      (Vectors.ImagesIn space) := by
  rw [iterate_eq, iterate_eq]
  exact .bind (attempt_lockstep settings paired threshold course) fun tried _ =>
    settleAttempt_lockstep alike observes course tried

theorem iterations_lockstep (threshold : R) (remaining : Nat) (course : Course R) :
    Run.Lockstep bond copies (Vectors.ImagesIn space)
      (iterations problem settings observer threshold remaining course)
      (iterations problem' settings observer' threshold remaining course) (fun _ => True)
      (Vectors.ImagesIn space) := by
  induction remaining generalizing course with
  | zero => exact .pure trivial
  | succ remaining ih =>
      unfold iterations
      split
      · exact .pure trivial
      · exact .bind (iterate_lockstep alike paired observes threshold course) fun next _ => ih next

variable (settings) in
private theorem runCourse_lockstep (norm : R) :
    Run.Lockstep bond copies (fun vectors => space vectors.residual)
      (runCourse problem settings observer norm) (runCourse problem' settings observer' norm)
      (fun _ => True) (Vectors.ImagesIn space) := by
  unfold runCourse
  refine .bind (openCourse_lockstep alike paired norm) fun opening _ => ?_
  exact .bind (iterations_lockstep alike paired observes _ _ _) fun _ _ => .pure trivial

end Paired

/-! ### Whole solves -/

variable (bond copies) in
structure SolvedAlike (mode? : Option Mode)
    (result result' : Except (Fault R) (Report R) × RunState J R X Y) : Prop where
  outcome : result'.1 = result.1.map ({ · with mode? })
  together : result.2.Together bond copies result'.2

section Solving

variable (alike : RecordsAlike bond)
include alike

omit [Arithmetic R] [VectorArithmetic R X] [VectorArithmetic R Y] in
/-- The records are changed alike after the same lines have been printed or left out. -/
theorem RunState.Together.recorded {state state' : RunState J R X Y}
    (together : state.Together bond copies state') (line? : Option (Line R))
    (change : Recorder R → Recorder R) :
    RunState.Together bond copies
      { state with
        printed := state.printed ++ line?.toList
        workspace := { state.workspace with recorder := change state.workspace.recorder } }
      { state' with
        printed := state'.printed ++ line?.toList
        workspace := { state'.workspace with recorder := change state'.workspace.recorder } } := by
  refine { vectors := together.vectors, copies := together.copies, bonded := ?_ }
  cases line? with
  | none =>
      simp only [Option.toList_none, List.append_nil]
      exact alike.record change together.bonded
  | some line => exact alike.record change (alike.print line together.bonded)

omit [VectorArithmetic R X] [VectorArithmetic R Y] in
theorem solveZero_solvedAlike {entered entered' : RunState J R X Y}
    (together : entered.Together bond copies entered') :
    SolvedAlike bond copies (problem'.weight?.map Weight.mode)
      (solveZero problem settings entered) (solveZero problem' settings entered') := by
  have answered := together.recorded alike none fun recorder =>
    { recorder with
      iterations := 0, solved := true, inconsistent := false,
      status := .zeroRightHandSide }.recordOptimality 0
  simp only [Option.toList_none, List.append_nil] at answered
  rw [solveZero_apply, solveZero_apply]
  refine { outcome := ?_, together := answered }
  have same := alike.recorder answered.bonded
  exact congrArg (fun recorder : Recorder R =>
    Except.ok (problem'.reported settings none [] recorder.snapshot)) same

omit [VectorArithmetic R X] [VectorArithmetic R Y] in
private theorem closeCourse_solvedAlike {state state' : RunState J R X Y}
    (together : state.Together bond copies state') (opening : Opening R) (course : Course R) :
    SolvedAlike bond copies (problem'.weight?.map Weight.mode)
      (closeCourse problem settings opening course state)
      (closeCourse problem' settings opening course state') := by
  have settled := together.recorded alike (if 0 < settings.interval then some .blank else none)
    fun recorder =>
      { recorder with
        iterations := course.iterations, solved := course.isSolved opening.threshold,
        inconsistent := false, status := course.status settings opening.threshold }
  have lines : (if 0 < settings.interval then some Line.blank else none).toList =
      if 0 < settings.interval then [(.blank : Line R)] else [] := by
    split
    · rfl
    · rfl
  rw [lines] at settled
  rw [closeCourse_eq, closeCourse_eq]
  refine { outcome := ?_, together := settled }
  have same := alike.recorder settled.bonded
  exact congrArg (fun recorder : Recorder R =>
    Except.ok (problem'.reported settings (some (course.figures opening))
      (course.warnings settings opening.threshold) recorder.snapshot)) same

variable (paired : problem.Paired bond copies space problem')
variable (observes : Run.Lockstep bond copies (Vectors.ImagesIn space) observer observer'
  (fun _ => True) (Vectors.ImagesIn space))
include paired observes

theorem solveNonzero_solvedAlike {entered entered' : RunState J R X Y}
    (together : entered.Together bond copies entered')
    (starts : space entered.workspace.residual) (norm : R) :
    SolvedAlike bond copies (problem'.weight?.map Weight.mode)
      (solveNonzero problem settings observer norm entered)
      (solveNonzero problem' settings observer' norm entered') := by
  obtain ⟨outcome, between, -⟩ :=
    runCourse_lockstep settings alike paired observes norm entered entered' together starts
  rw [solveNonzero_eq, solveNonzero_eq, Run.bind_apply, Run.bind_apply]
  generalize runCourse problem settings observer norm entered = ran at outcome between ⊢
  generalize runCourse problem' settings observer' norm entered' = ran' at outcome between ⊢
  obtain ⟨answer, after⟩ := ran
  obtain ⟨answer', after'⟩ := ran'
  cases outcome
  cases answer with
  | error fault => exact { outcome := rfl, together := between }
  | ok ended => exact closeCourse_solvedAlike alike between ended.1 ended.2

variable (settings) in
theorem solve_solvedAlike {state state' : RunState J R X Y} (free : state.workspace.busy = false)
    (free' : state'.workspace.busy = false)
    (together : (problem.entered settings state).Together bond copies
      (problem'.entered settings state')) :
    ∃ ended ended',
      solve problem settings observer state = (ended.1, ended.2.released) ∧
        solve problem' settings observer' state' = (ended'.1, ended'.2.released) ∧
          SolvedAlike bond copies (problem'.weight?.map Weight.mode) ended ended' := by
  have announced := announce_held problem settings state
  have announced' := announce_held problem' settings state'
  rw [paired.rightHandSide] at announced'
  cases zero : isZero (VectorArithmetic.norm problem.rightHandSide : R) with
  | true =>
      refine ⟨_, _, solve_of_zero free announced zero, solve_of_zero free' announced' zero, ?_⟩
      exact solveZero_solvedAlike alike together
  | false =>
      refine ⟨_, _, solve_of_nonzero free announced zero, solve_of_nonzero free' announced' zero,
        ?_⟩
      exact solveNonzero_solvedAlike alike paired observes together paired.starts _

end Solving

end ConjugateResidual

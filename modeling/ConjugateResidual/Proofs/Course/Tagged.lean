import ConjugateResidual.Proofs.Course.Applied

/-!
Solves whose journal also tells the applications. Every application is noted ahead of what the
operator itself notes; the observer sees the journal without these notes. The notes change nothing:
`Run.Erases` says that a run is another one but for them, and the rules follow the monad from the
operators up to a whole solve.
-/

namespace ConjugateResidual

open Arithmetic

inductive Tagged (J : Type) where
  | applied (application : Application)
  | other (note : J)

variable {J R X Y A B : Type}

namespace Tagged

def application? : Tagged J → Option Application
  | .applied application => some application
  | .other _ => none

def note? : Tagged J → Option J
  | .applied _ => none
  | .other note => some note

theorem filterMap_application?_other (notes : List J) :
    (notes.map other).filterMap application? = [] := by
  simp [List.filterMap_map, Function.comp_def, application?]

theorem filterMap_note?_other (notes : List J) : (notes.map other).filterMap note? = notes := by
  simp [List.filterMap_map, Function.comp_def, note?]

end Tagged

def Reply.tagged (application : Application) (reply : Reply J R A) : Reply (Tagged J) R A :=
  { journal := .applied application :: reply.journal.map .other, outcome := reply.outcome }

def Problem.tagged (problem : Problem J R X Y) : Problem (Tagged J) R X Y :=
  { problem with
    forward := fun vector => (problem.forward vector).tagged .forward
    adjoint := fun vector => (problem.adjoint vector).tagged .adjoint
    weight? := problem.weight?.map fun weight =>
      { weight with apply := fun vector => (weight.apply vector).tagged .weight } }

def RunState.untagged (state : RunState (Tagged J) R X Y) : RunState J R X Y :=
  { state with journal := state.journal.filterMap Tagged.note? }

def RunState.tagged (made : List Application) (state : RunState J R X Y) :
    RunState (Tagged J) R X Y :=
  { state with journal := made.map .applied ++ state.journal.map .other }

private theorem RunState.applications_tagged (made : List Application) (state : RunState J R X Y) :
    (state.tagged made).applications Tagged.application? = made := by
  unfold RunState.applications RunState.tagged
  rw [List.filterMap_append, Tagged.filterMap_application?_other, List.append_nil]
  simp [List.filterMap_map, Function.comp_def, Tagged.application?]

private theorem RunState.untagged_tagged (made : List Application) (state : RunState J R X Y) :
    (state.tagged made).untagged = state := by
  have silent : (made.map (Tagged.applied (J := J))).filterMap Tagged.note? = [] := by
    simp [List.filterMap_eq_nil_iff, Tagged.note?]
  unfold RunState.untagged RunState.tagged
  rw [List.filterMap_append, Tagged.filterMap_note?_other, silent, List.nil_append]

def Run.tagged (run : Run J R X Y A) : Run (Tagged J) R X Y A :=
  fun state =>
    let ran := run state.untagged
    (ran.1, ran.2.tagged (state.applications Tagged.application?))

theorem Problem.signs_tagged (problem : Problem J R X Y) :
    problem.tagged.Signs Tagged.application? := by
  have noted {A : Type} (application : Application) (reply : Reply J R A) :
      (reply.tagged application).journal.filterMap Tagged.application? = [application] :=
    congrArg (application :: ·) (Tagged.filterMap_application?_other reply.journal)
  refine { forward := fun _ => noted _ _, adjoint := fun _ => noted _ _, weight := ?_ }
  intro weight present vector
  obtain ⟨plain, _, rfl⟩ := Option.map_eq_some_iff.mp present
  exact noted _ _

theorem Problem.applying_tagged (problem : Problem J R X Y) (count : Nat)
    (lastStep? : Option Step) :
    problem.tagged.applying count lastStep? = problem.applying count lastStep? := by
  have weighing : problem.tagged.weighing = problem.weighing := by
    have weighted : problem.tagged.weight?.isSome = problem.weight?.isSome := Option.isSome_map
    unfold Problem.weighing
    rw [weighted]
  unfold Problem.applying Problem.launching Problem.stepping
  rw [weighing]

theorem Run.idle_tagged (observer : Run J R X Y Bool) :
    Run.Idle Tagged.application? observer.tagged :=
  fun _ => RunState.applications_tagged _ _

/-! ### Erasure -/

/-- The tagged run is the other one but for the notes of applications. -/
def Run.Erases (run' : Run (Tagged J) R X Y A) (run : Run J R X Y A) : Prop :=
  ∀ state, run state.untagged = ((run' state).1, (run' state).2.untagged)

namespace Run.Erases

theorem bind {run' : Run (Tagged J) R X Y A} {run : Run J R X Y A}
    {next' : A → Run (Tagged J) R X Y B} {next : A → Run J R X Y B} (first : run'.Erases run)
    (rest : ∀ value, (next' value).Erases (next value)) :
    (run' >>= next').Erases (run >>= next) := by
  intro state
  rw [Run.bind_apply, Run.bind_apply, first state]
  cases ran : run' state with
  | mk outcome between =>
      cases outcome with
      | error fault => rfl
      | ok value => exact rest value between

theorem pure (value : A) : (pure value : Run (Tagged J) R X Y A).Erases (pure value) :=
  fun _ => rfl

theorem ofExcept (outcome : Except (Fault R) A) :
    (Run.ofExcept outcome : Run (Tagged J) R X Y A).Erases (Run.ofExcept outcome) :=
  fun _ => rfl

theorem workspace : (Run.workspace : Run (Tagged J) R X Y _).Erases Run.workspace :=
  fun _ => rfl

theorem update (change : Workspace R X Y → Workspace R X Y) :
    (Run.update change : Run (Tagged J) R X Y Unit).Erases (Run.update change) :=
  fun _ => rfl

theorem print (line : Line R) :
    (Run.print line : Run (Tagged J) R X Y Unit).Erases (Run.print line) :=
  fun _ => rfl

theorem perform (application : Application) (reply : Reply J R A) :
    (Run.perform (reply.tagged application) : Run (Tagged J) R X Y A).Erases
      (Run.perform reply) := by
  intro state
  have noted : (reply.tagged application).journal.filterMap Tagged.note? = reply.journal :=
    Tagged.filterMap_note?_other reply.journal
  rw [Run.perform_apply, Run.perform_apply]
  unfold RunState.untagged
  rw [List.filterMap_append, noted]
  rfl

private theorem tagged (run : Run J R X Y A) : run.tagged.Erases run :=
  fun _ => Prod.ext rfl (RunState.untagged_tagged _ _).symm

theorem holding {body' : Run (Tagged J) R X Y A} {body : Run J R X Y A}
    (inside : body'.Erases body) : (Run.holding body').Erases (Run.holding body) := by
  intro state
  cases busy : state.workspace.busy with
  | true =>
      have busy' : state.untagged.workspace.busy = true := busy
      rw [Run.holding_of_busy busy, Run.holding_of_busy busy']
  | false =>
      have free : state.untagged.workspace.busy = false := busy
      have held : state.untagged.held = state.held.untagged := rfl
      rw [Run.holding_of_free busy, Run.holding_of_free free, held, inside]
      rfl

end Run.Erases

/-! ### The parts of a solve -/

variable [Arithmetic R] [VectorArithmetic R X] [VectorArithmetic R Y]
variable (problem : Problem J R X Y) (settings : Settings R)

omit [Arithmetic R] [VectorArithmetic R X] [VectorArithmetic R Y] in
theorem weigh_erases (vector : Y) :
    (problem.tagged.weigh vector).Erases (problem.weigh vector) := by
  unfold Problem.weigh
  cases weighed : problem.weight? with
  | none =>
      have untagged : problem.tagged.weight? = none := congrArg (Option.map _) weighed
      rw [untagged]
      exact .pure _
  | some weight =>
      have tagged := congrArg (Option.map fun weight : Weight J R Y =>
        { weight with apply := fun vector => (weight.apply vector).tagged .weight }) weighed
      change problem.tagged.weight? = _ at tagged
      rw [tagged]
      exact .bind (.perform _ _) fun _ => .bind (.update _) fun _ => .pure _

omit [VectorArithmetic R Y] in
theorem addRidge_erases (ridge : R) (source target : X) :
    (addRidge ridge source target : Run (Tagged J) R X Y X).Erases
      (addRidge ridge source target) := by
  unfold addRidge
  split
  · exact .ofExcept _
  · exact .pure _

private theorem residualNorm_erases (ridge : R) :
    (residualNorm ridge : Run (Tagged J) R X Y R).Erases (residualNorm ridge) := by
  unfold residualNorm
  refine .bind .workspace fun workspace => ?_
  split
  · exact .bind (.ofExcept _) fun _ => .bind (.ofExcept _) fun _ => .pure _
  · exact .pure _

omit [VectorArithmetic R X] [VectorArithmetic R Y] [Arithmetic R] in
theorem report_erases (interval iterations : Nat) (progress : Progress R) :
    (report interval iterations progress : Run (Tagged J) R X Y Unit).Erases
      (report interval iterations progress) := by
  unfold report
  split
  · exact .print _
  · exact .pure _

private theorem launch_erases (residual : R) :
    (launch problem.tagged settings residual).Erases (launch problem settings residual) := by
  unfold launch
  refine .bind .workspace fun _ => .bind (weigh_erases problem _) fun _ => ?_
  refine .bind (.perform _ _) fun _ => .bind (.update _) fun _ => ?_
  refine .bind (.perform _ _) fun _ => .bind (.update _) fun _ => ?_
  refine .bind (weigh_erases problem _) fun _ => .bind (.update _) fun _ => ?_
  refine .bind (.perform _ _) fun _ => .bind (.update _) fun _ => ?_
  refine .bind (addRidge_erases _ _ _) fun _ => .bind (.update _) fun _ => ?_
  exact .bind (.ofExcept _) fun _ => .bind (.update _) fun _ => .pure _

private theorem directionIsFlat_erases (threshold normalSquare : R) :
    (directionIsFlat settings threshold normalSquare : Run (Tagged J) R X Y Bool).Erases
      (directionIsFlat settings threshold normalSquare) := by
  unfold directionIsFlat
  refine .bind .workspace fun workspace => ?_
  split
  · exact .pure _
  · split
    · exact .bind (.ofExcept _) fun _ => .pure _
    · exact .pure _

omit [VectorArithmetic R Y] in
theorem moveAlong_erases (step : R) (vector normalImage : X) :
    (moveAlong step vector normalImage : Run (Tagged J) R X Y R).Erases
      (moveAlong step vector normalImage) := by
  unfold moveAlong
  refine .bind .workspace fun _ => .bind (.ofExcept _) fun _ => .bind (.update _) fun _ => ?_
  exact .bind (.ofExcept _) fun _ => .bind (.update _) fun _ => .pure _

omit [VectorArithmetic R Y] in
private theorem finishAlongGradient_erases (progress : Progress R) :
    (finishAlongGradient problem.tagged settings progress).Erases
      (finishAlongGradient problem settings progress) := by
  unfold finishAlongGradient
  refine .bind .workspace fun _ => .bind (weigh_erases problem _) fun _ => ?_
  refine .bind (.perform _ _) fun _ => .bind (.update _) fun _ => ?_
  refine .bind (addRidge_erases _ _ _) fun _ => .bind (.update _) fun _ => ?_
  exact .bind (.ofExcept _) fun _ => moveAlong_erases _ _ _

private theorem renewDirection_erases (step oldCurvature optimality : R) :
    (renewDirection problem.tagged settings step oldCurvature optimality).Erases
      (renewDirection problem settings step oldCurvature optimality) := by
  unfold renewDirection
  refine .bind .workspace fun _ => .bind (.ofExcept _) fun _ => .bind (.update _) fun _ => ?_
  refine .bind (.perform _ _) fun _ => .bind (.update _) fun _ => ?_
  refine .bind (weigh_erases problem _) fun _ => ?_
  refine .bind (.ofExcept _) fun _ => .bind (.ofExcept _) fun _ => ?_
  refine .bind (.ofExcept _) fun _ => .bind (.update _) fun _ => ?_
  refine .bind (.ofExcept _) fun _ => .bind (.update _) fun _ => ?_
  refine .bind (weigh_erases problem _) fun _ => ?_
  refine .bind (.perform _ _) fun _ => .bind (.update _) fun _ => ?_
  refine .bind (addRidge_erases _ _ _) fun _ => .bind (.update _) fun _ => ?_
  exact .bind (residualNorm_erases _) fun _ => .pure _

section Observed

variable (observer : Run J R X Y Bool)

omit [VectorArithmetic R X] [VectorArithmetic R Y] [Arithmetic R] in
private theorem complete_erases (iterations : Nat) (progress : Progress R) :
    (complete settings observer.tagged iterations progress).Erases
      (complete settings observer iterations progress) := by
  unfold complete
  exact .bind (.update _) fun _ => .bind (report_erases _ _ _) fun _ => .tagged observer

private theorem iterate_erases (threshold : R) (course : Course R) :
    (iterate problem.tagged settings observer.tagged threshold course).Erases
      (iterate problem settings observer threshold course) := by
  unfold iterate
  refine .bind .workspace fun _ => .bind (.ofExcept _) fun _ => ?_
  refine .bind (directionIsFlat_erases settings _ _) fun flat => ?_
  cases flat with
  | true => exact .bind (finishAlongGradient_erases problem settings _) fun _ => .pure _
  | false =>
      refine .bind (.ofExcept _) fun (step, clipped) => .bind (moveAlong_erases _ _ _) fun _ => ?_
      cases clipped with
      | true => exact .pure _
      | false =>
          refine .bind (renewDirection_erases problem settings _ _ _) fun _ => ?_
          exact .bind (complete_erases settings observer _ _) fun _ => .pure _

private theorem iterations_erases (threshold : R) (remaining : Nat) (course : Course R) :
    (iterations problem.tagged settings observer.tagged threshold remaining course).Erases
      (iterations problem settings observer threshold remaining course) := by
  induction remaining generalizing course with
  | zero => exact .pure _
  | succ remaining ih =>
      unfold iterations
      split
      · exact .pure _
      · exact .bind (iterate_erases problem settings observer threshold course) ih

omit [Arithmetic R] in
private theorem announce_erases :
    (announce problem.tagged settings : Run (Tagged J) R X Y R).Erases
      (announce problem settings) := by
  intro state
  have weighted : problem.tagged.weight?.isSome = problem.weight?.isSome := Option.isSome_map
  rw [announce_eq, announce_eq]
  unfold Problem.prepared
  rw [weighted]
  rfl

private theorem openCourse_erases (norm : R) :
    (openCourse problem.tagged settings norm).Erases (openCourse problem settings norm) := by
  unfold openCourse
  refine .bind (launch_erases problem settings _) fun start => ?_
  split
  · refine .bind (.print _) fun _ => ?_
    exact .bind (report_erases _ _ _) fun _ => .pure _
  · exact .bind (report_erases _ _ _) fun _ => .pure _

omit [Arithmetic R] [VectorArithmetic R X] [VectorArithmetic R Y] in
theorem reportOn_erases (figures? : Option (Figures R)) (warnings : List (Shortfall R)) :
    (reportOn problem.tagged settings figures? warnings : Run (Tagged J) R X Y _).Erases
      (reportOn problem settings figures? warnings) := by
  have mode : problem.tagged.weight?.map Weight.mode = problem.weight?.map Weight.mode :=
    Option.map_map ..
  unfold reportOn
  rw [mode]
  exact .bind .workspace fun _ => .pure _

omit [VectorArithmetic R X] [VectorArithmetic R Y] in
private theorem closeCourse_erases (opening : Opening R) (course : Course R) :
    (closeCourse problem.tagged settings opening course : Run (Tagged J) R X Y _).Erases
      (closeCourse problem settings opening course) := by
  unfold closeCourse settle
  split
  · refine .bind (.print _) fun _ => .bind (.update _) fun _ => ?_
    exact reportOn_erases problem settings _ _
  · exact .bind (.update _) fun _ => reportOn_erases problem settings _ _

omit [VectorArithmetic R X] [VectorArithmetic R Y] in
theorem solveZero_erases :
    (solveZero problem.tagged settings : Run (Tagged J) R X Y _).Erases
      (solveZero problem settings) := by
  unfold solveZero settle
  exact .bind (.update _) fun _ => .bind (.update _) fun _ => reportOn_erases problem settings _ _

/-- A solve whose applications are noted is the same solve but for these notes. -/
theorem solve_erases :
    (solve problem.tagged settings observer.tagged).Erases (solve problem settings observer) := by
  refine .holding (.bind (announce_erases problem settings) fun norm => ?_)
  split
  · exact solveZero_erases problem settings
  · refine .bind (openCourse_erases problem settings _) fun opening => ?_
    refine .bind (iterations_erases problem settings observer _ _ _) fun course => ?_
    exact closeCourse_erases problem settings _ _

end Observed

end ConjugateResidual

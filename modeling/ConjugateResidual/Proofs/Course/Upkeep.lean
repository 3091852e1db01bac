import ConjugateResidual.Proofs.Course.Attempt

/-!
What every solve leaves of a workspace, however it ends: the sizes, the field and the holder, and
vectors that are cleared to the zeros that the workspace was made with. In any arithmetic in which
updates do not change what a vector is cleared to.
-/

namespace ConjugateResidual

open Arithmetic

variable {J R X Y A B : Type}

namespace Run

/-- Whatever the outcome, a property of the workspace is kept, and a value that is returned has a
property of its own. -/
def Keeps (holds : Workspace R X Y → Prop) (run : Run J R X Y A) (gives : A → Prop) : Prop :=
  ∀ state, holds state.workspace →
    holds (run state).2.workspace ∧ ∀ value, (run state).1 = .ok value → gives value

namespace Keeps

variable {holds : Workspace R X Y → Prop} {mid : A → Prop} {gives : B → Prop}

theorem of_eq {run : Run J R X Y B} (keeps : Keeps holds run gives) {state after : RunState J R X Y}
    {outcome : Except (Fault R) B} (ran : run state = (outcome, after))
    (held : holds state.workspace) : holds after.workspace := by
  have kept := (keeps state held).1
  rw [ran] at kept
  exact kept

theorem bind {run : Run J R X Y A} {next : A → Run J R X Y B} (first : Keeps holds run mid)
    (rest : ∀ value, mid value → Keeps holds (next value) gives) :
    Keeps holds (run >>= next) gives := by
  intro state held
  obtain ⟨kept, gave⟩ := first state held
  rw [Run.bind_apply]
  cases ran : run state with
  | mk outcome after =>
      rw [ran] at kept gave
      cases outcome with
      | error fault => exact ⟨kept, fun value returned => by cases returned⟩
      | ok value => exact rest value (gave value rfl) after kept

theorem pure {value : B} (given : gives value) :
    Keeps holds (pure value : Run J R X Y B) gives := by
  intro state held
  refine ⟨held, fun other returned => ?_⟩
  cases returned
  exact given

theorem ofExcept {outcome : Except (Fault R) B}
    (given : ∀ value, outcome = .ok value → gives value) :
    Keeps holds (ofExcept outcome : Run J R X Y B) gives :=
  fun _ held => ⟨held, given⟩

theorem perform {reply : Reply J R B} (given : ∀ value, reply.outcome = .ok value → gives value) :
    Keeps holds (perform reply) gives :=
  fun _ held => ⟨held, given⟩

theorem bind_workspace {next : Workspace R X Y → Run J R X Y B}
    (rest : ∀ workspace, holds workspace → Keeps holds (next workspace) gives) :
    Keeps holds (Run.workspace >>= next) gives :=
  fun state held => rest state.workspace held state held

theorem update {change : Workspace R X Y → Workspace R X Y}
    (kept : ∀ workspace, holds workspace → holds (change workspace)) :
    Keeps holds (update change : Run J R X Y Unit) fun _ => True :=
  fun _ held => ⟨kept _ held, fun _ _ => trivial⟩

theorem print (line : Line R) : Keeps holds (print line : Run J R X Y Unit) fun _ => True :=
  fun _ held => ⟨held, fun _ _ => trivial⟩

theorem throw (fault : Fault R) : Keeps holds (throw fault : Run J R X Y B) gives :=
  fun _ held => ⟨held, fun _ returned => by cases returned⟩

theorem onTrail (body : Trail J R → Except (Fault R) B × Trail J R) :
    Keeps holds (onTrail body) fun _ => True :=
  fun _ held => ⟨held, fun _ _ => trivial⟩

end Keeps

end Run

structure Sizes where
  rows : Nat
  columns : Nat
  field : ElementType

def Workspace.sizes (workspace : Workspace R X Y) : Sizes :=
  { rows := workspace.rows, columns := workspace.columns, field := workspace.field }

def Problem.sizes (problem : Problem J R X Y) : Sizes :=
  { rows := problem.rows, columns := problem.columns, field := problem.field }

private theorem Workspace.sizes_of_checkFits {workspace : Workspace R X Y}
    {problem : Problem J R X Y}
    (fits : workspace.checkFits problem.rows problem.columns problem.field = .ok ()) :
    workspace.sizes = problem.sizes := by
  unfold checkFits at fits
  split at fits
  · cases fits
  · rename_i sameSize
    split at fits
    · cases fits
    · rename_i sameField
      obtain ⟨rows, columns⟩ := Prod.mk.inj (Decidable.of_not_not sameSize)
      unfold sizes Problem.sizes
      rw [rows, columns, Decidable.of_not_not sameField]

def Run.Respects (observer : Run J R X Y Bool) : Prop :=
  ∀ state, state.workspace.busy = true → (observer state).2.workspace = state.workspace

variable [VectorArithmetic R X]

/-- Vectors of all sizes have zeros of their own, and updates among vectors that are cleared to the
same zeros give another one. -/
structure LawfulBlank (blank : Sizes → X) : Prop where
  cleared : ∀ sizes, VectorArithmetic.cleared (blank sizes) = blank sizes
  addScaled : ∀ {sizes : Sizes} {scale : R} {source target result : X},
    VectorArithmetic.cleared source = blank sizes →
      VectorArithmetic.cleared target = blank sizes →
      VectorArithmetic.addScaled scale source target = .ok result →
      VectorArithmetic.cleared result = blank sizes
  combine : ∀ {sizes : Sizes} {scale targetScale : R} {source target result : X},
    VectorArithmetic.cleared source = blank sizes →
      VectorArithmetic.cleared target = blank sizes →
      VectorArithmetic.combine scale source targetScale target = .ok result →
      VectorArithmetic.cleared result = blank sizes

structure Workspace.Sized (blank : Sizes → X) (made : Sizes) (workspace : Workspace R X Y) :
    Prop where
  sizes : workspace.sizes = made
  solution : VectorArithmetic.cleared workspace.solution = blank made
  gradient : VectorArithmetic.cleared workspace.gradient = blank made
  direction : VectorArithmetic.cleared workspace.direction = blank made
  normalImage : VectorArithmetic.cleared workspace.normalImage = blank made

theorem Workspace.sized_fresh {blank : Sizes → X} (lawful : LawfulBlank blank) (made : Sizes)
    (zeroRows : Y) :
    (Workspace.fresh (R := R) made.rows made.columns made.field (blank made) zeroRows).Sized blank
      made :=
  { sizes := rfl
    solution := lawful.cleared made
    gradient := lawful.cleared made
    direction := lawful.cleared made
    normalImage := lawful.cleared made }

structure Workspace.Held (blank : Sizes → X) (made : Sizes) (workspace : Workspace R X Y) : Prop
    extends workspace.Sized blank made where
  busy : workspace.busy = true

def Problem.Sized (blank : Sizes → X) (problem : Problem J R X Y) : Prop :=
  ∀ vector answer, (problem.adjoint vector).outcome = .ok answer →
    VectorArithmetic.cleared answer = blank problem.sizes

theorem Run.Keeps.holding {blank : Sizes → X} {made : Sizes} {body : Run J R X Y A}
    {gives : A → Prop} (keeps : body.Keeps (Workspace.Held blank made) gives) :
    (Run.holding body).Keeps (Workspace.Sized blank made) gives := by
  intro state sized
  cases free : state.workspace.busy with
  | true =>
      rw [Run.holding_of_busy free]
      exact ⟨sized, fun _ returned => by cases returned⟩
  | false =>
      rw [Run.holding_of_free free]
      obtain ⟨kept, gave⟩ := keeps state.held { sized with busy := rfl }
      exact ⟨{ kept.toSized with }, gave⟩

section Parts

variable {blank : Sizes → X} {sizes : Sizes} {problem : Problem J R X Y} {settings : Settings R}
variable {observer : Run J R X Y Bool}

theorem weigh_keeps (vector : Y) :
    (problem.weigh vector).Keeps (Workspace.Held blank sizes) fun _ => True := by
  unfold Problem.weigh
  cases problem.weight? with
  | none => exact .pure trivial
  | some weight =>
      refine .bind (.perform fun _ _ => trivial) fun weighted _ => ?_
      refine .bind (.update fun _ held => { held with }) fun _ _ => ?_
      exact .pure trivial

theorem applyForward_keeps (vector : X) :
    (problem.applyForward vector).Keeps (Workspace.Held blank sizes) fun _ => True :=
  .perform fun _ _ => trivial

theorem applyAdjoint_keeps (sized : problem.Sized blank) (vector : Y) :
    (problem.applyAdjoint vector).Keeps (Workspace.Held blank problem.sizes) fun answer =>
      VectorArithmetic.cleared answer = blank problem.sizes :=
  .perform (sized vector)

theorem report_keeps (interval iterations : Nat) (progress : Progress R) :
    (report (J := J) (Y := Y) interval iterations progress).Keeps (Workspace.Held blank sizes)
      fun _ => True := by
  unfold report
  split
  · exact .print _
  · exact .pure trivial

theorem settle_keeps (iterations : Nat) (solved : Bool) (status : Status) :
    (settle (J := J) (Y := Y) iterations solved status).Keeps (Workspace.Held blank sizes)
      fun _ => True :=
  .update fun _ held => { held with }

theorem reportOn_keeps (figures? : Option (Figures R)) (warnings : List (Shortfall R)) :
    (reportOn problem settings figures? warnings).Keeps (Workspace.Held blank sizes)
      fun _ => True :=
  .bind_workspace fun _ _ => .pure trivial

private theorem Run.Respects.keeps (respects : Run.Respects observer) :
    observer.Keeps (Workspace.Held blank sizes) fun _ => True := by
  intro state held
  rw [respects state held.busy]
  exact ⟨held, fun _ _ => trivial⟩

section Observed

variable (respects : Run.Respects observer)
include respects

private theorem complete_keeps (iterations : Nat) (progress : Progress R) :
    (complete settings observer iterations progress).Keeps (Workspace.Held blank sizes)
      fun _ => True := by
  unfold complete
  refine .bind (.update fun _ held => { held with }) fun _ _ => ?_
  exact .bind (report_keeps _ _ _) fun _ _ => respects.keeps

private theorem completed_keeps (course : Course R) (progress : Progress R) :
    (course.completed settings observer progress).Keeps (Workspace.Held blank sizes)
      fun _ => True := by
  unfold Course.completed
  exact .bind (complete_keeps respects _ _) fun _ _ => .pure trivial

end Observed

variable [Arithmetic R]

private theorem closeCourse_keeps (opening : Opening R) (course : Course R) :
    (closeCourse problem settings opening course).Keeps (Workspace.Held blank sizes)
      fun _ => True := by
  unfold closeCourse
  split
  · refine .bind (.print _) fun _ _ => ?_
    exact .bind (settle_keeps _ _ _) fun _ _ => reportOn_keeps _ _
  · exact .bind (settle_keeps _ _ _) fun _ _ => reportOn_keeps _ _

section Updates

variable (lawful : LawfulBlank blank)
include lawful

theorem addRidge_keeps (ridge : R) {source target : X}
    (source_sized : VectorArithmetic.cleared source = blank sizes)
    (target_sized : VectorArithmetic.cleared target = blank sizes) :
    (addRidge (J := J) (Y := Y) ridge source target).Keeps (Workspace.Held blank sizes)
      fun result => VectorArithmetic.cleared result = blank sizes := by
  unfold addRidge
  split
  · exact .ofExcept fun result => lawful.addScaled source_sized target_sized
  · exact .pure target_sized

theorem moveAlong_keeps (step : R) {vector normalImage : X}
    (vector_sized : VectorArithmetic.cleared vector = blank sizes)
    (image_sized : VectorArithmetic.cleared normalImage = blank sizes) :
    (moveAlong (J := J) (Y := Y) step vector normalImage).Keeps (Workspace.Held blank sizes)
      fun _ => True := by
  unfold moveAlong
  refine .bind_workspace fun workspace held => ?_
  refine .bind (.ofExcept fun result => lawful.addScaled vector_sized held.solution) ?_
  intro solution solution_sized
  refine .bind (.update fun _ held => { held with solution := solution_sized }) fun _ _ => ?_
  refine .bind (.ofExcept fun result => lawful.addScaled image_sized held.gradient) ?_
  intro gradient gradient_sized
  refine .bind (.update fun _ held => { held with gradient := gradient_sized }) fun _ _ => ?_
  exact .pure trivial

end Updates

variable [VectorArithmetic R Y]

private theorem directionIsFlat_keeps (threshold normalSquare : R) :
    (directionIsFlat (J := J) (X := X) (Y := Y) settings threshold normalSquare).Keeps
      (Workspace.Held blank sizes) fun _ => True := by
  intro state held
  rw [directionIsFlat_state]
  exact ⟨held, fun _ _ => trivial⟩

private theorem residualNorm_keeps (ridge : R) :
    (residualNorm (J := J) (X := X) (Y := Y) ridge).Keeps (Workspace.Held blank sizes)
      fun _ => True := by
  unfold residualNorm
  refine .bind_workspace fun workspace held => ?_
  split
  · refine .bind (.ofExcept fun _ _ => trivial) fun _ _ => ?_
    refine .bind (.ofExcept fun _ _ => trivial) fun _ _ => ?_
    exact .pure trivial
  · exact .pure trivial

variable (lawful : LawfulBlank blank)
include lawful

omit [Arithmetic R] in
private theorem announce_keeps :
    (announce problem settings).Keeps (Workspace.Held blank sizes) fun _ => True := by
  intro state held
  obtain ⟨printed, announced⟩ := announce_apply problem settings state
  rw [announced]
  refine ⟨{ held with solution := ?_ }, fun _ _ => trivial⟩
  change VectorArithmetic.cleared (VectorArithmetic.cleared state.workspace.solution) = blank sizes
  rw [held.solution]
  exact lawful.cleared sizes

variable (sized : problem.Sized blank)
include sized

private theorem launch_keeps (norm : R) :
    (launch problem settings norm).Keeps (Workspace.Held blank problem.sizes) fun _ => True := by
  unfold launch
  refine .bind_workspace fun workspace held => ?_
  refine .bind (weigh_keeps _) fun _ _ => ?_
  refine .bind (applyAdjoint_keeps sized _) fun gradient gradient_sized => ?_
  refine .bind (.update fun _ held => { held with gradient := gradient_sized }) fun _ _ => ?_
  refine .bind (applyForward_keeps _) fun gradientImage _ => ?_
  refine .bind (.update fun _ held => { held with }) fun _ _ => ?_
  refine .bind (weigh_keeps _) fun _ _ => ?_
  refine .bind (.update fun _ held => { held with direction := gradient_sized }) fun _ _ => ?_
  refine .bind (applyAdjoint_keeps sized _) fun plainImage image_sized => ?_
  refine .bind (.update fun _ held => { held with normalImage := image_sized }) fun _ _ => ?_
  refine .bind (addRidge_keeps lawful _ gradient_sized image_sized) fun _ normal_sized => ?_
  refine .bind (.update fun _ held => { held with normalImage := normal_sized }) fun _ _ => ?_
  refine .bind (.ofExcept fun _ _ => trivial) fun _ _ => ?_
  refine .bind (.update fun _ held => { held with }) fun _ _ => ?_
  exact .pure trivial

omit [VectorArithmetic R Y] in
private theorem finishAlongGradient_keeps (progress : Progress R) :
    (finishAlongGradient problem settings progress).Keeps (Workspace.Held blank problem.sizes)
      fun _ => True := by
  unfold finishAlongGradient
  refine .bind_workspace fun before held => ?_
  refine .bind (weigh_keeps _) fun _ _ => ?_
  refine .bind (applyAdjoint_keeps sized _) fun plainImage image_sized => ?_
  refine .bind (.update fun _ held => { held with normalImage := image_sized }) fun _ _ => ?_
  refine .bind (addRidge_keeps lawful _ held.gradient image_sized) fun _ normal_sized => ?_
  refine .bind (.update fun _ held => { held with normalImage := normal_sized }) fun _ _ => ?_
  refine .bind (.ofExcept fun _ _ => trivial) fun _ _ => ?_
  exact moveAlong_keeps lawful _ held.gradient normal_sized

private theorem renewDirection_keeps (step oldCurvature optimality : R) :
    (renewDirection problem settings step oldCurvature optimality).Keeps
      (Workspace.Held blank problem.sizes) fun _ => True := by
  unfold renewDirection
  refine .bind_workspace fun before held => ?_
  refine .bind (.ofExcept fun _ _ => trivial) fun _ _ => ?_
  refine .bind (.update fun _ held => { held with }) fun _ _ => ?_
  refine .bind (applyForward_keeps _) fun _ _ => ?_
  refine .bind (.update fun _ held => { held with }) fun _ _ => ?_
  refine .bind (weigh_keeps _) fun _ _ => ?_
  refine .bind (.ofExcept fun _ _ => trivial) fun _ _ => ?_
  refine .bind (.ofExcept fun _ _ => trivial) fun _ _ => ?_
  refine .bind (.ofExcept fun _ => lawful.combine held.gradient held.direction) ?_
  intro direction direction_sized
  refine .bind (.update fun _ held => { held with direction := direction_sized }) fun _ _ => ?_
  refine .bind (.ofExcept fun _ _ => trivial) fun _ _ => ?_
  refine .bind (.update fun _ held => { held with }) fun _ _ => ?_
  refine .bind (weigh_keeps _) fun _ _ => ?_
  refine .bind (applyAdjoint_keeps sized _) fun plainImage image_sized => ?_
  refine .bind (.update fun _ held => { held with normalImage := image_sized }) fun _ _ => ?_
  refine .bind (addRidge_keeps lawful _ direction_sized image_sized) fun _ normal_sized => ?_
  refine .bind (.update fun _ held => { held with normalImage := normal_sized }) fun _ _ => ?_
  exact .bind (residualNorm_keeps _) fun _ _ => .pure trivial

private theorem attempt_keeps (threshold : R) (course : Course R) :
    (attempt problem settings threshold course).Keeps (Workspace.Held blank problem.sizes)
      fun _ => True := by
  unfold attempt
  refine .bind_workspace fun before held => ?_
  refine .bind (.ofExcept fun _ _ => trivial) fun _ _ => ?_
  refine .bind (directionIsFlat_keeps _ _) fun flat _ => ?_
  split
  · exact .bind (finishAlongGradient_keeps lawful sized _) fun _ _ => .pure trivial
  · refine .bind (.ofExcept fun _ _ => trivial) fun (step, clipped) _ => ?_
    refine .bind (moveAlong_keeps lawful _ held.direction held.normalImage) fun _ _ => ?_
    cases clipped with
    | true => exact .pure trivial
    | false => exact .bind (renewDirection_keeps lawful sized _ _ _) fun _ _ => .pure trivial

private theorem openCourse_keeps (norm : R) :
    (openCourse problem settings norm).Keeps (Workspace.Held blank problem.sizes)
      fun _ => True := by
  unfold openCourse
  refine .bind (launch_keeps lawful sized norm) fun start _ => ?_
  split
  · refine .bind (.print _) fun _ _ => ?_
    exact .bind (report_keeps _ _ _) fun _ _ => .pure trivial
  · exact .bind (report_keeps _ _ _) fun _ _ => .pure trivial

variable (respects : Run.Respects observer)
include respects

private theorem iterate_keeps (threshold : R) (course : Course R) :
    (iterate problem settings observer threshold course).Keeps
      (Workspace.Held blank problem.sizes) fun _ => True := by
  rw [iterate_eq]
  refine .bind (attempt_keeps lawful sized threshold course) fun tried _ => ?_
  cases tried with
  | inl next => exact .pure trivial
  | inr progress => exact completed_keeps respects course progress

private theorem iterations_keeps (threshold : R) (remaining : Nat) (course : Course R) :
    (iterations problem settings observer threshold remaining course).Keeps
      (Workspace.Held blank problem.sizes) fun _ => True := by
  induction remaining generalizing course with
  | zero => exact .pure trivial
  | succ remaining ih =>
      unfold iterations
      split
      · exact .pure trivial
      · exact .bind (iterate_keeps lawful sized respects threshold course) fun next _ => ih next

theorem solve_keeps :
    (solve problem settings observer).Keeps (Workspace.Sized blank problem.sizes)
      fun _ => True := by
  rw [solve_eq]
  refine .holding (.bind (announce_keeps lawful) fun norm _ => ?_)
  split
  · unfold solveZero
    refine .bind (settle_keeps _ _ _) fun _ _ => ?_
    refine .bind (.update fun _ held => { held with }) fun _ _ => ?_
    exact reportOn_keeps _ _
  · refine .bind (openCourse_keeps lawful sized norm) fun opening _ => ?_
    refine .bind (iterations_keeps lawful sized respects _ _ _) fun course _ => ?_
    exact closeCourse_keeps opening course

omit sized in
/-- Whether a solve is refused, fails or returns, the workspace keeps its sizes. -/
theorem solveInPlace_keeps {made : Sizes} {prepared : Reply J R (Options R × Problem J R X Y)}
    (sized : ∀ options problem, prepared.outcome = .ok (options, problem) → problem.Sized blank) :
    (solveInPlace prepared observer).Keeps (Workspace.Sized blank made) fun _ => True := by
  unfold solveInPlace
  refine .bind (.perform fun _ ready => ready) fun (options, problem) ready => ?_
  refine .bind_workspace fun workspace kept => ?_
  refine .bind (.ofExcept fun _ fits => fits) fun _ fits => ?_
  have same : problem.sizes = made := (Workspace.sizes_of_checkFits fits).symm.trans kept.sizes
  rw [← same]
  exact solve_keeps lawful (sized options problem ready) respects

end Parts

end ConjugateResidual

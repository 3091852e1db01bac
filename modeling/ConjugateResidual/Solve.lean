import ConjugateResidual.Iteration

/-!
A whole solve and its report. A zero right-hand side is answered without an application of the
operator; all other runs go through the iterations and are judged at their end. `solveInPlace`
works on a given workspace, `solveFresh` on one made for the problem, and `solveInPlaceFrom` takes
a right-hand side that may be a view of the workspace.
-/

namespace ConjugateResidual

open Arithmetic

structure Figures (R : Type) where
  initialOptimality : R
  threshold : R
  optimality : R
  residual : R

structure Shortfall (R : Type) where
  iterations : Nat
  optimality : R
  threshold : R

structure Report (R : Type) where
  stats : Snapshot R
  budget : Nat
  ridge : R
  radius : R
  mode? : Option Mode
  /-- Absent when the right-hand side is zero. -/
  figures? : Option (Figures R)
  warnings : List (Shortfall R)

section

variable {J R X Y : Type} [Arithmetic R] [VectorArithmetic R X] [VectorArithmetic R Y]

namespace Course

variable (settings : Settings R) (threshold : R) (course : Course R)

/-- A step to the sphere or along the gradient solves the problem as far as it can be solved. -/
def isSolved : Bool :=
  course.flat || course.clipped || course.isOptimal threshold

def isTired : Bool :=
  settings.budget ≤ course.iterations

/-- The wish of the observer comes first, then the sphere, missing curvature, and optimality. -/
def status : Status :=
  if course.exited then .userExit
  else if course.clipped then .onBoundary
  else if course.flat then .zeroCurvature
  else if course.isSolved threshold then .solved
  else if course.isTired settings then .budgetExhausted
  else .unknown

def warnings : List (Shortfall R) :=
  if course.isTired settings && !course.isSolved threshold then
    [{ iterations := course.iterations, optimality := course.optimality, threshold }]
  else []

end Course

def settle (iterations : Nat) (solved : Bool) (status : Status) : Run J R X Y Unit :=
  Run.update fun workspace =>
    { workspace with
      recorder :=
        { workspace.recorder with iterations, solved, inconsistent := false, status } }

def reportOn (problem : Problem J R X Y) (settings : Settings R) (figures? : Option (Figures R))
    (warnings : List (Shortfall R)) : Run J R X Y (Report R) := do
  let workspace ← Run.workspace
  pure
    { stats := workspace.stats
      budget := settings.budget
      ridge := settings.ridge
      radius := settings.radius
      mode? := problem.weight?.map Weight.mode
      figures?, warnings }

def solveZero (problem : Problem J R X Y) (settings : Settings R) : Run J R X Y (Report R) := do
  settle 0 true .zeroRightHandSide
  Run.update fun workspace =>
    { workspace with recorder := workspace.recorder.recordOptimality 0 }
  reportOn problem settings none []

structure Opening (R : Type) where
  threshold : R
  course : Course R

def announceFrom (rightHandSide : View X Y) (problem : Problem J R X Y) (settings : Settings R) :
    Run J R X Y R := do
  if 0 < settings.interval then Run.print (.banner problem.rows problem.columns)
  setUp rightHandSide problem settings

def announce (problem : Problem J R X Y) (settings : Settings R) : Run J R X Y R :=
  announceFrom (.own problem.rightHandSide) problem settings

def openCourse (problem : Problem J R X Y) (settings : Settings R) (rightHandSideNorm : R) :
    Run J R X Y (Opening R) := do
  let start ← launch problem settings rightHandSideNorm
  if 0 < settings.interval then Run.print .header
  report settings.interval 0 start
  pure
    { threshold := settings.absolute + settings.relative * start.optimality
      course := { start with iterations := 0, flat := false, clipped := false, exited := false } }

def closeCourse (problem : Problem J R X Y) (settings : Settings R) (opening : Opening R)
    (course : Course R) : Run J R X Y (Report R) := do
  if 0 < settings.interval then Run.print .blank
  settle course.iterations (course.isSolved opening.threshold)
    (course.status settings opening.threshold)
  reportOn problem settings
    (some
      { initialOptimality := opening.course.optimality, threshold := opening.threshold
        optimality := course.optimality, residual := course.residual })
    (course.warnings settings opening.threshold)

def solveNonzero (problem : Problem J R X Y) (settings : Settings R)
    (observer : Run J R X Y Bool) (rightHandSideNorm : R) : Run J R X Y (Report R) := do
  let opening ← openCourse problem settings rightHandSideNorm
  let course ←
    iterations problem settings observer opening.threshold settings.budget opening.course
  closeCourse problem settings opening course

/-- A solve as the only holder of a workspace that fits the problem. The right-hand side is read
where it lies. -/
def solveFrom (rightHandSide : View X Y) (problem : Problem J R X Y) (settings : Settings R)
    (observer : Run J R X Y Bool) : Run J R X Y (Report R) :=
  Run.holding do
    let norm ← announceFrom rightHandSide problem settings
    if isZero norm then solveZero problem settings
    else solveNonzero problem settings observer norm

/-- A solve for a right-hand side that no workspace changes. -/
def solve (problem : Problem J R X Y) (settings : Settings R) (observer : Run J R X Y Bool) :
    Run J R X Y (Report R) :=
  solveFrom (.own problem.rightHandSide) problem settings observer

theorem solve_eq (problem : Problem J R X Y) (settings : Settings R)
    (observer : Run J R X Y Bool) :
    solve problem settings observer =
      Run.holding
        (announce problem settings >>= fun norm =>
          if isZero norm then solveZero problem settings
          else solveNonzero problem settings observer norm) :=
  rfl

def solveWith (options : Options R) (problem : Problem J R X Y) (observer : Run J R X Y Bool) :
    Run J R X Y (Report R) :=
  solve problem (options.resolve problem.rows problem.columns problem.tolerance) observer

/-- Solves a prepared problem on the present workspace, once it is known to fit. -/
def solveInPlace (prepared : Reply J R (Options R × Problem J R X Y))
    (observer : Run J R X Y Bool) : Run J R X Y (Report R) := do
  let (options, problem) ← Run.perform prepared
  let workspace ← Run.workspace
  Run.ofExcept (workspace.checkFits problem.rows problem.columns problem.field)
  solveWith options problem observer

/-- Solves on the present workspace for a right-hand side that may be a view of it. The problem is
prepared from the entries that the right-hand side has at first. -/
def solveInPlaceFrom (rightHandSide : View X Y)
    (prepare : Y → Reply J R (Options R × Problem J R X Y)) (observer : Run J R X Y Bool) :
    Run J R X Y (Report R) := do
  let before ← Run.workspace
  let (options, problem) ← Run.perform (prepare (rightHandSide.read before))
  let workspace ← Run.workspace
  Run.ofExcept (workspace.checkFits problem.rows problem.columns problem.field)
  let settings := options.resolve problem.rows problem.columns problem.tolerance
  solveFrom rightHandSide problem settings observer

/-- Solves a prepared problem on a workspace of its own. -/
def solveFresh (prepared : Reply J R (Options R × Problem J R X Y))
    (observer : Run J R X Y Bool) (trail : Trail J R) :
    Except (Fault R) (Workspace R X Y × Report R) × Trail J R :=
  let noted := { trail with journal := trail.journal ++ prepared.journal }
  match prepared.outcome with
  | .error fault => (.error fault, noted)
  | .ok (options, problem) =>
      let (outcome, final) :=
        solveWith options problem observer { noted with workspace := problem.freshWorkspace }
      (outcome.map fun report => (final.workspace, report), final.toTrail)

end

def neverExit {J R X Y : Type} : Run J R X Y Bool :=
  pure false

end ConjugateResidual

import ConjugateResidual.Design

/-!
Scripted observers. An observer is asked after every completed iteration; it may look at the
workspace, try to change what it must not change, fail, run a solve of its own, and ask to stop.
-/

namespace ConjugateResidual

inductive VectorName where
  | solution | residual | gradient | direction | directionImage | normalImage | gradientImage
  | weighted
  deriving DecidableEq, Repr

namespace VectorName

def named : List (String × VectorName) :=
  [("x", .solution), ("r", .residual), ("Ar", .gradient), ("p", .direction),
    ("Ap", .directionImage), ("q", .normalImage), ("s", .gradientImage), ("Ms", .weighted)]

def ofName? (name : String) : Option VectorName :=
  named.lookup name

end VectorName

def Workspace.vector? (workspace : MachineWorkspace) : VectorName → Option Tensor
  | .solution => some workspace.solution
  | .residual => some workspace.residual
  | .gradient => some workspace.gradient
  | .direction => some workspace.direction
  | .directionImage => some workspace.directionImage
  | .normalImage => some workspace.normalImage
  | .gradientImage => some workspace.gradientImage
  | .weighted => workspace.weighted?

/-- All vectors of a workspace are shown read-only. -/
def Workspace.write (workspace : MachineWorkspace) (name : VectorName) : Fault Float :=
  match workspace.vector? name with
  | some _ => .readOnly
  | none => .notNumeric

/-- What overwriting the first entry of a part of a workspace meets. The other parts are not made of
entries. -/
def Workspace.writeTo (workspace : MachineWorkspace) (part : String) : Fault Float :=
  match VectorName.ofName? part with
  | some name => workspace.write name
  | none =>
      if ["m", "n", "dtype", "busy", "stats"].contains part then .notNumeric else .lacksMember

inductive Script where
  | exitAt (iterations : Int)
  | constant (answer : Value)
  | exitBelow (name : VectorName) (bound : Float)
  | raise (since : Int) (message : String)
  | write (since : Int) (part : String) (answer : Bool)
  | assign (since : Int) (field : String) (answer : Bool)
  | nested (since : Int) (request : Request) (inPlace : Bool) (answer : Bool)

namespace Script

def note (event : Event) : MachineRun Unit :=
  Run.perform (Reply.note event)

def runNested (request : Request) (inPlace : Bool) : MachineRun Unit :=
  if inPlace then do
    let report ← solveInPlace request.prepare neverExit
    let workspace ← Run.workspace
    note (.nested workspace.solution report.stats.iterations)
  else do
    let (workspace, report) ← Run.onTrail (solveFresh request.prepare neverExit)
    note (.nested workspace.solution report.stats.iterations)

def since (first : Int) (action : MachineRun Bool) : MachineRun Bool := do
  let workspace ← Run.workspace
  if workspace.recorder.iterations < first then pure false else action

def observe : Script → MachineRun Bool
  | .exitAt iterations => do
      let workspace ← Run.workspace
      pure (iterations ≤ workspace.recorder.iterations)
  | .constant answer => pure answer.isTrue
  | .exitBelow name bound => do
      let workspace ← Run.workspace
      match workspace.vector? name with
      | some vector => pure (vector.norm ≤ bound)
      | none => throw .notNumeric
  | .raise first message => since first (throw (.raised message))
  | .write first part answer => since first do
      let workspace ← Run.workspace
      note (.refused (workspace.writeTo part))
      pure answer
  | .assign first field answer => since first do
      note (.refused (.frozenField field))
      pure answer
  | .nested first request inPlace answer => since first do
      runNested request inPlace
      pure answer

/-- Notes the workspace before the script acts. -/
def observeTraced (script : Script) : MachineRun Bool := do
  let workspace ← Run.workspace
  note (.observed workspace)
  script.observe

end Script

end ConjugateResidual

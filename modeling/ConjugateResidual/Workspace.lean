import ConjugateResidual.Arithmetic
import ConjugateResidual.Diagnostics

/-!
The vectors of a solve. A workspace is sized for an operator with given rows and columns in one
field and is reused from solve to solve; it admits one holder at a time.
-/

namespace ConjugateResidual

structure Workspace (R X Y : Type) where
  rows : Nat
  columns : Nat
  field : ElementType
  solution : X
  /-- The residual of the normal equations at the solution. -/
  gradient : X
  direction : X
  /-- The operator of the normal equations applied to the direction. -/
  normalImage : X
  residual : Y
  directionImage : Y
  gradientImage : Y
  /-- The preconditioned copy of a residual-space vector, once a preconditioner has been used. -/
  weighted? : Option Y
  recorder : Recorder R
  busy : Bool

namespace Workspace

variable {R X Y : Type}

def fresh (rows columns : Nat) (field : ElementType) (zeroColumns : X) (zeroRows : Y) :
    Workspace R X Y :=
  { rows, columns, field
    solution := zeroColumns, gradient := zeroColumns
    direction := zeroColumns, normalImage := zeroColumns
    residual := zeroRows, directionImage := zeroRows, gradientImage := zeroRows
    weighted? := none, recorder := .cleared false, busy := false }

def stats (workspace : Workspace R X Y) : Snapshot R :=
  workspace.recorder.snapshot

def withBuffer [VectorArithmetic R Y] (workspace : Workspace R X Y) : Workspace R X Y :=
  { workspace with
    weighted? := some (workspace.weighted?.getD (VectorArithmetic.cleared workspace.residual)) }

/-- A problem of the given size and field must be the one that the workspace was made for. -/
def checkFits (workspace : Workspace R X Y) (rows columns : Nat) (field : ElementType) :
    Except (Fault R) Unit :=
  if (rows, columns) ≠ (workspace.rows, workspace.columns) then
    .error (.misuse (.workspaceSize workspace.rows workspace.columns rows columns))
  else if field ≠ workspace.field then
    .error (.misuse (.workspaceField workspace.field field))
  else .ok ()

def acquire (workspace : Workspace R X Y) : Except (Fault R) (Workspace R X Y) :=
  if workspace.busy then .error .busy else .ok { workspace with busy := true }

def release (workspace : Workspace R X Y) : Workspace R X Y :=
  { workspace with busy := false }

def display (workspace : Workspace R X Y) : String :=
  "CRLSWorkspace(m=" ++ toString workspace.rows ++ ", n=" ++ toString workspace.columns ++
    ", dtype=" ++ workspace.field.name ++ ", preconditioned=" ++
    Value.truthText workspace.weighted?.isSome ++ ")"

end Workspace

end ConjugateResidual

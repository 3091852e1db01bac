import ConjugateResidual.Problem
import ConjugateResidual.Tensor.Routines

/-!
What the journal of a machine run holds: the applications that a caller's own operators notice,
in order, and what an observer wrote down.
-/

namespace ConjugateResidual

inductive Action where
  | forward | adjoint | solve
  deriving DecidableEq, Repr

def Action.sign : Action → String
  | .forward => "A"
  | .adjoint => "AH"
  | .solve => "solve"

inductive Event where
  | applied (action : Action) (argument : Tensor)
  | observed (workspace : Workspace Float Tensor Tensor)
  | refused (fault : Fault Float)
  | nested (solution : Tensor) (iterations : Int)

abbrev Answer (A : Type) : Type := Reply Event Float A

abbrev MachineWorkspace : Type := Workspace Float Tensor Tensor

abbrev MachineRun (A : Type) : Type := Run Event Float Tensor Tensor A

abbrev MachineProblem : Type := Problem Event Float Tensor Tensor

def Event.action? : Event → Option Action
  | .applied action _ => some action
  | _ => none

end ConjugateResidual

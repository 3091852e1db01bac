import ConjugateResidual.Run

/-!
A least-squares problem: minimise the weighted residual norm of `rightHandSide - A x`, plus a
ridge term that belongs to the options. `Options` are what a caller may choose; `Settings` are
the options with the defaults of a problem filled in.
-/

namespace ConjugateResidual

/-- How a preconditioner acts: by its product or by its inverse. -/
inductive Mode where
  | multiply | solve
  deriving DecidableEq, Repr

def Mode.name : Mode → String
  | .multiply => "multiply"
  | .solve => "solve"

structure Weight (J R Y : Type) where
  mode : Mode
  apply : Y → Reply J R Y

structure Problem (J R X Y : Type) where
  rows : Nat
  columns : Nat
  field : ElementType
  tolerance : R
  zeroColumns : X
  zeroRows : Y
  rightHandSide : Y
  forward : X → Reply J R Y
  adjoint : Y → Reply J R X
  /-- Without a preconditioner the residual is not weighted. -/
  weight? : Option (Weight J R Y)

structure Options (R : Type) where
  ridge : R
  absolute? : Option R
  relative? : Option R
  /-- The trust-region radius; zero sets no bound. -/
  radius : R
  /-- The iteration budget; zero stands for rows plus columns. -/
  budget : Nat
  /-- A progress line is printed every so many iterations; zero prints nothing. -/
  interval : Nat
  keepsHistory : Bool
  mode : Mode

structure Settings (R : Type) where
  ridge : R
  absolute : R
  relative : R
  radius : R
  budget : Nat
  interval : Nat
  keepsHistory : Bool

namespace Options

variable {R : Type}

def resolve (options : Options R) (rows columns : Nat) (tolerance : R) : Settings R :=
  { ridge := options.ridge
    absolute := options.absolute?.getD tolerance
    relative := options.relative?.getD tolerance
    radius := options.radius
    budget := if options.budget = 0 then rows + columns else options.budget
    interval := options.interval
    keepsHistory := options.keepsHistory }

end Options

def Problem.freshWorkspace {J R X Y : Type} (problem : Problem J R X Y) : Workspace R X Y :=
  .fresh problem.rows problem.columns problem.field problem.zeroColumns problem.zeroRows

end ConjugateResidual

import ConjugateResidual.Value

/-!
What can go wrong, cause by cause. `Misuse` collects the inputs that are refused before a solve
starts; a `Fault` is a misuse, a second holder of a workspace, a breakdown of the arithmetic, or
a failure inside an operator, a cast or a caller's own code. `Fault.message?` holds all wording.
-/

namespace ConjugateResidual

def shapeText : List Int → String
  | [single] => "(" ++ toString single ++ ",)"
  | shape => "(" ++ Value.commaSeparated (shape.map toString) ++ ")"

/-- An input that is refused by a check. Sizes that do not fit are dimension misuses and element
types that do not fit are field misuses. -/
inductive Misuse where
  | unevenNesting (name : String) (leading : List Nat)
  | objectData (name : String)
  | nonNumeric (name : String) (actual : ElementType)
  | nonFinite (name : String) (nans infinities : Nat)
  | notNonnegative (name : String) (value : Value)
  | notInteger (name : String) (kind : String)
  | negativeInteger (name : String) (value : Int)
  | unknownMode (value : Value)
  | notCallable (kind : String)
  | notOperator (name : String)
  | notSolvable (name : String) (kind : String)
  | notVector (name : String) (shape : List Nat)
  | lengthMismatch (name : String) (length : Nat) (expected : Value) (origin : String)
  | notMatrix (name : String) (shape : List Nat)
  | notMatrixToSolve (name : String) (shape : List Nat)
  | notSquare (name : String) (size : Int) (shape : List Int)
  | negativeSize (rows columns : Int)
  | workspaceSize (rows columns problemRows problemColumns : Nat)
  | unsupportedField (name : String) (actual : ElementType)
  | fieldMismatch (name : String) (expected actual : ElementType)
  | workspaceField (expected actual : ElementType)

inductive Misuse.Family where
  | value | dimension | field
  deriving DecidableEq, Repr

namespace Misuse

def family : Misuse → Family
  | .notVector .. | .lengthMismatch .. | .notMatrix .. | .notMatrixToSolve .. | .notSquare ..
  | .negativeSize .. | .workspaceSize .. => .dimension
  | .unsupportedField .. | .fieldMismatch .. | .workspaceField .. => .field
  | _ => .value

/-- For an element type that does not fit: the input that has it, the type that is expected if one
type is, and the type that was found. -/
def fieldDetails? : Misuse → Option (String × Option ElementType × ElementType)
  | .unsupportedField name actual => some (name, none, actual)
  | .fieldMismatch name expected actual => some (name, some expected, actual)
  | .workspaceField expected actual => some ("workspace", some expected, actual)
  | _ => none

def rankText (shape : List Nat) : String :=
  toString shape.length ++ "D with shape " ++ shapeText (shape.map Int.ofNat)

def sizeText (rows columns : Nat) : String :=
  toString rows ++ " x " ++ toString columns

def supportedText : String :=
  Value.commaSeparated (ElementType.supported.map ElementType.name)

def message : Misuse → String
  | .unevenNesting name leading =>
      name ++ ": cannot convert to array: setting an array element with a sequence. " ++
        "The requested array has an inhomogeneous shape after " ++ toString leading.length ++
        " dimensions. The detected shape was " ++ shapeText (leading.map Int.ofNat) ++
        " + inhomogeneous part."
  | .objectData name =>
      name ++ ": converted to object dtype, indicating mixed types or non-numeric data"
  | .nonNumeric name actual =>
      name ++ ": non-numeric dtype " ++ actual.name ++ ", expected numeric data"
  | .nonFinite name nans infinities =>
      name ++ ": contains non-finite values (" ++ toString nans ++ " NaN, " ++
        toString infinities ++ " Inf)"
  | .notNonnegative name value =>
      name ++ ": must be a finite value >= 0, got " ++ value.display
  | .notInteger name kind => name ++ ": expected an integer, got " ++ kind
  | .negativeInteger name value => name ++ ": must be >= 0, got " ++ toString value
  | .unknownMode value =>
      "precond_mode: expected 'multiply' or 'solve', got " ++ value.literal
  | .notCallable kind => "callback: expected a callable, got " ++ kind
  | .notOperator name => name ++ ": cannot use as a linear operator: type not understood"
  | .notSolvable name kind =>
      name ++ ": precond_mode='solve' needs a matrix or an object with a solve() method, got " ++
        kind
  | .notVector name shape => name ++ ": expected 1D array, got " ++ rankText shape
  | .lengthMismatch name length expected origin =>
      "Inconsistent problem size: " ++ name ++ " has length " ++ toString length ++
        ", expected " ++ expected.display ++ " (" ++ origin ++ ")"
  | .notMatrix name shape => name ++ ": expected 2D operator, got " ++ rankText shape
  | .notMatrixToSolve name shape => name ++ ": expected 2D matrix, got " ++ rankText shape
  | .notSquare name size shape =>
      name ++ ": expected shape " ++ shapeText [size, size] ++
        " to match the rows of A, got " ++ shapeText shape
  | .negativeSize rows columns =>
      "workspace dimensions must be >= 0, got " ++ shapeText [rows, columns]
  | .workspaceSize rows columns problemRows problemColumns =>
      "workspace: sized for a " ++ sizeText rows columns ++ " operator, got a " ++
        sizeText problemRows problemColumns ++ " problem"
  | .unsupportedField name actual =>
      name ++ ": unsupported dtype " ++ actual.name ++ ", expected one of " ++ supportedText
  | .fieldMismatch name expected actual =>
      name ++ ": dtype " ++ actual.name ++ " does not match the right-hand side dtype " ++
        expected.name
  | .workspaceField expected actual =>
      "workspace: allocated for dtype " ++ expected.name ++ ", got a " ++ actual.name ++
        " problem"

end Misuse

inductive Fault (R : Type) where
  | misuse (cause : Misuse)
  | busy
  | zeroDivisor
  | degenerateQuadratic
  | nonpositiveRadius (radius : R)
  | zeroDirection
  | integerTooLarge
  | integerOutOfRange
  | unreadableNumber
  | notNumeric
  | lacksMember
  | notStorable
  | ambiguousTruth
  | unknownKeyword
  | shapeMismatch
  | castRefused
  | elementwiseRefused
  | routineRefused
  | adjointUndefined
  | nonFiniteSystem
  | singularFactor
  | notFloating
  | readOnly
  | unknownName
  | indexOutOfRange
  | notStarted
  | notStopped
  | frozenField (name : String)
  | readOnlyProperty
  /-- Raised by a caller's own code. -/
  | raised (message : String)

namespace Fault

/-- The wording of a fault; those that arise outside of this library have none. -/
def message? : Fault Float → Option String
  | .misuse cause => some cause.message
  | .busy =>
      some ("workspace already has a solve in flight; use a separate CRLSWorkspace per " ++
        "concurrent solve")
  | .zeroDivisor => some "float division by zero"
  | .degenerateQuadratic => some "degenerate quadratic: q2 = q1 = 0"
  | .nonpositiveRadius radius =>
      some ("radius must be positive, got " ++ Decimal.shortest radius)
  | .zeroDirection => some "to_boundary: zero direction"
  | .integerTooLarge => some "int too large to convert to float"
  | .notStarted => some "Timer.stop() called before start()"
  | .notStopped => some "Timer.result() called before stop()"
  | .frozenField name => some ("cannot assign to field " ++ Text.quoted name)
  | .raised message => some message
  | _ => none

end Fault

def Value.toFloat : Value → Except (Fault Float) Float
  | .truth value | .typedTruth value => .ok (if value then 1.0 else 0.0)
  | .integer value =>
      if Binary64.overflowThreshold ≤ value.natAbs then .error .integerTooLarge
      else .ok (Binary64.ofInt value)
  | .typedInteger _ value => .ok (Binary64.ofInt value)
  | .number value | .typedNumber _ value | .typedComplex _ value => .ok value
  | .text value =>
      match Decimal.readFloat? value with
      | some reading => .ok reading
      | none => .error .unreadableNumber
  | .absent | .list _ | .table _ => .error .notNumeric

end ConjugateResidual

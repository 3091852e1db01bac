import ConjugateResidual.Data
import ConjugateResidual.Problem
import ConjugateResidual.Value.Calculation

/-!
The checks on inputs. Each settles one question and names the input it was asked about. Integer
arrays are read as `float64` ones; nothing else is changed silently.
-/

namespace ConjugateResidual

namespace Check

abbrev Outcome := Except (Fault Float)

def refuse {A : Type} (cause : Misuse) : Outcome A :=
  .error (.misuse cause)

def array (name : String) (data : Data) : Outcome Tensor := do
  let given ←
    match data with
    | .array tensor => .ok tensor
    | .unreadable fault => .error fault
    | .nested value =>
        match Tensor.ofNested value with
        | .ok tensor => .ok tensor
        | .error leading => refuse (.unevenNesting name leading)
  if given.elementType = .object then refuse (.objectData name)
  else
    let numbers := given.withoutIntegers
    if numbers.elementType.isInexact then .ok numbers
    else refuse (.nonNumeric name numbers.elementType)

def supportedField (name : String) (elementType : ElementType) : Outcome Unit :=
  if elementType.isSupported then .ok () else refuse (.unsupportedField name elementType)

def sameField (name : String) (elementType expected : ElementType) : Outcome Unit :=
  if elementType = expected then .ok () else refuse (.fieldMismatch name expected elementType)

/-- A complex entry counts once for each of the two defects it has. -/
def finite (name : String) (tensor : Tensor) : Outcome Unit :=
  let field := tensor.elementType
  if !field.isNumeric && !field.isTemporal then .error .notNumeric
  else if tensor.entries.all Entry.isFinite then .ok ()
  else
    refuse (.nonFinite name (tensor.entries.countP Entry.isNan)
      (tensor.entries.countP Entry.isInfinite))

def oneDimensional (name : String) (tensor : Tensor) : Outcome Unit :=
  if tensor.shape.length = 1 then .ok () else refuse (.notVector name tensor.shape)

def lengthAgainst (name : String) (tensor : Tensor) (expected : Value) (origin : String) :
    Outcome Unit :=
  match tensor.shape with
  | [] => .error .indexOutOfRange
  | own :: _ =>
      if (Value.integer own).equals expected then .ok ()
      else refuse (.lengthMismatch name own expected origin)

def length (name : String) (tensor : Tensor) (expected : Int) (origin : String) : Outcome Unit :=
  lengthAgainst name tensor (.integer expected) origin

/-- A list has no order against zero, and no single truth unless it has a single entry. -/
def nonnegativeList (name : String) (value : Value) : Outcome Unit :=
  match Tensor.ofNested value with
  | .error _ => .error .shapeMismatch
  | .ok tensor =>
      if !tensor.elementType.isNumeric then .error .notNumeric
      else
        match tensor.entries with
        | [entry] =>
            if entry.isFinite then .error .notNumeric else refuse (.notNonnegative name value)
        | _ => .error .ambiguousTruth

def nonnegative (name : String) (value : Value) : Outcome Unit :=
  let accept (condition : Bool) : Outcome Unit :=
    if condition then .ok () else refuse (.notNonnegative name value)
  match value with
  | .truth _ | .typedTruth _ => .ok ()
  | .integer whole =>
      if value.isOpaque then .error .notNumeric else accept (0 ≤ whole)
  | .typedInteger _ whole => accept (0 ≤ whole)
  | .number real | .typedNumber _ real | .typedComplex _ real =>
      accept (real.isFinite && 0.0 ≤ real)
  | .list _ => nonnegativeList name value
  | .absent | .text _ | .table _ => .error .notNumeric

/-- An integer that is not negative; truth values are no integers. -/
def nonnegativeInteger (name : String) (value : Value) : Outcome Nat :=
  match value.integer? with
  | none => refuse (.notInteger name value.kindName)
  | some whole =>
      if 0 ≤ whole then .ok whole.toNat else refuse (.negativeInteger name whole)

def mode (value : Value) : Outcome Mode :=
  match value with
  | .text name =>
      if name = Mode.multiply.name then .ok .multiply
      else if name = Mode.solve.name then .ok .solve
      else refuse (.unknownMode value)
  | _ => refuse (.unknownMode value)

end Check

end ConjugateResidual

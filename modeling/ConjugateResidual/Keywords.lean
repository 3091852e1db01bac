import ConjugateResidual.Check

/-!
The options of a solve as a caller spells them: by name, with values of any kind. `check` judges
them as they are; `Options.ofKeywords` first reads the numbers, so that a numeral in a text is a
number too.
-/

namespace ConjugateResidual

inductive ObserverArgument where
  | omitted
  | callable
  | value (value : Value)

structure Keywords where
  ridge : Value := .number 0.0
  absolute : Value := .absent
  relative : Value := .absent
  radius : Value := .number 0.0
  budget : Value := .integer 0
  interval : Value := .integer 0
  keepsHistory : Value := .truth false
  mode : Value := .text Mode.multiply.name
  observer : ObserverArgument := .omitted

/-- The tolerance that a field suggests: the square root of its precision. -/
def ElementType.tolerance? (elementType : ElementType) : Except (Fault Float) Float :=
  match elementType.precision? with
  | some precision => .ok precision.epsilon.sqrt
  | none => .error .notFloating

namespace Keywords

def set (keywords : Keywords) (name : String) (value : Value) : Except (Fault Float) Keywords :=
  match name with
  | "lam" => .ok { keywords with ridge := value }
  | "atol" => .ok { keywords with absolute := value }
  | "rtol" => .ok { keywords with relative := value }
  | "radius" => .ok { keywords with radius := value }
  | "itmax" => .ok { keywords with budget := value }
  | "verbose" => .ok { keywords with interval := value }
  | "history" => .ok { keywords with keepsHistory := value }
  | "precond_mode" => .ok { keywords with mode := value }
  | "callback" => .ok { keywords with observer := .value value }
  | _ => .error .unknownKeyword

def names : List String :=
  ["lam", "atol", "rtol", "radius", "itmax", "verbose", "history", "precond_mode"]

def toPairs (keywords : Keywords) : List (String × Value) :=
  names.zip
    [keywords.ridge, keywords.absolute, keywords.relative, keywords.radius, keywords.budget,
      keywords.interval, keywords.keepsHistory, keywords.mode]

def ofPairs (pairs : List (String × Value)) : Except (Fault Float) Keywords :=
  pairs.foldlM (fun keywords (name, value) => keywords.set name value) {}

def checkTolerance (name : String) : Value → Except (Fault Float) Unit
  | .absent => .ok ()
  | value => Check.nonnegative name value

def check (keywords : Keywords) : Except (Fault Float) Unit := do
  Check.nonnegative "lam" keywords.ridge
  checkTolerance "atol" keywords.absolute
  checkTolerance "rtol" keywords.relative
  Check.nonnegative "radius" keywords.radius
  discard (Check.nonnegativeInteger "itmax" keywords.budget)
  discard (Check.nonnegativeInteger "verbose" keywords.interval)
  discard (Check.mode keywords.mode)
  match keywords.observer with
  | .value value => Check.refuse (.notCallable value.kindName)
  | _ => .ok ()

def resolve (keywords : Keywords) (rows columns : Int) (elementType : ElementType) :
    Except (Fault Float) Keywords := do
  let tolerance ← elementType.tolerance?
  let fill : Value → Value
    | .absent => .number tolerance
    | value => value
  let resolved :=
    { keywords with
      absolute := fill keywords.absolute
      relative := fill keywords.relative
      budget :=
        if keywords.budget.integer? = some 0 then .integer (rows + columns) else keywords.budget }
  resolved.check
  .ok resolved

/-- A tolerance as a number, unless it is left out. -/
def readTolerance : Value → Except (Fault Float) Value
  | .absent => .ok .absent
  | value => value.toFloat.map Value.number

/-- The numbers read as floats and the history as a truth value. No observer is as good as one
that never stops. -/
def normalized (keywords : Keywords) : Except (Fault Float) Keywords := do
  let ridge ← keywords.ridge.toFloat
  let absolute ← readTolerance keywords.absolute
  let relative ← readTolerance keywords.relative
  let radius ← keywords.radius.toFloat
  .ok
    { keywords with
      ridge := .number ridge, absolute, relative, radius := .number radius
      keepsHistory := .truth keywords.keepsHistory.isTrue
      observer :=
        match keywords.observer with
        | .value .absent => .omitted
        | other => other }

end Keywords

namespace Options

def readTolerance? : Value → Except (Fault Float) (Option Float)
  | .absent => .ok none
  | value => value.toFloat.map some

def ofKeywords (keywords : Keywords) : Except (Fault Float) (Options Float) := do
  let normalized ← keywords.normalized
  normalized.check
  .ok
    { ridge := ← normalized.ridge.toFloat
      absolute? := ← readTolerance? normalized.absolute
      relative? := ← readTolerance? normalized.relative
      radius := ← normalized.radius.toFloat
      budget := ← Check.nonnegativeInteger "itmax" normalized.budget
      interval := ← Check.nonnegativeInteger "verbose" normalized.interval
      keepsHistory := normalized.keepsHistory.isTrue
      mode := ← Check.mode normalized.mode }

end Options

end ConjugateResidual

import ConjugateResidual.Decimal.Numeral
import ConjugateResidual.Decimal.Shortest
import ConjugateResidual.ElementType
import ConjugateResidual.Text.Quoted

/-!
Values as a caller hands them over, before anything is known of them: what kind of thing they
are called, how they are written in a message, whether they count as true, and which number they
stand for.
-/

namespace ConjugateResidual

inductive Value where
  | absent
  | truth (value : Bool)
  | integer (value : Int)
  | number (value : Float)
  | text (value : String)
  | list (items : List Value)
  | table (entries : List (String × Value))
  | typedInteger (elementType : ElementType) (value : Int)
  | typedNumber (precision : Precision) (value : Float)
  | typedComplex (precision : Precision) (value : Float)
  | typedTruth (value : Bool)

namespace Value

def kindName : Value → String
  | .absent => "NoneType"
  | .truth _ => "bool"
  | .integer _ => "int"
  | .number _ => "float"
  | .text _ => "str"
  | .list _ => "list"
  | .table _ => "dict"
  | .typedInteger elementType _ => elementType.name
  | .typedNumber .extended _ => "longdouble"
  | .typedNumber precision _ => (ElementType.real precision).name
  | .typedComplex .extended _ => "clongdouble"
  | .typedComplex precision _ => (ElementType.complex precision).name
  | .typedTruth _ => ElementType.boolean.name

def truthText (value : Bool) : String :=
  if value then "True" else "False"

def complexText (realPart : String) : String :=
  if realPart == "0.0" then "0j"
  else if realPart.endsWith ".0" then
    String.ofList realPart.toList.dropLast.dropLast ++ "+0j"
  else realPart ++ "+0j"

def commaSeparated (texts : List String) : String :=
  String.intercalate ", " texts

mutual

def literal : Value → String
  | .absent => "None"
  | .truth value => truthText value
  | .integer value => toString value
  | .number value => Decimal.shortest value
  | .text value => Text.quoted value
  | .list items => "[" ++ commaSeparated (literals items) ++ "]"
  | .table entries => "\x7b" ++ commaSeparated (entryLiterals entries) ++ "\x7d"
  | .typedInteger elementType value => "np." ++ elementType.name ++ "(" ++ toString value ++ ")"
  | .typedNumber .extended value =>
      "np.longdouble('" ++ Decimal.shortestIn Binary64.binary80 value ++ "')"
  | .typedNumber precision value =>
      "np." ++ (ElementType.real precision).name ++ "(" ++
        Decimal.shortestIn precision.format value ++ ")"
  | .typedComplex .extended value =>
      "np.clongdouble('" ++ complexText (Decimal.shortestIn Binary64.binary80 value) ++ "')"
  | .typedComplex precision value =>
      "np." ++ (ElementType.complex precision).name ++ "(" ++
        complexText (Decimal.shortestIn precision.format value) ++ ")"
  | .typedTruth value => "np." ++ truthText value ++ "_"

def literals : List Value → List String
  | [] => []
  | item :: rest => literal item :: literals rest

def entryLiterals : List (String × Value) → List String
  | [] => []
  | (key, value) :: rest => (Text.quoted key ++ ": " ++ literal value) :: entryLiterals rest

end

def tupleText (items : List Value) : String :=
  "(" ++ commaSeparated (literals items) ++ ")"

/-- The form inside a sentence: texts stand unquoted, and typed numbers read as plain ones. -/
def display : Value → String
  | .text value => value
  | .typedInteger _ value => toString value
  | .typedNumber _ value => Decimal.shortest value
  | .typedComplex _ value =>
      if value == 0.0 then "0j" else "(" ++ complexText (Decimal.shortest value) ++ ")"
  | .typedTruth value => truthText value
  | value => value.literal

/-- Zero and all that is empty count as false; a number that is not a number counts as true. -/
def isTrue : Value → Bool
  | .absent => false
  | .truth value | .typedTruth value => value
  | .integer value | .typedInteger _ value => value != 0
  | .number value | .typedNumber _ value | .typedComplex _ value => value != 0.0
  | .text value => !value.isEmpty
  | .list items => !items.isEmpty
  | .table entries => !entries.isEmpty

/-- The integer that a value is; a truth value is none. -/
def integer? : Value → Option Int
  | .integer value | .typedInteger _ value => some value
  | _ => none

def fitsSigned (value : Int) : Bool :=
  -Int.ofNat (Nat.pow 2 63) ≤ value && value < Int.ofNat (Nat.pow 2 63)

def fitsUnsigned (value : Int) : Bool :=
  0 ≤ value && value < Int.ofNat (Nat.pow 2 64)

def isOpaque : Value → Bool
  | .integer value => !fitsSigned value && !fitsUnsigned value
  | .absent | .table _ => true
  | _ => false

def isFloat : Value → Bool
  | .number _ | .typedNumber _ _ | .typedComplex _ _ => true
  | _ => false

end Value

end ConjugateResidual

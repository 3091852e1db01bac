import ConjugateResidual.Binary64

/-!
The types an array element can have, the smallest common type of two of them, and the casts
between them. The four types `float32`, `float64`, `complex64` and `complex128` are the fields
that a solve can run in.
-/

namespace ConjugateResidual

inductive Width where
  | w8 | w16 | w32 | w64
  deriving DecidableEq, Repr

def Width.bits : Width → Nat
  | .w8 => 8
  | .w16 => 16
  | .w32 => 32
  | .w64 => 64

/-- The signed integer of a width that agrees with a given one modulo the number of values. -/
def Width.wrapSigned (width : Width) (value : Int) : Int :=
  value.bmod (Nat.pow 2 width.bits)

def Width.wrapUnsigned (width : Width) (value : Int) : Int :=
  value % Int.ofNat (Nat.pow 2 width.bits)

def Width.max (left right : Width) : Width :=
  if left.bits ≤ right.bits then right else left

/-- Binary floating-point formats. The extended one has 64 binary digits. -/
inductive Precision where
  | half | single | double | extended
  deriving DecidableEq, Repr

def Precision.format : Precision → Binary64.Format
  | .half => Binary64.binary16
  | .single => Binary64.binary32
  | .double => Binary64.binary64
  | .extended => Binary64.binary80

def Precision.bits : Precision → Nat
  | .half => 16
  | .single => 32
  | .double => 64
  | .extended => 128

def Precision.max (left right : Precision) : Precision :=
  if left.bits ≤ right.bits then right else left

/-- The distance from one to the next larger number is `2 ^ -fractionBits`. -/
def Precision.fractionBits : Precision → Nat
  | .half => 10
  | .single => 23
  | .double => 52
  | .extended => 63

def Precision.epsilon (precision : Precision) : Float :=
  Binary64.ofRatio false 1 (Nat.pow 2 precision.fractionBits)

def Precision.round : Precision → Float → Float
  | .half, value => Binary64.binary16.round value
  | .single, value => Binary64.binary32.round value
  | .double, value => value
  | .extended, value => value

/-- Sums of half-precision products are accumulated in single precision. -/
def Precision.accumulator : Precision → Precision
  | .half => .single
  | precision => precision

def Width.precision : Width → Precision
  | .w8 => .half
  | .w16 => .single
  | .w32 => .double
  | .w64 => .double

inductive ElementType where
  | boolean
  | signed (width : Width)
  | unsigned (width : Width)
  | real (precision : Precision)
  | complex (precision : Precision)
  | text (width : Nat)
  | object
  | moment (unit : String)
  | duration (unit : String)
  /-- Types that are known by name only. -/
  | foreign (name : String)
  deriving DecidableEq, Repr

namespace ElementType

abbrev float16 : ElementType := .real .half
abbrev float32 : ElementType := .real .single
abbrev float64 : ElementType := .real .double
abbrev complex64 : ElementType := .complex .single
abbrev complex128 : ElementType := .complex .double

def name : ElementType → String
  | .boolean => "bool"
  | .signed width => "int" ++ toString width.bits
  | .unsigned width => "uint" ++ toString width.bits
  | .real precision => "float" ++ toString precision.bits
  | .complex precision => "complex" ++ toString (2 * precision.bits)
  | .text width => "<U" ++ toString width
  | .object => "object"
  | .moment unit => "datetime64" ++ unit
  | .duration unit => "timedelta64" ++ unit
  | .foreign name => name

def widths : List Width := [.w8, .w16, .w32, .w64]

def precisions : List Precision := [.half, .single, .double, .extended]

def named : List ElementType :=
  [.boolean] ++ widths.map .signed ++ widths.map .unsigned ++ precisions.map .real ++
    (precisions.drop 1).map .complex ++ [.text 0, .object]

def aliases : List (String × ElementType) :=
  [("longdouble", .real .extended), ("clongdouble", .complex .extended), ("str", .text 0),
    ("half", float16), ("single", float32), ("double", float64), ("float", float64),
    ("csingle", complex64), ("cdouble", complex128), ("complex", complex128),
    ("byte", .signed .w8), ("short", .signed .w16), ("intc", .signed .w32),
    ("int", .signed .w64), ("long", .signed .w64), ("longlong", .signed .w64),
    ("intp", .signed .w64), ("ubyte", .unsigned .w8), ("ushort", .unsigned .w16),
    ("uintc", .unsigned .w32), ("uint", .unsigned .w64), ("ulong", .unsigned .w64),
    ("ulonglong", .unsigned .w64), ("uintp", .unsigned .w64), ("bytes", .foreign "|S0"),
    ("void", .foreign "|V0")]

def ofCode? (kind : Char) (size : Nat) : Option ElementType :=
  let width? := widths.find? fun width => width.bits == 8 * size
  match kind with
  | 'i' => width?.map .signed
  | 'u' => width?.map .unsigned
  | 'f' => (precisions.find? fun precision => precision.bits == 8 * size).map .real
  | 'c' =>
      ((precisions.drop 1).find? fun precision => precision.bits == 4 * size).map .complex
  | 'U' => some (.text size)
  | 'S' | 'V' => some (.foreign ("|" ++ kind.toString ++ toString size))
  | _ => none

def readCode? (text : String) : Option ElementType :=
  match text.toList.dropWhile fun char => char == '<' || char == '=' || char == '|' with
  | kind :: size => (String.ofList size).toNat?.bind (ofCode? kind)
  | [] => none

def afterWord? (word name : String) : Option String :=
  if name.startsWith word then some (String.ofList (name.toList.drop word.length)) else none

def ofName? (text : String) : Option ElementType :=
  ((aliases.lookup text).or (named.find? fun elementType => elementType.name == text)).or
    (((afterWord? "datetime64" text).map .moment).or
      (((afterWord? "timedelta64" text).map .duration).or (readCode? text)))

def supported : List ElementType :=
  [float32, float64, complex64, complex128]

def isSupported (elementType : ElementType) : Bool :=
  supported.contains elementType

def isIntegral : ElementType → Bool
  | .boolean | .signed _ | .unsigned _ | .duration _ => true
  | _ => false

def isText : ElementType → Bool
  | .text _ => true
  | _ => false

def isTemporal : ElementType → Bool
  | .moment _ | .duration _ => true
  | _ => false

def hasProducts (elementType : ElementType) : Bool :=
  !elementType.isText && !elementType.isTemporal

def isInexact : ElementType → Bool
  | .real _ | .complex _ => true
  | _ => false

def isComplex : ElementType → Bool
  | .complex _ => true
  | _ => false

def precision? : ElementType → Option Precision
  | .real precision | .complex precision => some precision
  | _ => none

/-- The narrower-to-wider order of the number kinds; a cast down this order loses more than
precision. -/
def rank : ElementType → Nat
  | .boolean => 0
  | .unsigned _ => 1
  | .signed _ => 2
  | .real _ => 3
  | .complex _ => 4
  | .text _ | .object | .moment _ | .duration _ | .foreign _ => 5

def isNumeric (elementType : ElementType) : Bool :=
  elementType.rank ≤ 4

/-- A cast that keeps the kind of number: it may lose precision or range, but neither a
fraction, a sign, nor an imaginary part. An object array takes everything. -/
def canCastWithinKind (source target : ElementType) : Bool :=
  source == target || target == .object ||
    (source.isNumeric && target.isNumeric && source.rank ≤ target.rank)

/-- The signed type that holds a signed and an unsigned one, or `float64` when none does. -/
def mixedSigns (signedWidth unsignedWidth : Width) : ElementType :=
  if unsignedWidth.bits < signedWidth.bits then .signed signedWidth
  else
    match unsignedWidth with
    | .w8 => .signed .w16
    | .w16 => .signed .w32
    | .w32 => .signed .w64
    | .w64 => float64

def promote : ElementType → ElementType → ElementType
  | .boolean, other | other, .boolean => other
  | .signed left, .signed right => .signed (left.max right)
  | .unsigned left, .unsigned right => .unsigned (left.max right)
  | .signed left, .unsigned right | .unsigned right, .signed left => mixedSigns left right
  | .real left, .real right => .real (left.max right)
  | .complex left, .complex right => .complex (left.max right)
  | .real left, .complex right | .complex right, .real left => .complex (left.max right)
  | .real left, .signed right | .signed right, .real left => .real (left.max right.precision)
  | .real left, .unsigned right | .unsigned right, .real left =>
      .real (left.max right.precision)
  | .complex left, .signed right | .signed right, .complex left =>
      .complex (left.max right.precision)
  | .complex left, .unsigned right | .unsigned right, .complex left =>
      .complex (left.max right.precision)
  | _, _ => .object

def canCastSafely (source target : ElementType) : Bool :=
  promote source target = target

def fractionField (elementType : ElementType) : ElementType :=
  if elementType.canCastSafely float32 then float32 else float64

/-- The arithmetic a vector routine uses for an element type: half precision and narrow integers
run in single precision, all other reals in double. What is no number outranks the numbers. -/
def routineRank : ElementType → Nat
  | .boolean => 1
  | .signed .w8 | .signed .w16 | .unsigned .w8 | .unsigned .w16 => 1
  | .real .half | .real .single => 1
  | .signed _ | .unsigned _ | .real _ => 2
  | .complex .half | .complex .single => 3
  | .complex _ => 4
  | .text _ | .object | .moment _ | .duration _ | .foreign _ => 5

/-- The common field of a vector routine over several arrays. Double precision and a complex
number together need double precision complex arithmetic; what is no number is read as double. -/
def routineField (operands : List ElementType) : ElementType :=
  let ranks := operands.map routineRank
  match ranks.foldl max 0 with
  | 1 => float32
  | 3 => if ranks.contains 2 then complex128 else complex64
  | 4 => complex128
  | _ => float64

theorem promote_self_of_supported {elementType : ElementType}
    (isField : elementType ∈ supported) : promote elementType elementType = elementType := by
  simp only [supported, List.mem_cons, List.not_mem_nil, or_false] at isField
  rcases isField with rfl | rfl | rfl | rfl <;> decide

end ElementType

end ConjugateResidual

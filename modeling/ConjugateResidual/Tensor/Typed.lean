import ConjugateResidual.Tensor.Nested
import ConjugateResidual.Value.Calculation

/-!
Nested lists read as arrays of a given element type. A complex entry is a pair; a text among
numbers spells one.
-/

namespace ConjugateResidual

namespace Value

def isList : Value → Bool
  | .list _ => true
  | _ => false

def isEntry (isComplex : Bool) : Value → Bool
  | .list [re, im] => isComplex && !re.isList && !im.isList
  | .list _ => false
  | _ => true

mutual

def entriesOf (isComplex : Bool) (item : Value) : List Value :=
  match item with
  | .list items =>
      if isEntry isComplex (.list items) then [.list items] else entriesOfAll isComplex items
  | entry => [entry]

def entriesOfAll (isComplex : Bool) : List Value → List Value
  | [] => []
  | item :: rest => entriesOf isComplex item ++ entriesOfAll isComplex rest

end

def dimensions (isComplex : Bool) : Value → List Nat
  | .list [] => [0]
  | .list (first :: rest) =>
      if isEntry isComplex (.list (first :: rest)) then []
      else (rest.length + 1) :: dimensions isComplex first
  | _ => []

def hasDimensions (isComplex : Bool) : List Nat → Value → Bool
  | [], item => isEntry isComplex item
  | size :: inner, .list items =>
      items.length == size && items.all (hasDimensions isComplex inner)
  | _ :: _, _ => false

end Value

namespace Entry

def ofValue : Value → Entry
  | .list [re, im] => .number ⟨re.reading, im.reading⟩
  | value => .given value

def readInteger (elementType : ElementType) (value : Value) : Except (Fault Float) Entry := do
  let whole ←
    match value.whole? with
    | some whole => .ok whole
    | none => do
        let real ← value.toFloat
        if real.isNaN then .error .unreadableNumber
        match Binary64.truncate? real with
        | some whole => .ok whole
        | none => .error .integerOutOfRange
  let entry := (Entry.integer whole).convert elementType
  if entry.toInteger = whole then .ok entry else .error .integerOutOfRange

def read (elementType : ElementType) (leaf : Value) : Except (Fault Float) Entry :=
  match elementType, leaf with
  | .signed _, value | .unsigned _, value => readInteger elementType value
  | .real _, .absent | .complex _, .absent => .ok ((ofReal (0.0 / 0.0)).convert elementType)
  | .complex _, .list [re, im] => do
      let realPart ← re.toFloat
      let imaginaryPart ← im.toFloat
      .ok ((Entry.number ⟨realPart, imaginaryPart⟩).convert elementType)
  | .real _, value | .complex _, value => do
      let _ ← value.toFloat
      .ok ((Entry.given value).convert elementType)
  | other, value => .ok ((Entry.given value).convert other)

end Entry

namespace Tensor

/-- The shape that a number of entries takes. A single negative size stands for what the other
sizes leave over. -/
def fittedShape? (count : Nat) (sizes : List Int) : Option (List Nat) :=
  let known := volume ((sizes.filter (0 ≤ ·)).map Int.toNat)
  let shape := sizes.map fun size => if 0 ≤ size then size.toNat else count / known
  let isSettled := sizes.all (0 ≤ ·) || (sizes.countP (· < 0) == 1 && known != 0)
  if isSettled ∧ volume shape = count then some shape else none

/-- Nested lists as an array of an element type, or flat ones with a shape, which has to fit. Texts
without a width take that of the longest one. -/
def read (elementType : ElementType) (sizes? : Option (List Int)) (items : Value) :
    Except (Fault Float) Tensor := do
  let values := items.entriesOf elementType.isComplex
  let own : ElementType :=
    match elementType with
    | .text 0 => .text (values.foldl (fun width value => max width value.display.length) 1)
    | other => other
  let dimensions := items.dimensions elementType.isComplex
  let entries ← values.mapM (Entry.read own)
  if !items.hasDimensions elementType.isComplex dimensions then .error .shapeMismatch
  else
    match fittedShape? entries.length (sizes?.getD (dimensions.map Int.ofNat)) with
    | some shape => .ok { elementType := own, shape, entries }
    | none => .error .shapeMismatch

end Tensor

end ConjugateResidual

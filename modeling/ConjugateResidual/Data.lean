import ConjugateResidual.Tensor.Nested

/-!
Arrays as a caller hands them over: ready ones, nested lists that may become one, or lists that
could not be read as the array they were meant to be.
-/

namespace ConjugateResidual

inductive Data where
  | array (tensor : Tensor)
  | nested (value : Value)
  | unreadable (fault : Fault Float)

namespace Data

def ofReading : Except (Fault Float) Tensor → Data
  | .ok tensor => .array tensor
  | .error fault => .unreadable fault

/-- Data as an array; lists that nest unevenly are none. -/
def toTensor : Data → Except (Fault Float) Tensor
  | .array tensor => .ok tensor
  | .nested value =>
      match Tensor.ofNested value with
      | .ok tensor => .ok tensor
      | .error _ => .error .shapeMismatch
  | .unreadable fault => .error fault

def givenArray : Data → Except (Fault Float) Tensor
  | .array tensor => .ok tensor
  | .nested _ => .error .lacksMember
  | .unreadable fault => .error fault

end Data

end ConjugateResidual

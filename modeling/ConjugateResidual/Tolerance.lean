import ConjugateResidual.Fault

/-!
How closely a solution may be expected to agree with a direct one, by precision.
-/

namespace ConjugateResidual

structure Tolerance where
  relative : Float
  absolute : Float
  name : String
  description : String

namespace Tolerance

def double : Tolerance :=
  { relative := 1e-6
    absolute := 1e-8
    name := "fp64"
    description := "double precision, agrees with dense lstsq to ~sqrt(eps)" }

def doubleIllConditioned : Tolerance :=
  { relative := 1e-3
    absolute := 1e-5
    name := "fp64_ill_conditioned"
    description := "double precision, ill-conditioned (cond > 1e4)" }

def single : Tolerance :=
  { relative := 1e-2
    absolute := 1e-3
    name := "fp32"
    description := "single precision, recurred residuals drift quickly" }

def select (elementType : ElementType) (illConditioned : Bool) :
    Except (Fault Float) Tolerance :=
  match elementType.precision? with
  | none => .error .notFloating
  | some precision =>
      if precision.bits ≤ 32 then .ok single
      else if illConditioned then .ok doubleIllConditioned
      else .ok double

end Tolerance

def ElementType.realPart (elementType : ElementType) : Except (Fault Float) ElementType :=
  match elementType.precision? with
  | some precision => .ok (.real precision)
  | none => .error .notFloating

def ElementType.machineEpsilon (elementType : ElementType) : Except (Fault Float) Float :=
  match elementType.precision? with
  | some precision => .ok precision.epsilon
  | none => .error .notFloating

end ConjugateResidual

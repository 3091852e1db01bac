import ConjugateResidual.Proofs.Machine.Probes

/-!
How a design is built. The equations come first: a right-hand side and an operator that fit each
other. A preconditioner is looked at when they have been accepted, and all that is asked of it
afterwards is its element type.
-/

namespace ConjugateResidual

namespace ElementType

theorem isInexact_of_isSupported {field : ElementType} (supported : field.isSupported = true) :
    field.isInexact = true := by
  have isField : field ∈ [float32, float64, complex64, complex128] := by
    simpa [isSupported, ElementType.supported] using supported
  simp only [List.mem_cons, List.not_mem_nil, or_false] at isField
  rcases isField with rfl | rfl | rfl | rfl <;> rfl

private theorem isNumeric_of_isInexact {elementType : ElementType}
    (inexact : elementType.isInexact = true) : elementType.isNumeric = true := by
  cases elementType <;> simp_all [isInexact, isNumeric, rank]

end ElementType

private theorem Reply.bind_ofExcept {J R A B : Type} (reply : Reply J R A)
    (next : A → Except (Fault R) B) :
    (reply >>= fun value => ofExcept (next value)) =
      { journal := reply.journal, outcome := reply.outcome >>= next } := by
  obtain ⟨notes, outcome⟩ := reply
  cases outcome with
  | error fault => rfl
  | ok value =>
      rw [bind_of_ok rfl]
      dsimp only [ofExcept]
      rw [List.append_nil]
      rfl

namespace Check

theorem lengthAgainst_integer {name origin : String} {tensor : Tensor} {own : Nat}
    (shape : tensor.shape = [own]) (expected : Nat) :
    length name tensor expected origin =
      if own = expected then .ok ()
      else refuse (.lengthMismatch name own (.integer expected) origin) := by
  unfold length lengthAgainst
  rw [shape]
  dsimp only
  rw [Value.equals_integer]
  by_cases same : own = expected
  · simp [same]
  · have other : (own : Int) ≠ expected := fun equal => same (Int.ofNat_inj.mp equal)
    simp [same, other]

private theorem of_oneDimensional_eq_ok {name : String} {tensor : Tensor}
    (checked : oneDimensional name tensor = .ok ()) : tensor.shape.length = 1 := by
  unfold oneDimensional at checked
  split at checked
  · assumption
  · cases checked

theorem sameField_eq_ok_iff {name : String} {elementType expected : ElementType} :
    sameField name elementType expected = .ok () ↔ elementType = expected := by
  unfold sameField
  split
  · simpa
  · simpa [refuse]

theorem of_supportedField_eq_ok {name : String} {elementType : ElementType}
    (checked : supportedField name elementType = .ok ()) : elementType.isSupported = true := by
  unfold supportedField at checked
  split at checked
  · assumption
  · cases checked

/-- Numbers of a supported field can be looked at, so that the last check does not end otherwise
than by a refusal. -/
theorem finite_eq {name : String} {tensor : Tensor}
    (supported : tensor.elementType.isSupported = true) :
    finite name tensor =
      if tensor.entries.all Entry.isFinite then .ok ()
      else
        refuse (.nonFinite name (tensor.entries.countP Entry.isNan)
          (tensor.entries.countP Entry.isInfinite)) := by
  have numeric : tensor.elementType.isNumeric = true :=
    ElementType.isNumeric_of_isInexact (ElementType.isInexact_of_isSupported supported)
  unfold finite
  simp [numeric]

end Check

namespace Design

structure Admits (tensor : Tensor) : Prop where
  flat : tensor.shape.length = 1
  supported : tensor.elementType.isSupported = true
  finite : tensor.entries.all Entry.isFinite = true

theorem checkRightHandSide_eq_ok_iff {data : Data} {tensor : Tensor} :
    checkRightHandSide data = .ok tensor ↔ Check.array "b" data = .ok tensor ∧ Admits tensor := by
  unfold checkRightHandSide
  constructor
  · intro checked
    obtain ⟨read, arrayed, checked⟩ := of_bind_eq_ok checked
    obtain ⟨⟨⟩, single, checked⟩ := of_bind_eq_ok checked
    obtain ⟨⟨⟩, field, checked⟩ := of_bind_eq_ok checked
    obtain ⟨⟨⟩, looked, checked⟩ := of_bind_eq_ok checked
    cases checked
    have supported := Check.of_supportedField_eq_ok field
    refine ⟨arrayed, { flat := Check.of_oneDimensional_eq_ok single, supported, finite := ?_ }⟩
    rw [Check.finite_eq supported] at looked
    split at looked
    · assumption
    · cases looked
  · rintro ⟨arrayed, flat, supported, finite⟩
    simp only [arrayed, bind, Except.bind, Check.finite_eq supported, Check.oneDimensional,
      Check.supportedField, flat, supported, finite, if_true]

end Design

structure Design.Equations (operatorSource : Source) (data : Data) (rightHandSide : Tensor)
    (operator : LinearOperator) : Prop where
  checked : checkRightHandSide data = .ok rightHandSide
  formed : (operatorSource.toOperator "A").outcome = .ok operator
  shape : rightHandSide.shape = [operator.rows]
  field : operator.elementType = rightHandSide.elementType

def Preconditioner.checkField (preconditioner : Preconditioner) (field : ElementType) :
    Check.Outcome Unit :=
  match preconditioner.elementType? with
  | some elementType => Check.sameField "M" elementType field
  | none => .ok ()

theorem Preconditioner.checkField_eq_ok_iff {preconditioner : Preconditioner}
    {field : ElementType} :
    preconditioner.checkField field = .ok () ↔
      ∀ elementType ∈ preconditioner.elementType?, elementType = field := by
  unfold checkField
  cases preconditioner.elementType? with
  | none => simp
  | some elementType => simpa using Check.sameField_eq_ok_iff

namespace Design

variable {operatorSource weightSource : Source} {data : Data} {modeValue : Value}
variable {rightHandSide : Tensor} {operator : LinearOperator}

/-- With the equations accepted, the rest is up to the preconditioner. -/
theorem Equations.build_eq (equations : Equations operatorSource data rightHandSide operator) :
    build operatorSource data weightSource modeValue =
      let weight := Preconditioner.build "M" weightSource modeValue operator.rows
      { journal := (operatorSource.toOperator "A").journal ++ weight.journal
        outcome := do
          let preconditioner ← weight.outcome
          preconditioner.checkField rightHandSide.elementType
          .ok { operator, rightHandSide, preconditioner } } := by
  have fits : Check.length "b" rightHandSide operator.rows "rows of A" = .ok () := by
    rw [Check.lengthAgainst_integer equations.shape, if_pos rfl]
  have agrees : Check.sameField "A" operator.elementType rightHandSide.elementType = .ok () :=
    Check.sameField_eq_ok_iff.mpr equations.field
  have asks (preconditioner : Preconditioner) :
      (match preconditioner.elementType? with
        | some elementType => do
            Reply.ofExcept (Check.sameField "M" elementType rightHandSide.elementType)
            pure { operator, rightHandSide, preconditioner }
        | none => pure { operator, rightHandSide, preconditioner } : Answer Design) =
        Reply.ofExcept (preconditioner.checkField rightHandSide.elementType >>= fun _ =>
          .ok { operator, rightHandSide, preconditioner }) := by
    unfold Preconditioner.checkField
    cases preconditioner.elementType? with
    | none => rfl
    | some elementType =>
        dsimp only
        cases Check.sameField "M" elementType rightHandSide.elementType with
        | error fault => rfl
        | ok => rfl
  unfold build
  simp only [equations.checked, Reply.ofExcept_ok, pure_bind, Reply.bind_of_ok equations.formed,
    fits, agrees]
  have asked := (bind_congr asks).trans (Reply.bind_ofExcept
    (Preconditioner.build "M" weightSource modeValue operator.rows) _)
  exact congrArg (fun reply : Answer Design =>
    ({ reply with journal := (operatorSource.toOperator "A").journal ++ reply.journal } :
      Answer Design)) asked

/-- What a design has been accepted for. -/
theorem equations_of_build {design : Design}
    (built : (build operatorSource data weightSource modeValue).outcome = .ok design) :
    Equations operatorSource data design.rightHandSide design.operator ∧
      (Preconditioner.build "M" weightSource modeValue design.rows).outcome =
        .ok design.preconditioner ∧
      design.preconditioner.checkField design.field = .ok () := by
  obtain ⟨checked, formed⟩ := of_build_eq_ok built
  have stages := built
  unfold build at stages
  rw [checked, Reply.ofExcept_ok, pure_bind, Reply.outcome_bind_of_ok formed] at stages
  obtain ⟨⟨⟩, fits, stages⟩ := Reply.of_bind_eq_ok stages
  obtain ⟨⟨⟩, agrees, _⟩ := Reply.of_bind_eq_ok stages
  have flat := (checkRightHandSide_eq_ok_iff.mp checked).2.flat
  obtain ⟨length, shape⟩ := List.length_eq_one_iff.mp flat
  have same : length = design.operator.rows := by
    change Check.length "b" design.rightHandSide design.operator.rows "rows of A" = .ok () at fits
    rw [Check.lengthAgainst_integer shape] at fits
    split at fits
    · assumption
    · cases fits
  have equations : Equations operatorSource data design.rightHandSide design.operator :=
    { checked, formed
      shape := by rw [shape, same]
      field := Check.sameField_eq_ok_iff.mp agrees }
  refine ⟨equations, ?_⟩
  rw [equations.build_eq] at built
  obtain ⟨preconditioner, weighs, built⟩ := of_bind_eq_ok built
  obtain ⟨⟨⟩, fields, built⟩ := of_bind_eq_ok built
  obtain rfl : preconditioner = design.preconditioner :=
    congrArg Design.preconditioner (Except.ok.inj built)
  exact ⟨weighs, fields⟩

end Design

end ConjugateResidual

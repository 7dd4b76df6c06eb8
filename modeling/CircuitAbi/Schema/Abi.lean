import CircuitAbi.Schema.Signature

/-!
# Interface descriptions

What a circuit publishes: its named inputs, each disclosed to the verifier or kept by the prover,
and its outputs.
-/

set_option autoImplicit false

namespace CircuitAbi

/-- A named input; a disclosed one is public, the others stay with the prover. -/
structure Input where
  name : Name
  disclosed : Bool
  type : SchemaType

/-- The inputs and outputs of a circuit, in order. -/
structure Abi where
  inputs : List Input
  outputs : List SchemaType

namespace Input

/-- The input of a name, a visibility and a type. -/
def ofValues (name disclosed type : Value) : Except Failure Input :=
  match name.name? with
  | none => .error (.schema .inputName)
  | some n =>
    match disclosed with
    | .bool b =>
      match type with
      | .type t => .ok ⟨n, b, t⟩
      | other => other.refuse (.inputType n)
    | _ => .error (.schema (.inputVisibility n))

/-- Whether two inputs are equal. -/
def equal (a b : Input) : Except Limit Bool :=
  if a.name = b.name ∧ a.disclosed = b.disclosed then a.type.equal b.type else return false

end Input

namespace Abi

/-- The interface of inputs, of which some may be other values, and outputs. -/
def ofValues (inputs : List (Input ⊕ Value)) (outputs : List Value) : Except Failure Abi := do
  let ins ← inputs.mapM fun i =>
    match i with
    | .inl i => .ok i
    | .inr v => v.refuse .notInput
  let outs ← Value.types .outputType outputs
  return ⟨ins, outs⟩

/-- The bare types, without names and visibility. -/
def signature (a : Abi) : Signature := ⟨a.inputs.map Input.type, a.outputs⟩

/-- The inputs disclosed to the verifier, in order. -/
def publicInputs (a : Abi) : List Input := a.inputs.filter Input.disclosed

/-- The inputs that stay with the prover, in order. -/
def privateInputs (a : Abi) : List Input := a.inputs.filter (!·.disclosed)

/-- Whether two interfaces are equal. -/
def equal (a b : Abi) : Except Limit Bool := do
  if ← pairwiseEqual Input.equal a.inputs b.inputs then
    pairwiseEqual SchemaType.equal a.outputs b.outputs
  else return false

end Abi

end CircuitAbi

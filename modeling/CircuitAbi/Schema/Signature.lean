import CircuitAbi.Schema.Build
import CircuitAbi.Schema.Equality

/-!
# Signatures

The bare types of a circuit's inputs and outputs, in order, and their display
`(field[2], bool) -> (field)`.
-/

set_option autoImplicit false

namespace CircuitAbi

/-- The types of a circuit's inputs and outputs, in order. -/
structure Signature where
  inputs : List SchemaType
  outputs : List SchemaType

namespace Signature

/-- The signature of values, each of which has to be a type. -/
def ofValues (inputs outputs : List Value) : Except Failure Signature := do
  let ins ← Value.types .signatureEntry inputs
  let outs ← Value.types .signatureEntry outputs
  return ⟨ins, outs⟩

/-- How many primitive values the types stand for. -/
def primitives (types : List SchemaType) : Nat :=
  types.foldr (fun t rest => t.count + rest) 0

/-- How many primitive values the types stand for, within the limits. -/
def primitives? : List SchemaType → Except Limit Nat
  | [] => .ok 0
  | t :: rest => do
    let count ← t.count?
    return count + (← primitives? rest)

/-- The signature as messages and reports show it. -/
def text (s : Signature) : Text :=
  "(" ++ Text.join ", " (s.inputs.map SchemaType.text) ++ ") -> (" ++
    Text.join ", " (s.outputs.map SchemaType.text) ++ ")"

/-- The signature as messages and reports show it, within the limits. -/
def text? (s : Signature) : Except Limit Text := do
  let ins ← s.inputs.mapM SchemaType.text?
  let outs ← s.outputs.mapM SchemaType.text?
  return "(" ++ Text.join ", " ins ++ ") -> (" ++ Text.join ", " outs ++ ")"

/-- The signature as the constructors that build it. -/
def display (s : Signature) : Except Limit Text := do
  let ins ← s.inputs.mapM SchemaType.display
  let outs ← s.outputs.mapM SchemaType.display
  return "Signature(inputs=" ++ displayTuple ins ++ ", outputs=" ++ displayTuple outs ++ ")"

/-- Whether two signatures have equal types in the same order. -/
def equal (a b : Signature) : Except Limit Bool := do
  if ← pairwiseEqual SchemaType.equal a.inputs b.inputs then
    pairwiseEqual SchemaType.equal a.outputs b.outputs
  else return false

end Signature

end CircuitAbi

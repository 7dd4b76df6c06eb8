import CircuitAbi.Command.Table
import CircuitAbi.Failure
import CircuitAbi.Json.Printer
import CircuitAbi.Schema.Abi

/-!
# Reports on an interface

What `inspect` shows: the signature, each input and output with its type and its number of
primitive values, and the totals; as a JSON document or as tables.
-/

set_option autoImplicit false

namespace CircuitAbi.Command

/-- The visibility of an input, in words. -/
def visibility (i : Input) : Text := if i.disclosed then "public" else "private"

/-- One input or output: its type as shown, and its primitive values. -/
structure TypeLine where
  type : Text
  primitives : Nat

/-- A report on an interface. -/
structure Report where
  signature : Text
  inputs : List (Input × TypeLine)
  outputs : List TypeLine
  primitiveInputs : Nat
  primitiveOutputs : Nat

/-- The line of a type. -/
def TypeLine.of (t : SchemaType) : Except Limit TypeLine := do
  let shown ← t.text?
  let count ← t.count?
  return ⟨shown, count⟩

/-- The report on an interface. -/
def Report.of (a : Abi) : Except Limit Report := do
  let shown ← a.signature.text?
  let inputs ← a.inputs.mapM fun i => do return (i, ← TypeLine.of i.type)
  let outputs ← a.outputs.mapM TypeLine.of
  return ⟨shown, inputs, outputs, Signature.primitives a.signature.inputs,
    Signature.primitives a.signature.outputs⟩

/-- The report as a document. -/
def Report.document (r : Report) : Value :=
  let line (t : TypeLine) : Entries := [("type", .text t.type), ("primitives", .int t.primitives)]
  .object [("signature", .text r.signature),
    ("inputs", .list (r.inputs.map fun (i, t) =>
      .object (("name", .text i.name.val) :: ("visibility", .text (visibility i)) :: line t))),
    ("outputs", .list (r.outputs.map fun t => .object (line t))),
    ("primitive_inputs", .int r.primitiveInputs), ("primitive_outputs", .int r.primitiveOutputs)]

/-- A table of lines, with the columns of its own after the numbers of the lines. -/
def linesTable (title : Text) (own : List Column) (lines : List TypeLine) :
    Except Failure Text := do
  let counts ← (lines.mapM fun t => Decimal.print t.primitives).mapError Failure.limit
  let n := lines.length
  let columns := ⟨"#", true, (List.range n).map Decimal.ofNat⟩ :: own ++
    [⟨"type", false, lines.map TypeLine.type⟩, ⟨"primitives", true, counts⟩]
  (table (title ++ " (" ++ Decimal.ofNat n ++ ")") n columns).mapError Failure.markup

/-- The report as tables, and the signature below them. -/
def Report.tables (r : Report) : Except Failure Text := do
  let inputs := r.inputs.map (·.1)
  let own : List Column := [⟨"name", false, inputs.map (·.name.val)⟩,
    ⟨"visibility", false, inputs.map visibility⟩]
  let first ← linesTable "inputs" own (r.inputs.map (·.2))
  let second ← linesTable "outputs" [] r.outputs
  let signature := linesOf (Markup.literal ("signature: " ++ r.signature))
  return first ++ second ++ Text.join "\n" signature ++ "\n"

end CircuitAbi.Command

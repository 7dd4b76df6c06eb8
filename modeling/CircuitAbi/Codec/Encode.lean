import CircuitAbi.Json.Printer
import CircuitAbi.Schema.Abi
import CircuitAbi.Settings.Reading

/-!
# Interface descriptions as documents

A type document has the type's kind under `type`. A scalar has nothing else; an array and a struct
carry their parts under `components`, where the element or member type is laid flat beside the
size or name. An input document is a type document with name and visibility in front. Keys come in
a fixed order, so the text of a document is determined.

* `SchemaType.entries`, `Input.document`, `Abi.document` — the documents.
* `Abi.text` — the JSON text, compact or indented.
-/

set_option autoImplicit false

namespace CircuitAbi

namespace SchemaType

mutual

/-- The entries of a type document. -/
def entries : SchemaType → Entries
  | field => [("type", .text "field")]
  | bool => [("type", .text "bool")]
  | uint width form => [("type", .text (kind (.uint width form)))]
  | array element size =>
    [("type", .text "array"), ("components", .object (("size", .int size) :: element.entries))]
  | struct name members =>
    [("type", .text "struct"),
      ("components", .object [("name", .text name.val),
        ("members", .list (memberDocuments members))])]
termination_by structural t => t

/-- The documents of struct members. -/
def memberDocuments : List (Name × SchemaType) → List Value
  | [] => []
  | (name, t) :: rest => .object (("name", .text name.val) :: t.entries) :: memberDocuments rest
termination_by structural ms => ms

end

/-- The document of a type. -/
def document (t : SchemaType) : Value := .object t.entries

end SchemaType

/-- The document of an input. -/
def Input.document (i : Input) : Value :=
  .object (("name", .text i.name.val) :: ("public", .bool i.disclosed) :: i.type.entries)

/-- The document of an interface. -/
def Abi.document (a : Abi) : Value :=
  .object [("inputs", .list (a.inputs.map Input.document)),
    ("outputs", .list (a.outputs.map SchemaType.document))]

/-- The document of a value that has to be a type, within the limit on nesting. -/
def Value.typeDocument : Value → Except Failure Value
  | .type t => if t.depth > nestingLimit then .error (.limit .nesting) else .ok t.document
  | other => other.refuse .notEncodable

/-- The document of an input, within the limit on nesting. -/
def Input.document? (i : Input) : Except Failure Value :=
  if i.type.depth > nestingLimit then .error (.limit .nesting) else .ok i.document

namespace Abi

/-- No type of the interface nests too far to be encoded. -/
def encodable (a : Abi) : Bool :=
  a.inputs.all (·.type.depth ≤ nestingLimit) && a.outputs.all (·.depth ≤ nestingLimit)

/-- The document of an interface, within the limit on nesting. -/
def document? (a : Abi) : Except Failure Value :=
  if a.encodable then .ok a.document else .error (.schema .nesting)

/-- The JSON text of an interface: on one line, or indented by a given number of spaces, or else
by as many as the settings say, which are read only then. -/
def text (a : Abi) (pretty : Bool) (indent : Option Int) : Operation Text := do
  let doc ← Operation.ofExcept a.document?
  if pretty || indent.isSome then
    let spaces ← Operation.orSetting indent Config.indent
    Operation.ofLimited (Json.print? (.indented spaces) doc)
  else
    Operation.ofLimited (Json.print? .compact doc)

/-- The text as files hold it, with a newline at the end. -/
def fileText (a : Abi) (pretty : Bool) : Operation Text := return (← a.text pretty none) ++ "\n"

end Abi

end CircuitAbi

import CircuitAbi.Codec.Fault
import CircuitAbi.Schema.Abi
import CircuitAbi.Settings.Reading

/-!
# Interface descriptions from documents

The inverse of encoding. Every node is checked in the order in which it is read, and the first
fault decides; its place is the path of accessors from the root of the document. In strict mode an
object may hold no other keys than its own.

* `decodeEntries` — the type laid flat in an object, beside keys that belong to the object itself.
* `Value.decodeType`, `Value.decodeInput`, `Value.decodeAbi` — the three kinds of documents.

A name that is not Unicode and nesting that goes too far are reported for the document as a whole.
-/

set_option autoImplicit false

namespace CircuitAbi

/-- The kind of type that a document announces. -/
inductive TypeKind
  | field
  | bool
  | uint (width : Width)
  | array
  | struct
  deriving DecidableEq

/-- The kind that a word announces. -/
def TypeKind.ofText? (t : Text) : Option TypeKind :=
  if t = "field" then some field
  else if t = "bool" then some bool
  else if t = "u8" then some (uint .w8)
  else if t = "u16" then some (uint .w16)
  else if t = "u32" then some (uint .w32)
  else if t = "u64" then some (uint .w64)
  else if t = "array" then some array
  else if t = "struct" then some struct
  else none

/-- Why decoding stopped: a fault at a node, an invalid name, or a limit. -/
inductive DecodeStop
  | fault (path : List Accessor) (fault : DecodeFault)
  | name (owner : NameOwner)
  | limit (l : Limit)

/-- A decoded part, or why decoding stopped. -/
abbrev Decoding := Except DecodeStop

namespace Decoding

variable {α : Type}

/-- Decoding of a part, whose faults lie one step further down. -/
def within (a : Accessor) : Decoding α → Decoding α
  | .error (.fault path fault) => .error (.fault (a :: path) fault)
  | r => r

/-- A fault at the node itself. -/
def fail (fault : DecodeFault) : Decoding α := .error (.fault [] fault)

/-- The entries of a node that has to be an object. -/
def object (role : Text) : Value → Decoding Entries
  | .object entries => .ok entries
  | other => fail (.notObject role other.kind)

/-- The value of a key that has to be there. -/
def require (key : Text) (doc : Entries) : Decoding Value :=
  match doc.get? key with
  | some v => .ok v
  | none => fail (.missing key)

/-- The text under a key. -/
def text (key : Text) (doc : Entries) : Decoding Text := do
  match ← require key doc with
  | .text t => return t
  | other => within (.key key) (fail (.notText key other.kind))

/-- The list under a key. -/
def list (key : Text) (doc : Entries) : Decoding (List Value) := do
  match ← require key doc with
  | .list items => return items
  | other => within (.key key) (fail (.notList key other.kind))

/-- In strict mode, no other keys than the allowed ones; the first other one is the fault. -/
def checkKeys (strict : Bool) (allowed : List Text) (doc : Entries) : Decoding Unit :=
  if strict then
    match doc.find? (!allowed.contains ·.1) with
    | some (key, _) => fail (.unexpected key)
    | none => return ()
  else return ()

/-- A text that has to be a name. -/
def name (owner : NameOwner) (t : Text) : Decoding Name :=
  match Name.ofText? t with
  | some n => .ok n
  | none => .error (.name owner)

/-- The size of an array. -/
def size (v : Value) : Decoding Nat :=
  match v with
  | .int (.ofNat n) => .ok n
  | .int n => if Decimal.fits n then fail (.sizeNegative n) else .error (.limit .printing)
  | other => fail (.sizeNotWhole other.kind)

/-- The items of a list, each decoded at its index. -/
def items (decode : Value → Decoding α) (values : List Value) : Decoding (List α) :=
  values.zipIdx.mapM fun (v, i) => within (.index i) (decode v)

/-- The type laid flat in an object, beside the keys `own` that belong to the object itself, down
to a number of levels. -/
def entries (strict : Bool) : Nat → List Text → Entries → Decoding SchemaType
  | 0, _, _ => .error (.limit .nesting)
  | room + 1, own, doc => do
    match ← require "type" doc with
    | .text word =>
      match TypeKind.ofText? word with
      | some .field => checkKeys strict ("type" :: own) doc; return .field
      | some .bool => checkKeys strict ("type" :: own) doc; return .bool
      | some (.uint w) => checkKeys strict ("type" :: own) doc; return .uint w .whole
      | some .array =>
        checkKeys strict ("type" :: "components" :: own) doc
        let parts ← require "components" doc
        within (.key "components") do
          let parts ← object "array components" parts
          let given ← require "size" parts
          let n ← within (.key "size") (size given)
          let element ← entries strict room ["size"] parts
          return .array element n
      | some .struct =>
        checkKeys strict ("type" :: "components" :: own) doc
        let parts ← require "components" doc
        within (.key "components") do
          let parts ← object "struct components" parts
          checkKeys strict ["name", "members"] parts
          let structName ← text "name" parts
          let given ← list "members" parts
          let members ← within (.key "members") (items (fun v => do
            let doc ← object "struct member" v
            let memberName ← text "name" doc
            let t ← entries strict room ["name"] doc
            return (← name .member memberName, t)) given)
          return .struct (← name .struct structName) members
      | none => within (.key "type") (fail (.unknownKind word))
    | other => within (.key "type") (fail (.discriminant other.kind))

/-- A type document. -/
def type (strict : Bool) (role : Text) (doc : Value) : Decoding SchemaType := do
  entries strict nestingLimit [] (← object role doc)

/-- An input document. -/
def input (strict : Bool) (doc : Value) : Decoding Input := do
  let doc ← object "input" doc
  let inputName ← text "name" doc
  let disclosed ←
    match ← require "public" doc with
    | .bool b => pure b
    | other => within (.key "public") (fail (.notBoolean "public" other.kind))
  let t ← entries strict nestingLimit ["name", "public"] doc
  return ⟨← name .input inputName, disclosed, t⟩

/-- The document of a whole interface. -/
def abi (strict : Bool) (doc : Value) : Decoding Abi := do
  let doc ← object "ABI document" doc
  checkKeys strict ["inputs", "outputs"] doc
  let givenInputs ← list "inputs" doc
  let givenOutputs ← list "outputs" doc
  let inputs ← within (.key "inputs") (items (input strict) givenInputs)
  let outputs ← within (.key "outputs") (items (type strict "output") givenOutputs)
  return ⟨inputs, outputs⟩

/-- The outcome for a part of a document whose root has a given spelling. -/
def report (part : DocumentPart) (root : Text) : Decoding α → Except Failure α
  | .ok a => .ok a
  | .error (.fault path fault) => .error (.decode ⟨fault, some ⟨root, path⟩⟩)
  | .error (.name owner) => .error (.decode ⟨.invalidName owner, some ⟨root, []⟩⟩)
  | .error (.limit .nesting) => .error (.decode ⟨.nesting part, some ⟨root, []⟩⟩)
  | .error (.limit l) => .error (.limit l)

end Decoding

namespace Value

/-- The type of a type document. -/
def decodeType (strict : Bool) (root : Text) (doc : Value) : Except Failure SchemaType :=
  Decoding.report .type root (Decoding.type strict "type document" doc)

/-- The input of an input document. -/
def decodeInput (strict : Bool) (root : Text) (doc : Value) : Except Failure Input :=
  Decoding.report .input root (Decoding.input strict doc)

/-- The interface of a document. -/
def decodeAbi (strict : Bool) (doc : Value) : Except Failure Abi :=
  Decoding.report .whole documentRoot (Decoding.abi strict doc)

/-- The type of a type document; strictness comes from the settings unless given. -/
def typeOperation (strict : Option Bool) (root : Text) (doc : Value) : Operation SchemaType := do
  Operation.ofExcept (doc.decodeType (← Operation.orSetting strict Config.strict) root)

/-- The input of an input document; strictness comes from the settings unless given. -/
def inputOperation (strict : Option Bool) (root : Text) (doc : Value) : Operation Input := do
  Operation.ofExcept (doc.decodeInput (← Operation.orSetting strict Config.strict) root)

/-- The interface of a document; strictness comes from the settings unless given. -/
def abiOperation (strict : Option Bool) (doc : Value) : Operation Abi := do
  Operation.ofExcept (doc.decodeAbi (← Operation.orSetting strict Config.strict))

end Value

end CircuitAbi

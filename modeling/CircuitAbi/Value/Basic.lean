import CircuitAbi.Number.Binary64
import CircuitAbi.Schema.Basic
import CircuitAbi.Text.Utf8

/-!
# Values

The values that documents, witness arguments and constructors handle: those of JSON, with whole and
real numbers apart and object entries in order, and beside them octets and types.
-/

set_option autoImplicit false

namespace CircuitAbi

/-- A dynamic value. -/
inductive Value
  | null
  | bool (b : Bool)
  | int (n : Int)
  | real (x : Binary64)
  | text (t : Text)
  | bytes (b : Bytes)
  | list (items : List Value)
  | object (entries : List (Text × Value))
  | type (t : SchemaType)

/-- The entries of an object in order; a key stands once. -/
abbrev Entries := List (Text × Value)

namespace Entries

/-- The entries with a key's value replaced where it stands, or the entry added at the end. -/
def insert (key : Text) (value : Value) : Entries → Entries
  | [] => [(key, value)]
  | (k, v) :: rest => if k = key then (k, value) :: rest else (k, v) :: insert key value rest

/-- The object that results from writing entries one after the other: the last value of a key, at
the key's first position. -/
def ofList (entries : List (Text × Value)) : Entries :=
  entries.foldl (fun done (k, v) => insert k v done) []

/-- The value of a key. -/
def get? (key : Text) (entries : Entries) : Option Value := entries.lookup key

theorem get?_cons (key k : Text) (v : Value) (es : Entries) :
    get? key ((k, v) :: es) = if key = k then some v else get? key es := by
  simp only [get?, List.lookup_cons]
  split <;> simp_all

/-- Writing a key sets its value and no other. -/
theorem get?_insert (key k : Text) (v : Value) (es : Entries) :
    get? k (insert key v es) = if k = key then some v else get? k es := by
  induction es with
  | nil => simp [insert, get?_cons]
  | cons e es ih =>
    obtain ⟨k', v'⟩ := e
    simp only [insert]
    split
    · next h =>
      subst h
      simp only [get?_cons]
      split <;> rfl
    · next h =>
      simp only [get?_cons, ih]
      split
      · next hk => subst hk; simp [h]
      · rfl

end Entries

namespace Value

/-- The word for a value's kind in messages about documents. -/
def kind : Value → Text
  | null => "null"
  | bool _ => "boolean"
  | int _ => "number"
  | real _ => "number"
  | text _ => "string"
  | bytes _ => "bytes"
  | list _ => "array"
  | object _ => "object"
  | type .field => "FieldElementType"
  | type .bool => "BooleanType"
  | type (.uint _ _) => "UintType"
  | type (.array _ _) => "ArrayType"
  | type (.struct _ _) => "StructType"

/-- The word for a value's kind in messages about arguments. -/
def argumentKind : Value → Text
  | null => "NoneType"
  | bool _ => "bool"
  | int _ => "int"
  | real _ => "float"
  | text _ => "str"
  | list _ => "list"
  | object _ => "dict"
  | v => v.kind

/-- Whether a value counts as true: neither null, false, zero nor empty. -/
def truth : Value → Bool
  | null => false
  | bool b => b
  | int n => n != 0
  | real x => x.significand != 0
  | text t => !t.isEmpty
  | bytes b => !b.isEmpty
  | list xs => !xs.isEmpty
  | object es => !es.isEmpty
  | type _ => true

end Value

end CircuitAbi

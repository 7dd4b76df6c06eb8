import CircuitAbi.Limit

/-!
# Schema types

The closed set of types that an input or output of a circuit may have: a field element, a boolean,
an unsigned integer of fixed width, an array of fixed size, and a struct of named members in
order.

* `SchemaType.kind` — the word that marks a type in a document.
* `SchemaType.count` — how many primitive values an inhabitant consists of.
* `SchemaType.text` — the type as signatures show it, sizes outermost last.
* `SchemaType.depth` — how far it nests.
* `SchemaType.calls` — the calls that comparing it takes, or showing how it is built.
-/

set_option autoImplicit false

namespace CircuitAbi

/-- The width of an unsigned integer. -/
inductive Width
  | w8
  | w16
  | w32
  | w64
  deriving DecidableEq

namespace Width

/-- All widths, narrow to wide. -/
def all : List Width := [w8, w16, w32, w64]

/-- The width in bits. -/
def bits : Width → Nat
  | w8 => 8
  | w16 => 16
  | w32 => 32
  | w64 => 64

/-- The width with the given number of bits. -/
def ofBits? (n : Int) : Option Width := all.find? fun w => (w.bits : Int) == n

end Width

/-- Whether a width was given as a whole number or as a real one. Equality of types ignores it,
the texts that mention the width do not. -/
inductive NumberForm
  | whole
  | real
  deriving DecidableEq

/-- What a number of this form ends in. -/
def NumberForm.suffix : NumberForm → Text
  | whole => []
  | real => ".0"

/-- The type of a circuit's input or output. -/
inductive SchemaType
  | field
  | bool
  | uint (width : Width) (form : NumberForm)
  | array (element : SchemaType) (size : Nat)
  | struct (name : Name) (members : List (Name × SchemaType))

namespace SchemaType

/-- The word that marks a type in a document. -/
def kind : SchemaType → Text
  | field => "field"
  | bool => "bool"
  | uint width form => "u" ++ Decimal.ofNat width.bits ++ form.suffix
  | array _ _ => "array"
  | struct _ _ => "struct"

mutual

/-- How many levels a type nests; a scalar has one. -/
def depth : SchemaType → Nat
  | field => 1
  | bool => 1
  | uint _ _ => 1
  | array element _ => element.depth + 1
  | struct _ members => membersDepth members + 1
termination_by structural t => t

/-- The levels of the deepest member. -/
def membersDepth : List (Name × SchemaType) → Nat
  | [] => 0
  | (_, t) :: rest => max t.depth (membersDepth rest)
termination_by structural ms => ms

end

mutual

/-- How many calls are open at once where a type is compared or shown as constructors: three for an
array, seven for a struct with a member. -/
def calls : SchemaType → Nat
  | field => 1
  | bool => 1
  | uint _ _ => 1
  | array element _ => element.calls + 3
  | struct _ members => membersCalls members + 7
termination_by structural t => t

/-- The calls of the member that takes most. -/
def membersCalls : List (Name × SchemaType) → Nat
  | [] => 0
  | (_, t) :: rest => max t.calls (membersCalls rest)
termination_by structural ms => ms

end

mutual

/-- How many primitive values an inhabitant consists of. -/
def count : SchemaType → Nat
  | field => 1
  | bool => 1
  | uint _ _ => 1
  | array element size => size * element.count
  | struct _ members => membersCount members
termination_by structural t => t

/-- The primitive values of all members together. -/
def membersCount : List (Name × SchemaType) → Nat
  | [] => 0
  | (_, t) :: rest => t.count + membersCount rest
termination_by structural ms => ms

end

/-- The type as signatures show it: an array's size after its element, a struct by its name. -/
def text : SchemaType → Text
  | array element size => element.text ++ "[" ++ Decimal.ofNat size ++ "]"
  | struct name _ => name.val
  | t => t.kind

/-- The arrays around the element that is no array. -/
def arrayDepth : SchemaType → Nat
  | array element _ => element.arrayDepth + 1
  | _ => 0

/-- Every size that `text` shows has few enough digits. -/
def sizesFit : SchemaType → Bool
  | array element size => element.sizesFit && Decimal.fits size
  | _ => true

/-- The type as signatures show it, within the limits. -/
def text? (t : SchemaType) : Except Limit Text :=
  if t.arrayDepth ≥ arrayLimit then .error .nesting
  else if t.sizesFit then .ok t.text
  else .error .printing

/-- The primitive values of an inhabitant, within the limits. -/
def count? (t : SchemaType) : Except Limit Nat :=
  if t.depth > countLimit then .error .nesting else .ok t.count

end SchemaType

end CircuitAbi

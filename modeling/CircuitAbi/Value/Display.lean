import CircuitAbi.Text.Quoted
import CircuitAbi.Value.Basic

/-!
# Values in messages

How messages show a value, a type or a signature: text and octets quoted, numbers in decimal,
lists and objects with their parts, types as the constructors that build them. Showing stops where
there is no room for another call, and at the limit on digits.
-/

set_option autoImplicit false

namespace CircuitAbi

/-- A sequence in round brackets, a single item with a comma after it. -/
def displayTuple : List Text → Text
  | [item] => "(" ++ item ++ ",)"
  | items => "(" ++ Text.join ", " items ++ ")"

namespace SchemaType

mutual

/-- The type as the constructors that build it, with room for a number of calls. -/
def displayWithin (room : Nat) : SchemaType → Except Limit Text
  | field => withCalls 1 room fun _ => .ok "FieldElementType()"
  | bool => withCalls 1 room fun _ => .ok "BooleanType()"
  | uint width form => withCalls 1 room fun _ =>
    .ok ("UintType(bitwidth=" ++ Decimal.ofNat width.bits ++ form.suffix ++ ")")
  | array element size => withCalls 3 room fun room => do
    let shown ← element.displayWithin room
    let size ← Decimal.print size
    return "ArrayType(element_type=" ++ shown ++ ", size=" ++ size ++ ")"
  | struct name members => withCalls 7 room fun room => do
    let shown ← displayMembers room members
    return "StructType(name=" ++ Text.quoted name.val ++ ", members=" ++ displayTuple shown ++ ")"
termination_by structural t => t

/-- The members as the constructors that build them. -/
def displayMembers (room : Nat) : List (Name × SchemaType) → Except Limit (List Text)
  | [] => .ok []
  | (name, t) :: rest => do
    let shown ← t.displayWithin room
    let member := "StructMember(name=" ++ Text.quoted name.val ++ ", type=" ++ shown ++ ")"
    return member :: (← displayMembers room rest)
termination_by structural ms => ms

end

/-- The type as the constructors that build it. -/
def display (t : SchemaType) : Except Limit Text := t.displayWithin callLimit

end SchemaType

namespace Value

/-- The value as messages show it, down to a number of levels. -/
def displayWithin : Nat → Value → Except Limit Text
  | 0, _ => .error .nesting
  | _ + 1, null => .ok "None"
  | _ + 1, bool b => .ok (if b then "True" else "False")
  | _ + 1, int n => Decimal.print n
  | _ + 1, real x => .ok x.text
  | _ + 1, text t => .ok (Text.quoted t)
  | _ + 1, bytes b => .ok (Bytes.quoted b)
  | room + 1, list items => do
    let shown ← items.mapM (displayWithin room)
    return "[" ++ Text.join ", " shown ++ "]"
  | room + 1, object entries => do
    let shown ← entries.mapM fun (k, v) => do
      let shown ← v.displayWithin room
      return Text.quoted k ++ ": " ++ shown
    return "\x7b" ++ Text.join ", " shown ++ "\x7d"
  | room + 1, type t => t.displayWithin room

/-- The value as messages show it. -/
def display (v : Value) : Except Limit Text := v.displayWithin nestingLimit

end Value

end CircuitAbi

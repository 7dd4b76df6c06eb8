import CircuitAbi.Failure
import CircuitAbi.Value.Display

/-!
# Types from values

The checked constructors of types. Each takes values as they come and either builds the type or says
which of them it refuses; the first refused one in the order of the arguments decides.
-/

set_option autoImplicit false

namespace CircuitAbi

/-- A result, or the limit that kept it from being computed. -/
def Failure.ofLimit {α : Type} : Except Limit α → Except Failure α
  | .ok a => .ok a
  | .error l => .error (.limit l)

/-- Refuses a value, with a cause that shows it. -/
def Value.refuse {α : Type} (v : Value) (cause : Text → SchemaError) : Except Failure α :=
  match v.display with
  | .ok shown => .error (.schema (cause shown))
  | .error l => .error (.limit l)

/-- The name that a value is. -/
def Value.name? : Value → Option Name
  | .text t => Name.ofText? t
  | _ => none

namespace SchemaType

/-- The width that a value denotes, and its form: a whole or a real number of 8, 16, 32 or 64. -/
def width? : Value → Option (Width × NumberForm)
  | .int n => (Width.ofBits? n).map (·, .whole)
  | .real x => (x.toInt?.bind Width.ofBits?).map (·, .real)
  | _ => none

/-- The unsigned integer type of a width. -/
def ofWidth (width : Value) : Except Failure SchemaType :=
  match width? width with
  | some (w, form) => .ok (.uint w form)
  | none => width.refuse .width

/-- The array type of an element and a size. -/
def ofElement (element size : Value) : Except Failure SchemaType :=
  match element with
  | .type t =>
    match size with
    | .int (.ofNat n) => .ok (.array t n)
    | .int (.negSucc _) => .error (.schema .sizeNegative)
    | _ => .error (.schema .sizeNotWhole)
  | other => other.refuse .element

/-- A struct member of a name and a type. -/
def member (name type : Value) : Except Failure (Name × SchemaType) :=
  match name.name? with
  | none => .error (.schema .memberName)
  | some n =>
    match type with
    | .type t => .ok (n, t)
    | other => other.refuse (.memberType n)

/-- The struct type of a name and members. -/
def ofMembers (name : Value) (members : List (Name × SchemaType)) : Except Failure SchemaType :=
  match name.name? with
  | none => .error (.schema .structName)
  | some n => .ok (.struct n members)

/-- The struct type of a name and values in place of members, of which it can have none. -/
def ofValues (name : Value) (members : List Value) : Except Failure SchemaType :=
  match name.name?, members with
  | none, _ => .error (.schema .structName)
  | some n, [] => .ok (.struct n [])
  | some n, m :: _ => m.refuse (.notMember n)

/-- The first member of a name. -/
def member? (members : List (Name × SchemaType)) (name : Value) :
    Except Failure (Name × SchemaType) :=
  let same (m : Name × SchemaType) : Bool :=
    match name with
    | .text t => m.1.val = t
    | _ => false
  match members.find? same with
  | some m => .ok m
  | none =>
    match name.display with
    | .ok shown => .error (.unknownKey shown)
    | .error l => .error (.limit l)

end SchemaType

namespace Value

/-- The type that a value is, when a part is asked of it that types have. -/
def typeFor (part : Text) : Value → Except Failure SchemaType
  | .type t => .ok t
  | other => .error (.missingPart other part)

/-- The member of a name, of a value that has to be a struct type. -/
def member (v name : Value) : Except Failure (Name × SchemaType) :=
  match v with
  | .type (.struct _ members) => SchemaType.member? members name
  | other => .error (.missingPart other "member")

end Value

/-- The types that values are, or the refusal of the first that is none. -/
def Value.types (cause : Text → SchemaError) (values : List Value) :
    Except Failure (List SchemaType) :=
  values.mapM fun v =>
    match v with
    | .type t => .ok t
    | other => other.refuse cause

end CircuitAbi

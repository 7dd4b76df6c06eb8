import CircuitAbi.Json.Parser
import CircuitAbi.Codec.Text
import CircuitAbi.Schema.Abi
import CircuitAbi.Settings.Reading
import CircuitAbi.Value.Display
import CircuitAbi.Witness.Fault

/-!
# Witness arguments

Values as a prover hands them in, checked against types and brought to a normal form.

* A field element is a whole number, or its decimal numeral, from zero to below the modulus.
* A boolean is `true` or `false`.
* An unsigned integer is `0x` and a fixed number of hexadecimal digits, a quarter of the width.
* An array is a list of exactly as many values as its size; a struct an object with exactly its
  members.

A numeral may end in one newline, which counts in the length of a hexadecimal one. Checking goes
depth first, and the first fault decides.
-/

set_option autoImplicit false

namespace CircuitAbi

/-- An argument in normal form; a struct lists its members in order. -/
inductive Argument
  | bool (b : Bool)
  | int (n : Int)
  | list (items : List Argument)
  | struct (entries : List (Name × Argument))

/-- The members with one written: where it stands already, or at the end. -/
def Argument.insert (name : Name) (value : Argument) :
    List (Name × Argument) → List (Name × Argument)
  | [] => [(name, value)]
  | (n, v) :: rest => if n = name then (n, value) :: rest else (n, v) :: insert name value rest

namespace Numeral

/-- The text without a newline (10) at its end. -/
def dropFinalNewline (t : Text) : Text := if t.getLast? = some 10 then t.dropLast else t

/-- Zero, or decimal digits of which the first is from `1` (49) to `9` (57). -/
def isDecimal (t : Text) : Bool :=
  t == "0" || match t with
    | [] => false
    | c :: rest => 49 ≤ c && c ≤ 57 && rest.all Decimal.isDigit

/-- The digits of a decimal numeral. -/
def decimal? (t : Text) : Option Text :=
  let digits := dropFinalNewline t
  if isDecimal digits then some digits else none

/-- The digits of a hexadecimal numeral: `0` (48), `x` (120), and at least one digit. -/
def hexadecimal? (t : Text) : Option (List Nat) :=
  match dropFinalNewline t with
  | 48 :: 120 :: c :: rest => (c :: rest).mapM Hexadecimal.digit?
  | _ => none

end Numeral

/-- Why checking stopped: a fault at a node, or a limit. -/
inductive CheckStop
  | fault (path : List Accessor) (fault : ArgumentFault)
  | limit (l : Limit)

/-- A checked part, or why checking stopped. -/
abbrev Checking := Except CheckStop

namespace Checking

variable {α : Type}

/-- Checking of a part, whose faults lie one step further down. -/
def within (a : Accessor) : Checking α → Checking α
  | .error (.fault path fault) => .error (.fault (a :: path) fault)
  | r => r

/-- A fault at the node itself. -/
def fail (fault : ArgumentFault) : Checking α := .error (.fault [] fault)

/-- A fault whose wording shows a value. -/
def failShowing (v : Value) (fault : Text → ArgumentFault) : Checking α :=
  match v.display with
  | .ok shown => fail (fault shown)
  | .error l => .error (.limit l)

/-- A fault whose wording holds a size. -/
def failSized (size : Nat) (fault : ArgumentFault) : Checking α :=
  if Decimal.fits size then fail fault else .error (.limit .printing)

/-- A number from zero to below the modulus. -/
def inField (modulus n : Int) : Checking Argument :=
  if n < 0 ∨ n ≥ modulus then fail .outOfRange else .ok (.int n)

/-- A field element. -/
def field (modulus : Int) : Value → Checking Argument
  | .bool _ => fail .booleanForField
  | .int n => inField modulus n
  | .text t =>
    match Numeral.decimal? t with
    | none => fail (.notDecimal t)
    | some digits =>
      if digits.length > digitLimit then .error (.limit (.reading digits.length))
      else inField modulus (Decimal.read digits)
  | other => fail (.notField other.argumentKind)

/-- A boolean. -/
def bool : Value → Checking Argument
  | .bool b => .ok (.bool b)
  | other => failShowing other .notBoolean

/-- An unsigned integer of a width. -/
def uint (width : Width) (form : NumberForm) (v : Value) : Checking Argument :=
  let kind := SchemaType.kind (.uint width form)
  let wanted := width.bits / 4
  match v with
  | .text t =>
    match Numeral.hexadecimal? t with
    | none => fail (.notHexadecimal kind (Text.quoted t))
    | some digits =>
      if t.length - 2 = wanted then .ok (.int (Decimal.value 16 digits))
      else fail (.digitCount kind (Decimal.ofNat wanted ++ form.suffix) (t.length - 2))
  | other => failShowing other (.notHexadecimal kind)

/-- The members of a struct, each checked in order and written into the result. -/
def members (check : Value → SchemaType → Checking Argument) (struct : Name) (value : Entries) :
    List (Name × Argument) → List (Name × SchemaType) → Checking (List (Name × Argument))
  | done, [] => .ok done
  | done, (name, t) :: rest => do
    match value.get? name.val with
    | none => fail (.missingMember name struct)
    | some v =>
      let a ← within (.key name.val) (check v t)
      members check struct value (Argument.insert name a done) rest

/-- A value against a type, down to a number of levels. -/
def argument (modulus : Int) : Nat → Value → SchemaType → Checking Argument
  | 0, _, _ => .error (.limit .nesting)
  | _ + 1, v, .field => field modulus v
  | _ + 1, v, .bool => bool v
  | _ + 1, v, .uint width form => uint width form v
  | room + 1, .list values, .array element size =>
    if values.length = size then do
      let items ← values.zipIdx.mapM fun (v, i) =>
        within (.index i) (argument modulus room v element)
      return .list items
    else failSized size (.itemCount size values.length)
  | _ + 1, other, .array _ size => failSized size (.notList size other.argumentKind)
  | room + 1, .object entries, .struct name ms =>
    match entries.find? fun e => !ms.any (·.1.val == e.1) with
    | some (key, _) => fail (.unexpectedMember key name)
    | none => do return .struct (← members (argument modulus room) name entries [] ms)
  | _ + 1, other, .struct name _ => fail (.notObject name other.argumentKind)

/-- A value against what has to be a type. -/
def value (modulus : Int) (v : Value) : Value → Checking Argument
  | .type t => argument modulus argumentLimit v t
  | other => failShowing other .unsupported

/-- Values against the inputs of a signature, one each. -/
def arguments (modulus : Int) (types : List SchemaType) : Value → Checking (List Argument)
  | .list values =>
    if values.length = types.length then
      (values.zip types).zipIdx.mapM fun ((v, t), i) =>
        within (.index i) (argument modulus argumentLimit v t)
    else fail (.arity types.length values.length)
  | _ => fail .notArguments

/-- The outcome, for a root with a given spelling. -/
def report (root : Text) : Checking α → Except Failure α
  | .ok a => .ok a
  | .error (.fault path fault) => .error (.argument ⟨fault, ⟨root, path⟩⟩)
  | .error (.limit l) => .error (.limit l)

end Checking

/-- Checks one argument against a type; the modulus comes from the settings unless given. -/
def checkArgument (v type : Value) (root : Text) (modulus : Option Int) : Operation Argument := do
  let modulus ← Operation.orSetting modulus Config.fieldModulus
  Operation.ofExcept (Checking.report root (Checking.value modulus v type))

/-- Checks arguments against the inputs of a signature; the modulus comes from the settings unless
given. -/
def checkArguments (s : Signature) (values : Value) (modulus : Option Int) :
    Operation (List Argument) := do
  let modulus ← Operation.orSetting modulus Config.fieldModulus
  Operation.ofExcept (Checking.report documentRoot (Checking.arguments modulus s.inputs values))

/-- The value of a text with arguments. -/
def Source.argumentsValue (source : Source) : Except Failure Value :=
  let refuse (fault : ArgumentFault) : Except Failure Value :=
    .error (.argument ⟨fault, ⟨documentRoot, []⟩⟩)
  let parse (bytes : Bytes) : Except Failure Value :=
    match Json.parse bytes with
    | .ok v => .ok v
    | .error .malformed => refuse .malformed
    | .error (.notUtf8 fault) => refuse (.notUtf8 fault)
    | .error .nesting => .error (.limit .nesting)
  match source with
  | .bytes b => parse b
  | .text t =>
    match Utf8.surrogateRun? t with
    | some run => refuse (.surrogates run)
    | none => parse (Utf8.encode t)

/-- Reads arguments from JSON text and checks them against the inputs of a signature. -/
def parseArguments (source : Source) (s : Signature) (modulus : Option Int) :
    Operation (List Argument) := do
  let values ← Operation.ofExcept source.argumentsValue
  checkArguments s values modulus

end CircuitAbi

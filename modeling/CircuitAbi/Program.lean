import CircuitAbi.Schema.Abi
import CircuitAbi.Settings.Reading

/-!
# Programs

What a compiler hands over: modules of typed functions, one of them the main module, which holds
the entry function. The interface of a program is that of its entry function: one input for each
parameter, in the order of declaration, disclosed unless the parameter is private.
-/

set_option autoImplicit false

namespace CircuitAbi

/-- A parameter of a function. It is private when the value that says so counts as true. -/
structure Parameter where
  name : Name
  type : SchemaType
  secrecy : Value

namespace Parameter

/-- The parameter of a name, which is not empty, a type, and the value that says whether it is
private. -/
def ofValues (name type secrecy : Value) : Except Failure Parameter :=
  match name.name? with
  | none => .error (.schema .parameterName)
  | some n =>
    if n.val.isEmpty then .error (.schema .parameterName)
    else
      match type with
      | .type t => .ok ⟨n, t, secrecy⟩
      | other => other.refuse (.parameterType n)

/-- Whether the verifier sees the parameter. -/
def disclosed (p : Parameter) : Bool := !p.secrecy.truth

/-- The input that a parameter becomes. -/
def input (p : Parameter) : Input := ⟨p.name, p.disclosed, p.type⟩

end Parameter

/-- A typed function. -/
structure Function where
  name : Text
  parameters : List Parameter
  signature : Signature

/-- The interface of a function. -/
def Function.abi (f : Function) : Abi := ⟨f.parameters.map Parameter.input, f.signature.outputs⟩

/-- Functions under the names by which they are found. -/
abbrev Module := List (Text × Function)

/-- Modules under their names, and the name of the main one. -/
structure Program where
  main : Text
  modules : List (Text × Module)

namespace Program

/-- The entry function. Its name comes from the settings unless a name is given that is not empty.
-/
def entry (p : Program) (entryPoint : Option Text) : Operation Function := do
  let name ← Operation.orSetting (entryPoint.filter (!·.isEmpty)) Config.entryPoint
  Operation.ofExcept <|
    match p.modules.lookup p.main with
    | none => .error (.entry (.noModule p.main))
    | some functions =>
      match functions.lookup name with
      | none => .error (.entry (.noFunction name p.main))
      | some f => .ok f

/-- The interface of the entry function. -/
def abi (p : Program) (entryPoint : Option Text) : Operation Abi :=
  return (← p.entry entryPoint).abi

end Program

end CircuitAbi

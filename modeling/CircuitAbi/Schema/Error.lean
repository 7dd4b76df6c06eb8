import CircuitAbi.Text.Quoted
import CircuitAbi.Limit

/-!
# What types and their holders refuse

The causes for which a type, an input, a signature or a parameter cannot be built, or a type not be
encoded. Where a message shows the offending value, the cause carries it as shown.
-/

set_option autoImplicit false

namespace CircuitAbi

/-- Why something built from types was refused. -/
inductive SchemaError
  | width (shown : Text)
  | element (shown : Text)
  | sizeNotWhole
  | sizeNegative
  | memberName
  | memberType (name : Name) (shown : Text)
  | structName
  | notMember (name : Name) (shown : Text)
  | inputName
  | inputVisibility (name : Name)
  | inputType (name : Name) (shown : Text)
  | notInput (shown : Text)
  | outputType (shown : Text)
  | signatureEntry (shown : Text)
  | parameterName
  | parameterType (name : Name) (shown : Text)
  | notEncodable (shown : Text)
  | notAbi (kind : Text)
  | nesting

namespace SchemaError

/-- The wording of a cause. -/
def message : SchemaError → Text
  | width shown => "uint bitwidth must be one of (8, 16, 32, 64), got " ++ shown
  | element shown => "array element must be a schema type, got " ++ shown
  | sizeNotWhole => "array size must be an int"
  | sizeNegative => "array size must be >= 0"
  | memberName => "struct member name must be a valid Unicode string"
  | memberType name shown =>
    "struct member " ++ Text.quoted name.val ++ " must have a schema type, got " ++ shown
  | structName => "struct name must be a valid Unicode string"
  | notMember name shown =>
    "struct " ++ Text.quoted name.val ++ " members must be StructMember, got " ++ shown
  | inputName => "input name must be a valid Unicode string"
  | inputVisibility name => "input " ++ Text.quoted name.val ++ ": public must be a bool"
  | inputType name shown =>
    "input " ++ Text.quoted name.val ++ " must have a schema type, got " ++ shown
  | notInput shown => "Abi inputs must be AbiInput, got " ++ shown
  | outputType shown => "Abi outputs must be schema types, got " ++ shown
  | signatureEntry shown => "signature entries must be schema types, got " ++ shown
  | parameterName => "parameter name must be a non-empty string"
  | parameterType name shown =>
    "parameter " ++ Text.quoted name.val ++ " must have a schema type, got " ++ shown
  | notEncodable shown => "cannot encode non-schema type " ++ shown
  | notAbi kind => "expected Abi, got " ++ kind
  | nesting => "type nesting too deep to encode"

end SchemaError

end CircuitAbi

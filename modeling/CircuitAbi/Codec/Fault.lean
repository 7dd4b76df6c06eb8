import CircuitAbi.Location
import CircuitAbi.Schema.Error

/-!
# What a document refuses

The causes for which a document is no interface description, and their wording. A cause is reported
with the place of the node it is about; a document that is too large is refused as a whole.
-/

set_option autoImplicit false

namespace CircuitAbi

/-- What a name in a document is the name of. -/
inductive NameOwner
  | member
  | struct
  | input
  deriving DecidableEq

/-- The error of a name that is not Unicode. -/
def NameOwner.error : NameOwner → SchemaError
  | member => .memberName
  | struct => .structName
  | input => .inputName

/-- What is being decoded. -/
inductive DocumentPart
  | type
  | input
  | whole
  deriving DecidableEq

/-- Why a document was refused. -/
inductive DecodeFault
  | notObject (role kind : Text)
  | missing (key : Text)
  | notText (key kind : Text)
  | notList (key kind : Text)
  | notBoolean (key kind : Text)
  | unexpected (key : Text)
  | discriminant (kind : Text)
  | unknownKind (kind : Text)
  | sizeNotWhole (kind : Text)
  | sizeNegative (size : Int)
  | invalidName (owner : NameOwner)
  | nesting (part : DocumentPart)
  | notUnicode
  | tooLarge (size limit : Nat)
  | malformed
  | notUtf8 (fault : Utf8.Fault)

namespace DecodeFault

/-- The wording of a cause. Which rule of the syntax malformed text breaks is not said. -/
def message : DecodeFault → Text
  | notObject role kind => role ++ " must be an object, got " ++ kind
  | missing key => "missing required field " ++ Text.quoted key
  | notText key kind => Text.quoted key ++ " must be a string, got " ++ kind
  | notList key kind => Text.quoted key ++ " must be an array, got " ++ kind
  | notBoolean key kind => Text.quoted key ++ " must be a boolean, got " ++ kind
  | unexpected key => "unexpected field " ++ Text.quoted key
  | discriminant kind => "type discriminant must be a string, got " ++ kind
  | unknownKind kind =>
    "unknown type kind " ++ Text.quoted kind ++
      " (expected one of: field, bool, u8, u16, u32, u64, array, struct)"
  | sizeNotWhole kind => "array size must be an integer, got " ++ kind
  | sizeNegative size => "array size must be non-negative, got " ++ Decimal.ofInt size
  | invalidName owner => owner.error.message
  | nesting .type => "type document nested too deeply"
  | nesting .input => "input document nested too deeply"
  | nesting .whole => "document nested too deeply"
  | notUnicode => "document is not valid Unicode: surrogates not allowed"
  | tooLarge size limit =>
    "document is " ++ Decimal.ofNat size ++ " bytes, larger than the " ++ Decimal.ofNat limit ++
      "-byte limit"
  | malformed => "invalid JSON: *"
  | notUtf8 fault =>
    "document is not valid UTF-8: " ++ fault.reason.text ++ " at byte " ++
      Decimal.ofNat fault.position

end DecodeFault

/-- A refused document: why, and at which node if the cause is about one. -/
structure DecodeError where
  fault : DecodeFault
  place : Option Place

end CircuitAbi

import CircuitAbi.Location
import CircuitAbi.Text.Quoted

/-!
# What witness arguments refuse

The causes for which an argument does not match its type, or a text holds no arguments at all, and
their wording. Where a message shows the offending value, the cause carries it as shown.
-/

set_option autoImplicit false

namespace CircuitAbi

/-- Why arguments were refused. -/
inductive ArgumentFault
  | booleanForField
  | notDecimal (value : Text)
  | notField (kind : Text)
  | outOfRange
  | notBoolean (shown : Text)
  | notHexadecimal (type shown : Text)
  | digitCount (type wanted : Text) (given : Nat)
  | notList (size : Nat) (kind : Text)
  | itemCount (size given : Nat)
  | notObject (struct : Name) (kind : Text)
  | unexpectedMember (key : Text) (struct : Name)
  | missingMember (member struct : Name)
  | unsupported (shown : Text)
  | notArguments
  | arity (wanted given : Nat)
  | malformed
  | notUtf8 (fault : Utf8.Fault)
  | surrogates (run : Utf8.SurrogateRun)

namespace Utf8

/-- Where octets or characters stand: one position, or the first and the last. -/
def positions (one many : Text) (start length : Nat) : Text :=
  if length = 1 then one ++ " in position " ++ Decimal.ofNat start
  else many ++ " in position " ++ Decimal.ofNat start ++ "-" ++ Decimal.ofNat (start + length - 1)

/-- The wording for octets that are no text. -/
def Fault.message (fault : Fault) : Text :=
  "'utf-8' codec can't decode " ++
    positions ("byte 0x" ++ Text.hexPadded 2 fault.first.toNat) "bytes" fault.position
      fault.length ++ ": " ++ fault.reason.text

/-- The wording for text that has no octets. -/
def SurrogateRun.message (run : SurrogateRun) : Text :=
  "'utf-8' codec can't encode " ++
    positions ("character '\\u" ++ Text.hexPadded 4 run.first ++ "'") "characters" run.start
      run.length ++ ": surrogates not allowed"

end Utf8

namespace ArgumentFault

/-- The wording of a cause. Which rule of the syntax malformed text breaks is not said. -/
def message : ArgumentFault → Text
  | booleanForField => "expected a field element, got a boolean"
  | notDecimal value => "expected a decimal field element, got " ++ Text.quoted value
  | notField kind => "expected a field element, got " ++ kind
  | outOfRange => "field element out of range"
  | notBoolean shown => "expected a boolean, got " ++ shown
  | notHexadecimal type shown => "expected a 0x-prefixed hex " ++ type ++ ", got " ++ shown
  | digitCount type wanted given =>
    type ++ " needs exactly " ++ wanted ++ " hex digits, got " ++ Decimal.ofNat given
  | notList size kind => "expected an array of " ++ Decimal.ofNat size ++ ", got " ++ kind
  | itemCount size given =>
    "expected " ++ Decimal.ofNat size ++ " elements, got " ++ Decimal.ofNat given
  | notObject struct kind => "expected struct " ++ struct.val ++ ", got " ++ kind
  | unexpectedMember key struct =>
    "unexpected member " ++ Text.quoted key ++ " for struct " ++ struct.val
  | missingMember member struct =>
    "missing member " ++ Text.quoted member.val ++ " of struct " ++ struct.val
  | unsupported shown => "unsupported type " ++ shown
  | notArguments => "arguments must be a JSON array"
  | arity wanted given =>
    "expected " ++ Decimal.ofNat wanted ++ " arguments, got " ++ Decimal.ofNat given
  | malformed => "invalid JSON: *"
  | notUtf8 fault => "arguments are not valid UTF-8 text: " ++ fault.message
  | surrogates run => "arguments are not valid UTF-8 text: " ++ run.message

end ArgumentFault

/-- Refused arguments: why, and at which node. -/
structure ArgumentError where
  fault : ArgumentFault
  place : Place

end CircuitAbi

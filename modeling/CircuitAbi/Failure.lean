import CircuitAbi.Codec.Fault
import CircuitAbi.Command.Log
import CircuitAbi.Files.Fault
import CircuitAbi.Markup.Tag
import CircuitAbi.Schema.Error
import CircuitAbi.Witness.Fault

/-!
# Failures

Everything an operation can fail with, and how each failure reads. A failure with a place ends in
` @ ` and the place.
-/

set_option autoImplicit false

namespace CircuitAbi

/-- Why a program has no usable entry function. -/
inductive EntryError
  | noModule (main : Text)
  | noFunction (name main : Text)

/-- The wording of an entry error. -/
def EntryError.message : EntryError → Text
  | noModule main => "main module " ++ Text.quoted main ++ " not found in program"
  | noFunction name main =>
    "entry function " ++ Text.quoted name ++ " not found in module " ++ Text.quoted main

/-- What an operation fails with instead of an answer. -/
inductive Failure
  | schema (error : SchemaError)
  | decode (error : DecodeError)
  | argument (error : ArgumentError)
  | entry (error : EntryError)
  | limit (limit : Limit)
  | file (error : FileError)
  | nulInPath
  | unencodable (run : Utf8.SurrogateRun)
  | markup (fault : Markup.Fault)
  | level (fault : Command.LevelFault)
  | noDistribution
  | unknownKey (shown : Text)
  | notProgram (kind : Text)
  | noAttribute (owner name : Text)

namespace Failure

/-- A value was asked for a part that values of its kind do not have. -/
def missingPart (v : Value) (name : Text) : Failure :=
  noAttribute ("'" ++ v.argumentKind ++ "' object") name

/-- A message with the place it is about. -/
def located (message : Text) : Option Place → Text
  | none => message
  | some place => message ++ " @ " ++ place.text

/-- The wording of a failure; running out of nesting has none. -/
def message? : Failure → Option Text
  | schema e => some e.message
  | decode e => some (located e.fault.message e.place)
  | argument e => some (located e.fault.message (some e.place))
  | entry e => some e.message
  | limit l => l.message?
  | file e => some e.message
  | nulInPath => some "embedded null byte"
  | unencodable run => some run.message
  | markup fault => fault.message?
  | level fault => some fault.message
  | noDistribution => some "A distribution name is required."
  | unknownKey shown => some shown
  | notProgram kind => some ("expected TypedProgram, got " ++ kind)
  | noAttribute owner name => some (owner ++ " has no attribute " ++ Text.quoted name)

end Failure

end CircuitAbi

import CircuitAbi.Failure
import CircuitAbi.Settings.Environment
import CircuitAbi.Text.LetterCase

/-!
# The installed tool

Its version, which an environment variable may override, the commands it registers, and the parts
of the compiler's interface that can be asked for by name.
-/

set_option autoImplicit false

namespace CircuitAbi.Release

/-- The version of the document format. -/
def baseVersion : Text := "0.1.0"

/-- The name of the installed distribution. -/
def distribution : Text := "zkabi"

/-- The version of a distribution, if it is installed; its name is found in any case. -/
def installedVersion (name : Text) : Except Failure (Option Text) :=
  if name.isEmpty then .error .noDistribution
  else .ok (if Text.lower name = distribution then some baseVersion else none)

/-- The version that an environment reports: its own variable, when not empty, or the installed
one. -/
def version (env : Environment) : Text :=
  match env.get? "ZKABI_VERSION" with
  | some v => if v.isEmpty then baseVersion else v
  | none => baseVersion

/-- The registered commands with what they run. -/
def commands : List (Text × Text) := [("zkabi", "zkabi.cli.abi_tool:main")]

/-- What a registered command runs. -/
def command (name : Text) : Except Failure Text :=
  match commands.lookup name with
  | some target => .ok target
  | none => .error (.unknownKey (Text.quoted name))

/-- The compiler's parts that can be asked for, with their full names. -/
def components : List (Text × Text) :=
  [("signature", "zkabi.compiler.signature"), ("program", "zkabi.compiler.program"),
    ("program_abi", "program_abi")]

/-- The full name of a part of the compiler. -/
def component (name : Text) : Except Failure Text :=
  match components.lookup name with
  | some full => .ok full
  | none => .error (.noAttribute "module 'zkabi.compiler'" name)

end CircuitAbi.Release

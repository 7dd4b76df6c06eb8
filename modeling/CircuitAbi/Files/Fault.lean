import CircuitAbi.Text.Quoted
import CircuitAbi.Number.Decimal

/-!
# What a file tree refuses

Why a path cannot be read or written.
-/

set_option autoImplicit false

namespace CircuitAbi

/-- Why a path could not be opened. -/
inductive FileFault
  | missing
  | isDirectory
  | notDirectory
  | nameTooLong
  deriving DecidableEq

namespace FileFault

/-- The wording of a cause. -/
def reason : FileFault → Text
  | missing => "No such file or directory"
  | isDirectory => "Is a directory"
  | notDirectory => "Not a directory"
  | nameTooLong => "File name too long"

/-- The number by which operating systems know a cause. -/
def number : FileFault → Nat
  | missing => 2
  | isDirectory => 21
  | notDirectory => 20
  | nameTooLong => 36

end FileFault

/-- A path that could not be opened. -/
structure FileError where
  fault : FileFault
  path : Text

/-- The wording of a file error. -/
def FileError.message (e : FileError) : Text :=
  "[Errno " ++ Decimal.ofNat e.fault.number ++ "] " ++ e.fault.reason ++ ": " ++ Text.quoted e.path

end CircuitAbi

import CircuitAbi.Limit
import CircuitAbi.Number.Literal
import CircuitAbi.Settings.Environment
import CircuitAbi.Text.LetterCase

/-!
# Settings

The settings that an environment gives. A variable that is missing, or whose text is no setting of
its kind, gives the default; a whole number out of its bounds gives the nearer bound.
-/

set_option autoImplicit false

namespace CircuitAbi

/-- The order of the scalar field of BN254. -/
def bn254Order : Int :=
  21888242871839275222246405745257275088548364400416034343698204186575808495617

/-- The settings of the codec and of the command line. -/
structure Config where
  strict : Bool
  indent : Int
  maxDocumentBytes : Int
  entryPoint : Text
  logLevel : Text
  fieldModulus : Int

namespace Setting

/-- The words that switch a setting on; any other text switches it off. -/
def onWords : List Text := ["1", "true", "t", "yes", "y", "on"]

/-- A switch, in any case and with blanks around it. -/
def switch (default : Bool) : Option Text → Bool
  | none => default
  | some raw => onWords.contains ((Text.trim raw).map Text.asciiLower)

/-- A whole number, moved to the nearer bound when out of bounds. -/
def bounded (default low high : Int) : Option Text → Int
  | none => default
  | some raw =>
    match Literal.read? raw with
    | none => default
    | some n => if n < low then low else if n > high then high else n

/-- A word without the blanks around it, if anything is left. -/
def word (default : Text) : Option Text → Text
  | none => default
  | some raw => if (Text.trim raw).isEmpty then default else Text.trim raw

/-- The order of a field: a whole number of at least two. -/
def modulus (default : Int) : Option Text → Int
  | none => default
  | some raw =>
    match Literal.read? (Text.trim raw) with
    | none => default
    | some n => if n > 1 then n else default

end Setting

namespace Config

/-- The settings that an environment gives. -/
def ofEnvironment (env : Environment) : Config where
  strict := Setting.switch true (env.get? "ZKABI_STRICT")
  indent := Setting.bounded 2 0 8 (env.get? "ZKABI_INDENT")
  maxDocumentBytes := Setting.bounded 4194304 1024 1073741824 (env.get? "ZKABI_MAX_DOC_BYTES")
  entryPoint := Setting.word "main" (env.get? "ZKABI_ENTRY_POINT")
  logLevel := Text.upper (Setting.word "WARNING" (env.get? "ZKABI_LOG_LEVEL"))
  fieldModulus := Setting.modulus bn254Order (env.get? "ZKABI_FIELD_MODULUS")

end Config

end CircuitAbi

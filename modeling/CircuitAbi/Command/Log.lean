import CircuitAbi.Text.Basic

/-!
# Log lines

The severities of log lines, and which of them a level lets through. The logger knows a name for the
text that lays out its lines, and one for its table of layouts; given as a level, either is refused.
-/

set_option autoImplicit false

namespace CircuitAbi.Command

/-- What a name that is no level stands for. -/
inductive LevelFault
  | layout
  | layouts
  deriving DecidableEq

namespace LevelFault

/-- The names that are no levels. -/
def names : List (Text × LevelFault) := [("BASIC_FORMAT", layout), ("_STYLES", layouts)]

/-- The wording, which shows what the name stands for. -/
def message : LevelFault → Text
  | layout => "Unknown level: '%(levelname)s:%(name)s:%(message)s'"
  | layouts =>
    "Level not an integer or a valid string: \x7b" ++
      "'%': (<class 'logging.PercentStyle'>, '%(levelname)s:%(name)s:%(message)s'), " ++
      "'\x7b': (<class 'logging.StrFormatStyle'>, " ++
      "'\x7blevelname\x7d:\x7bname\x7d:\x7bmessage\x7d'), " ++
      "'$': (<class 'logging.StringTemplateStyle'>, " ++
      "'$\x7blevelname\x7d:$\x7bname\x7d:$\x7bmessage\x7d')\x7d"

end LevelFault

/-- The severity of the lines that the tool writes. -/
inductive Severity
  | debug
  | info
  deriving DecidableEq

namespace Severity

/-- The severity as lines and levels spell it. -/
def text : Severity → Text
  | debug => "DEBUG"
  | info => "INFO"

/-- The rank of a severity. -/
def rank : Severity → Nat
  | debug => 10
  | info => 20

end Severity

/-- The level names in use, each with the least rank that it lets through. -/
def levels : List (Text × Nat) :=
  [("NOTSET", 0), ("DEBUG", 10), ("INFO", 20), ("WARNING", 30), ("WARN", 30), ("ERROR", 40),
    ("CRITICAL", 50), ("FATAL", 50)]

/-- The least rank that a level lets through; an unknown name counts as a warning. -/
def threshold (level : Text) : Except LevelFault Nat :=
  match LevelFault.names.lookup level with
  | some fault => .error fault
  | none => .ok ((levels.lookup level).getD 30)

/-- A log line, if its severity is let through. -/
def logLine (least : Option Nat) (severity : Severity) (logger message : Text) : Text :=
  match least with
  | none => []
  | some least =>
    if least ≤ severity.rank then severity.text ++ " " ++ logger ++ ": " ++ message ++ "\n"
    else []

end CircuitAbi.Command

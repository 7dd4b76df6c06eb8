import CircuitAbi.Codec.Encode
import CircuitAbi.Codec.Text
import CircuitAbi.Command.Console
import CircuitAbi.Command.Log
import CircuitAbi.Command.Options
import CircuitAbi.Command.Report
import CircuitAbi.Files.Tree
import CircuitAbi.Release
import CircuitAbi.Text.Blank
import CircuitAbi.Witness.Argument

/-!
# The command line

One run of the tool: arguments and a file tree in, an exit code, what was printed and the tree
out. A run that fails has no exit code and printed nothing that counts, but it too leaves a tree.

* `inspect`, `check`, `fmt`, `signature` read an interface document, `check-args` also witness
  arguments.
* Exit code 0 is success, 1 a malformed document or arguments that do not match, 2 an unreadable
  file or arguments of the tool that are wrong.
-/

set_option autoImplicit false

namespace CircuitAbi.Command

/-- How the tool was started: whether a first argument that names the tool is dropped, the name of
its logger, and whether log lines are shown. -/
structure Setup where
  dispatched : Bool
  logger : Text
  logging : Bool

/-- What a run printed and left. -/
structure Completed where
  exit : Nat
  stdout : Text
  stderr : Text
  tree : Tree

/-- The end of a run: help or a complaint about the arguments, or a command's outcome. -/
inductive Outcome
  | usage (exit : Nat) (tree : Tree)
  | completed (c : Completed)

/-- The failure of a run, and the tree at that point. -/
structure Stop where
  failure : Failure
  tree : Tree

/-- A part of a run, which may read the settings and may stop. -/
abbrev Running := ExceptT Stop Reading

/-- An operation that leaves the tree alone; where it fails, the run stops. -/
def Running.lift {α : Type} (tree : Tree) (op : Operation α) : Running α :=
  ExceptT.mk (op.run.bind fun result => .done (result.mapError (⟨·, tree⟩)))

/-- The commands. -/
inductive Verb
  | inspect
  | check
  | fmt
  | signature
  | checkArgs
  | version
  deriving DecidableEq

namespace Verb

/-- The commands by name. -/
def names : List (Text × Verb) :=
  [("inspect", inspect), ("check", check), ("fmt", fmt), ("signature", signature),
    ("check-args", checkArgs), ("version", version)]

/-- The option that every command has. -/
def helpRule : OptionRule := ⟨"--help", none, false⟩

/-- The options of a command. -/
def rules : Verb → List OptionRule
  | inspect => [helpRule, ⟨"--json", none, false⟩]
  | fmt => [helpRule, ⟨"--compact", none, false⟩, ⟨"--out", some 'o'.toNat, true⟩]
  | _ => [helpRule]

/-- How many positional arguments a command has. -/
def arity : Verb → Nat
  | checkArgs => 2
  | version => 0
  | _ => 1

end Verb

/-- The options that come before the command. -/
def rootRules : List OptionRule := [Verb.helpRule, ⟨"--verbose", some 'v'.toNat, false⟩]

/-- A run under way: where log lines go, what has been printed on the error stream, and the tree. -/
structure Run where
  logger : Text
  least : Option Nat
  stderr : Text
  tree : Tree

namespace Run

/-- A log line. -/
def log (r : Run) (severity : Severity) (logger message : Text) : Run :=
  { r with stderr := r.stderr ++ logLine r.least severity logger message }

/-- An operation of the run. -/
def lift {α : Type} (r : Run) (op : Operation α) : Running α := Running.lift r.tree op

/-- Writes a text to the file at a path. -/
def write (r : Run) (p : Path) (text : Text) : Running Run :=
  match r.tree.writeText p text with
  | .ok tree => return { r with tree := tree }
  | .error (failure, tree) => throw ⟨failure, tree⟩

/-- Success, with what was printed. -/
def succeed (r : Run) (stdout : Text) : Outcome := .completed ⟨0, stdout, r.stderr, r.tree⟩

/-- The end of a run that could not do its work. -/
def die (r : Run) (exit : Nat) (message : Text) : Outcome :=
  .completed ⟨exit, [], r.stderr ++ Text.trimEnd message ++ "\n", r.tree⟩

/-- An unreadable file. -/
def unreadable (r : Run) (p : Path) (fault : FileFault) : Outcome :=
  r.die 2 ("cannot read " ++ p.text ++ ": " ++ fault.reason)

/-- Numbers of inputs and outputs, in words. -/
def sizes (a : Abi) : Text :=
  Decimal.ofNat a.inputs.length ++ " inputs, " ++ Decimal.ofNat a.outputs.length ++ " outputs"

/-- Reads the document at a path and goes on with its interface, or ends the run. -/
def withAbi (r : Run) (p : Path) (next : Run → Abi → Running Outcome) : Running Outcome := do
  match r.tree.read p with
  | .error fault => return r.unreadable p fault
  | .ok content =>
    match ← r.lift (Source.decode none (.bytes content)).attempt with
    | .ok a => next (r.log .debug "zkabi.abi.decoding" ("decoded abi: " ++ sizes a)) a
    | .error (.decode e) =>
      return r.die 1 (p.text ++ ": " ++ Failure.located e.fault.message e.place)
    | .error e => throw ⟨e, r.tree⟩

/-- Shows an interface. -/
def inspect (json : Bool) (r : Run) (a : Abi) : Running Outcome := do
  let report ← r.lift (.ofLimited (Report.of a))
  if json then
    let c ← r.lift .settings
    let style : Json.Style := ⟨.indented c.indent.toNat, true⟩
    return r.succeed (printed (← r.lift (.ofLimited (Json.print? style report.document))))
  else
    return r.succeed (← r.lift (.ofExcept report.tables))

/-- Says that a document is well formed. -/
def check (p : Path) (r : Run) (a : Abi) : Running Outcome :=
  return (r.log .info r.logger (p.text ++ ": " ++ sizes a)).succeed (printed "ok")

/-- Prints the canonical text of a document, or writes it to a file. -/
def fmt (compact : Bool) (out : Option Path) (r : Run) (a : Abi) : Running Outcome := do
  let text ← r.lift (a.text (!compact) none)
  match out with
  | none => return r.succeed (printed text)
  | some out =>
    let r ← r.write out (text ++ "\n")
    return (r.log .info r.logger ("wrote " ++ out.text)).succeed []

/-- Prints the signature of a document. -/
def signature (r : Run) (a : Abi) : Running Outcome :=
  return r.succeed (printed (← r.lift (.ofLimited a.signature.text?)))

/-- Checks a file of arguments against a document. -/
def checkArgs (argsPath : Path) (r : Run) (a : Abi) : Running Outcome := do
  match r.tree.read argsPath with
  | .error fault => return r.unreadable argsPath fault
  | .ok content =>
    match ← r.lift (parseArguments (.bytes content) a.signature none).attempt with
    | .ok values =>
      let shown ← r.lift (.ofLimited a.signature.text?)
      let count := Decimal.ofNat values.length
      return r.succeed (printed ("ok: " ++ count ++ " arguments match " ++ shown))
    | .error (.argument e) =>
      return r.die 1 (argsPath.text ++ ": " ++ Failure.located e.fault.message (some e.place))
    | .error e => throw ⟨e, r.tree⟩

end Run

/-- The paths that as many positional arguments spell as a command has; nothing when there are more
or fewer, or one is no path. -/
def positionalPaths? (arity : Nat) (positional : List Text) : Option (List Path) :=
  if positional.length = arity then positional.mapM Path.ofArgument? else none

/-- The path that an option gives, if it is given; nothing when its value is no path. -/
def optionPath? (value : Option Text) : Option (Option Path) := value.mapM Path.ofArgument?

/-- Runs a command with its own arguments. -/
def Verb.run (verb : Verb) (args : List Text) (r : Run) : Running Outcome := do
  match Arguments.ofList? verb.rules true args with
  | none => return .usage 2 r.tree
  | some given =>
    if given.has "--help" then return .usage 0 r.tree
    match optionPath? (given.value? "--out"), positionalPaths? verb.arity given.positional with
    | some out, some paths =>
      match verb, paths with
      | .inspect, [p] => r.withAbi p (Run.inspect (given.has "--json"))
      | .check, [p] => r.withAbi p (Run.check p)
      | .fmt, [p] => r.withAbi p (Run.fmt (given.has "--compact") out)
      | .signature, [p] => r.withAbi p Run.signature
      | .checkArgs, [p, argsPath] => r.withAbi p (Run.checkArgs argsPath)
      | _, _ => return r.succeed (printed Release.baseVersion)
    | _, _ => return .usage 2 r.tree

/-- The exit code for arguments that start with no command. They are read as options once more, so
that asking for help there is answered. -/
def unknownExit (args : List Text) : Nat :=
  match Arguments.ofList? rootRules false args with
  | some given => if given.has "--help" then 0 else 2
  | none => 2

/-- Runs the tool. -/
def run (setup : Setup) (args : List Text) (tree : Tree) : Running Outcome := do
  let args :=
    match args with
    | first :: rest => if setup.dispatched && first == Release.distribution then rest else args
    | [] => []
  if args.isEmpty then return .usage 2 tree
  match Arguments.ofList? rootRules false args with
  | none => return .usage 2 tree
  | some given =>
    if given.has "--help" then return .usage 0 tree
    match given.positional with
    | [] => return .usage 2 tree
    | name :: rest =>
      match Verb.names.lookup name with
      | none => return .usage (unknownExit given.positional) tree
      | some verb =>
        let level ← if given.has "--verbose" then pure ("DEBUG" : Text) else
          Config.logLevel <$> Running.lift tree .settings
        let least ← if setup.logging then
          some <$> Running.lift tree (.ofExcept ((threshold level).mapError Failure.level))
          else pure none
        verb.run rest ⟨setup.logger, least, [], tree⟩

end CircuitAbi.Command

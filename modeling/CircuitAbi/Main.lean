import CircuitAbi.Command.Run

/-!
# The tool on a real file system

Takes a snapshot of the files that the arguments may name, runs the tool on it, prints what it
printed and writes the files that it changed.
-/

set_option autoImplicit false

namespace CircuitAbi.Main

/-- Text as a string, for text that is Unicode. -/
def toString (t : Text) : String := String.ofList (t.map Char.ofNat)

/-- The variables that settings come from, as they are set. -/
def environment : IO Environment := do
  let names := ["ZKABI_STRICT", "ZKABI_INDENT", "ZKABI_MAX_DOC_BYTES", "ZKABI_ENTRY_POINT",
    "ZKABI_LOG_LEVEL", "ZKABI_FIELD_MODULUS"]
  names.filterMapM fun (name : String) => do
    match ← IO.getEnv name with
    | some value => return some (Text.ofString name, Text.ofString value)
    | none => return none

/-- What stands at a path of the file system. -/
def probe (path : String) : IO (Option Node) := do
  try
    return some (.file (← IO.FS.readBinFile path).toList)
  catch
    | .noFileOrDirectory .. => return none
    | .inappropriateType .. => return some .directory
    | e => throw e

/-- The texts in an argument that may be paths: the whole, and the value of an option. -/
def candidates (arg : Text) : List Text :=
  let value := match (Text.cutAt 61 arg).2 with
    | some v => [v]
    | none => []
  arg :: value ++ [arg.drop 2]

/-- The tree with what stands at a path, and at the directory that holds it. -/
def record (t : Tree) (p : Path) : IO Tree := do
  let start := if p.anchor = .working then t.working else []
  let route := p.parts.foldl Route.enter start
  let mut t := t
  for r in [route, route.dropLast] do
    match ← probe ("/" ++ toString (Text.join "/" r)) with
    | some (.file content) => t := { t with files := Tree.put r content t.files }
    | some .directory => t := { t with directories := r :: t.directories }
    | none => pure ()
  return t

/-- A snapshot of what the arguments may name. -/
def snapshot (args : List Text) : IO Tree := do
  let working := (Path.ofText (Text.ofString (← IO.currentDir).toString)).parts
  (args.flatMap candidates).foldlM (fun t arg => record t (.ofText arg)) ⟨[], [], working⟩

/-- Writes the files that a run changed. -/
def save (old new : Tree) : IO Unit := do
  for (route, content) in old.changes new do
    IO.FS.writeBinFile ("/" ++ toString (Text.join "/" route)) ⟨content.toArray⟩

/-- A reminder of how the tool is called. -/
def usage : String :=
  "usage: zkabi [-v] (inspect [--json] | check | fmt [--compact] [--out FILE] | signature) ABI\n" ++
  "       zkabi [-v] check-args ABI ARGUMENTS\n       zkabi version\n"

end CircuitAbi.Main

open CircuitAbi in
/-- Runs the tool on the file system. -/
def main (args : List String) : IO UInt32 := do
  let args := args.map Text.ofString
  let config := Config.ofEnvironment (← Main.environment)
  let tree ← Main.snapshot args
  match (Command.run ⟨true, "zkabi.cli.abi_tool", true⟩ args tree).run.run config with
  | .error stop =>
    Main.save tree stop.tree
    (← IO.getStderr).putStrLn (Main.toString (stop.failure.message?.getD "nested too deeply"))
    return 1
  | .ok (.usage exit _) =>
    (if exit = 0 then IO.print else fun s => do (← IO.getStderr).putStr s) Main.usage
    return exit.toUInt32
  | .ok (.completed c) =>
    Main.save tree c.tree
    IO.print (Main.toString c.stdout)
    (← IO.getStderr).putStr (Main.toString c.stderr)
    return c.exit.toUInt32

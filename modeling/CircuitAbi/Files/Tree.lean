import CircuitAbi.Failure
import CircuitAbi.Files.Path

/-!
# File trees

Files under routes from the root, with a working directory. Directories are those listed, those on
the way to a file, and those on the way to the working directory.

* `Tree.locate` — where a path leads, walking name by name.
* `Tree.read`, `Tree.writeText` — the content of a file, and the tree after writing one.
* `Tree.changes` — the files that are new or different.
-/

set_option autoImplicit false

namespace CircuitAbi

/-- Names from the root down. -/
abbrev Route := List Text

namespace Route

/-- The route that a name leads to. Nothing is above the root. -/
def enter (route : Route) (name : Text) : Route :=
  if name = ".." then route.dropLast else route ++ [name]

/-- The route below a directory, for one that leads below it. -/
def below? (directory route : Route) : Option Route :=
  if directory.isPrefixOf route then some (route.drop directory.length) else none

end Route

/-- Files, listed directories, and the working directory. -/
structure Tree where
  files : List (Route × Bytes)
  directories : List Route
  working : Route

/-- What stands at a route. -/
inductive Node
  | file (content : Bytes)
  | directory

namespace Tree

/-- Whether a route is a directory: a listed one, the working one, or one on the way. -/
def isDirectory (t : Tree) (route : Route) : Bool :=
  route.isPrefixOf t.working || t.directories.any (route.isPrefixOf ·) ||
    t.files.any fun f => f.1 != route && route.isPrefixOf f.1

/-- What stands at a route. -/
def node? (t : Tree) (route : Route) : Option Node :=
  match t.files.lookup route with
  | some content => some (.file content)
  | none => if t.isDirectory route then some .directory else none

/-- Whether a text has more octets in UTF-8 than a limit. -/
def exceeds (limit : Nat) (t : Text) : Bool := (Utf8.encode t).length > limit

/-- The most octets of a name on a path. -/
def nameLimit : Nat := 255

/-- The most octets of a path. -/
def pathLimit : Nat := 4095

/-- The route that names lead to from a route. Every place on the way has to be a directory, and
every name short enough. -/
def walk (t : Tree) (route : Route) : List Text → Except FileFault Route
  | [] => .ok route
  | name :: rest =>
    match t.node? route with
    | none => .error .missing
    | some (.file _) => .error .notDirectory
    | some .directory =>
      if exceeds nameLimit name then .error .nameTooLong else t.walk (route.enter name) rest

/-- The route that a path leads to. -/
def locate (t : Tree) (p : Path) : Except FileFault Route :=
  if exceeds pathLimit p.text then .error .nameTooLong
  else t.walk (if p.anchor = .working then t.working else []) p.parts

/-- The content of the file at a path. -/
def read (t : Tree) (p : Path) : Except FileFault Bytes := do
  match t.node? (← t.locate p) with
  | some (.file content) => return content
  | some .directory => throw .isDirectory
  | none => throw .missing

/-- The files with one written: in its place, or at the end. -/
def put (route : Route) (content : Bytes) : List (Route × Bytes) → List (Route × Bytes)
  | [] => [(route, content)]
  | (r, c) :: rest => if r = route then (r, content) :: rest else (r, c) :: put route content rest

/-- Writing a file sets its content and that of no other. -/
theorem lookup_put (route r : Route) (content : Bytes) (files : List (Route × Bytes)) :
    (put route content files).lookup r = if r = route then some content else files.lookup r := by
  induction files with
  | nil =>
    by_cases h : r = route
    · subst h
      simp [put]
    · have : (r == route) = false := by simpa using h
      simp [put, List.lookup_cons, this, h]
  | cons f files ih =>
    obtain ⟨r', c'⟩ := f
    simp only [put]
    split
    · next h =>
      subst h
      by_cases hr : r = r'
      · subst hr
        simp
      · have : (r == r') = false := by simpa using hr
        simp [List.lookup_cons, this, hr]
    · next h =>
      by_cases hr : r = r'
      · subst hr
        simp [h]
      · have : (r == r') = false := by simpa using hr
        simp [List.lookup_cons, this, ih]

/-- The tree with a file at a route, in place of the one that was there. -/
def withFile (t : Tree) (route : Route) (content : Bytes) : Tree :=
  { t with files := put route content t.files }

/-- Opens the file at a path for writing: its route, and the tree in which it is empty. -/
def create (t : Tree) (p : Path) : Except FileFault (Route × Tree) := do
  let route ← t.locate p
  match t.node? route with
  | some .directory => throw .isDirectory
  | _ => return (route, t.withFile route [])

/-- A working directory with what is below it: texts that spell paths, each with the content of a
file or as a directory. -/
def ofList (working : Route) (entries : List (Text × Option Bytes)) : Tree :=
  entries.foldl
    (fun t (name, content) =>
      let route := working ++ (Path.ofText name).parts
      match content with
      | some content => t.withFile route content
      | none => { t with directories := t.directories ++ [route] })
    ⟨[], [], working⟩

/-- The files that a tree has and another had not, or not with this content. -/
def changes (old new : Tree) : List (Route × Bytes) :=
  new.files.filter fun f => old.files.lookup f.1 != some f.2

/-- Whether one text comes before another, by code points. -/
def precedes : Text → Text → Bool
  | [], _ => true
  | _ :: _, [] => false
  | a :: as, b :: bs => a < b || (a == b && precedes as bs)

/-- The changed files below the working directory, by their paths from there. -/
def localChanges (old new : Tree) : List (Text × Bytes) :=
  let found := (changes old new).filterMap fun (route, content) =>
    (Route.below? old.working route).map fun r => (Text.join "/" r, content)
  found.mergeSort fun a b => precedes a.1 b.1

end Tree

namespace Path

/-- Whether a name on the path holds a NUL, which no file system takes. -/
def hasNul (p : Path) : Bool := p.parts.any (·.contains 0)

/-- A text as a path, unless it holds a NUL. -/
def ofArgument? (t : Text) : Option Path :=
  if (ofText t).hasNul then none else some (.ofText t)

end Path

namespace Tree

/-- The content of the file at a path, or why there is none. -/
def load (t : Tree) (p : Path) : Except Failure Bytes :=
  if p.hasNul then .error .nulInPath
  else
    match t.read p with
    | .ok content => .ok content
    | .error fault => .error (.file ⟨fault, p.text⟩)

/-- The tree after writing a text to the file at a path; or why it cannot be written, with the tree
that is left then. The file is opened first, so a text that has no UTF-8 form leaves it empty. -/
def writeText (t : Tree) (p : Path) (text : Text) : Except (Failure × Tree) Tree :=
  if p.hasNul then .error (.nulInPath, t)
  else
    match t.create p with
    | .error fault => .error (.file ⟨fault, p.text⟩, t)
    | .ok (route, opened) =>
      match Utf8.surrogateRun? text with
      | some run => .error (.unencodable run, opened)
      | none => .ok (opened.withFile route (Utf8.encode text))

end Tree

end CircuitAbi

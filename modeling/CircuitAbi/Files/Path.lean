import CircuitAbi.Text.Basic

/-!
# Paths

A path is a sequence of names, relative to the working directory or to the root. Empty names and
`.` mean nothing and are dropped; `..` stays, since what it means depends on the directories.
-/

set_option autoImplicit false

namespace CircuitAbi

/-- Where a path starts: the working directory, the root, or the root spelled with two slashes. -/
inductive Anchor
  | working
  | root
  | doubleRoot
  deriving DecidableEq

/-- A path. -/
structure Path where
  anchor : Anchor
  parts : List Text
  deriving DecidableEq

namespace Path

/-- The path that a text spells. Two slashes (47) in front are kept apart from one, more are like
one. -/
def ofText (t : Text) : Path :=
  let anchor :=
    match (t.takeWhile (· == 47)).length with
    | 0 => .working
    | 2 => .doubleRoot
    | _ => .root
  ⟨anchor, (t.splitOn 47).filter fun p => !p.isEmpty && p != "."⟩

/-- The path as it is printed; the working directory itself is `.`. -/
def text (p : Path) : Text :=
  match p.anchor, p.parts with
  | .working, [] => "."
  | .working, parts => Text.join "/" parts
  | .root, parts => "/" ++ Text.join "/" parts
  | .doubleRoot, parts => "//" ++ Text.join "/" parts

end Path

end CircuitAbi

import CircuitAbi.Value.Basic

/-!
# Places inside a value

An error names the node it is about by a root, which the caller chooses, and the accessors that lead
from there to the node.
-/

set_option autoImplicit false

namespace CircuitAbi

/-- One step from a value to a part of it. -/
inductive Accessor
  | key (name : Text)
  | index (i : Nat)
  deriving DecidableEq

namespace Accessor

/-- The step as paths spell it. -/
def text : Accessor → Text
  | key name => "." ++ name
  | index i => "[" ++ Decimal.ofNat i ++ "]"

/-- The part of a value that a step leads to. -/
def follow? : Accessor → Value → Option Value
  | key name, .object entries => Entries.get? name entries
  | index i, .list items => items[i]?
  | _, _ => none

end Accessor

/-- The node that accessors lead to, if it exists. -/
def Value.resolve? (v : Value) : List Accessor → Option Value
  | [] => some v
  | a :: path => (a.follow? v).bind (·.resolve? path)

/-- A node: the root and the accessors that lead to it. -/
structure Place where
  root : Text
  path : List Accessor

/-- The place as messages spell it. -/
def Place.text (p : Place) : Text := p.root ++ p.path.flatMap Accessor.text

/-- The root of a whole document. -/
def documentRoot : Text := "$"

end CircuitAbi

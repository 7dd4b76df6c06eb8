import CircuitAbi.Schema.Equality
import CircuitAbi.Value.Basic

/-!
# Equality of values

Numbers are equal by their value, whatever their form, and switches count as zero and one. Lists are
equal item by item, objects key by key in any order. Comparing stops at the first difference, or at
the limit on nesting.
-/

set_option autoImplicit false

namespace CircuitAbi.Value

/-- The whole number that a value is. -/
def whole? : Value → Option Int
  | bool b => some (if b then 1 else 0)
  | int n => some n
  | real x => x.toInt?
  | _ => none

/-- Whether two values that hold no others are equal. -/
def sameScalar : Value → Value → Bool
  | null, null => true
  | text a, text b => a == b
  | bytes a, bytes b => a == b
  | a, b =>
    match a.whole?, b.whole? with
    | some m, some n => m == n
    | none, none =>
      match a, b with
      | real x, real y => x == y
      | _, _ => false
    | _, _ => false

/-- Whether two values are equal, compared down to a number of levels. -/
def equalWithin : Nat → Value → Value → Except Limit Bool
  | 0, _, _ => .error .nesting
  | room + 1, list as, list bs =>
    if as.length = bs.length then pairwiseEqual (equalWithin room) as bs else return false
  | room + 1, object as, object bs =>
    if as.length = bs.length then
      as.foldlM
        (fun same (key, v) =>
          match same, Entries.get? key bs with
          | true, some w => equalWithin room v w
          | _, _ => return false)
        true
    else return false
  | room + 1, type a, type b => a.equalWithin room b
  | _ + 1, a, b => return sameScalar a b

/-- Whether two values are equal. -/
def equal (a b : Value) : Except Limit Bool := a.equalWithin nestingLimit b

end CircuitAbi.Value

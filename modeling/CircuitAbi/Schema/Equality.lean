import CircuitAbi.Schema.Basic

/-!
# Equality of types

Types are equal when they have the same shape, the same sizes, and the same names in the same
order; the form in which a width was given does not matter. Comparing goes depth first and stops
at the first difference, or where there is no room for another call.
-/

set_option autoImplicit false

namespace CircuitAbi

/-- Whether two sequences agree: item by item up to the first difference, and only then in length.
-/
def pairwiseEqual {α : Type} (same : α → α → Except Limit Bool) :
    List α → List α → Except Limit Bool
  | a :: as, b :: bs => do
    if ← same a b then pairwiseEqual same as bs else return false
  | as, bs => return as.isEmpty && bs.isEmpty

namespace SchemaType

mutual

/-- Whether two types are equal, compared with room for a number of calls. -/
def equalWithin (room : Nat) : SchemaType → SchemaType → Except Limit Bool
  | field, field => withCalls 1 room fun _ => return true
  | bool, bool => withCalls 1 room fun _ => return true
  | uint w _, uint w' _ => withCalls 1 room fun _ => return w = w'
  | array e s, array e' s' => withCalls 3 room fun room => do
    if ← e.equalWithin room e' then return s = s' else return false
  | struct n ms, struct n' ms' => withCalls 7 room fun room =>
    if n = n' then membersEqual room ms ms' else return false
  | _, _ => withCalls 1 room fun _ => return false
termination_by structural a => a

/-- Whether two lists of members have the same names in order, and equal types. -/
def membersEqual (room : Nat) :
    List (Name × SchemaType) → List (Name × SchemaType) → Except Limit Bool
  | (name, t) :: ms, (name', t') :: ms' => do
    if name = name' then
      if ← t.equalWithin room t' then membersEqual room ms ms' else return false
    else return false
  | ms, ms' => return ms.isEmpty && ms'.isEmpty
termination_by structural ms => ms

end

/-- Whether two types are equal. -/
def equal (a b : SchemaType) : Except Limit Bool := a.equalWithin callLimit b

end SchemaType

end CircuitAbi

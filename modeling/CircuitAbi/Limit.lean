import CircuitAbi.Number.Decimal

/-!
# Limits on hostile input

Values and types are walked by calls inside calls, of which an operation may have `callLimit` open
at once. How far it gets depends on how many it opens for each level of nesting:

* `nestingLimit` — one, where values are read, printed, encoded, decoded or shown;
* `argumentLimit`, `countLimit` — up to two, where arguments are checked or primitive values
  counted;
* `arrayLimit` — three, where the arrays of a signature are shown;
* comparing types and showing them as constructors takes as many as `SchemaType.calls` says.

Numbers convert to and from decimal text up to `digitLimit` digits. An operation that meets a limit
fails with it instead of an answer.
-/

set_option autoImplicit false

namespace CircuitAbi

/-- The calls that an operation may have open at once; a thousand, less what is left to its
caller. -/
def callLimit : Nat := 900

/-- The most levels of nesting that are walked with one call for each. -/
def nestingLimit : Nat := callLimit

/-- The most levels of an argument. -/
def argumentLimit : Nat := callLimit / 2

/-- The most levels of a type whose primitive values are counted. -/
def countLimit : Nat := callLimit / 2

/-- One more than the arrays around each other that a signature shows. -/
def arrayLimit : Nat := callLimit / 3

/-- A limit that an operation ran into. -/
inductive Limit
  | nesting
  | printing
  | reading (digits : Nat)
  deriving DecidableEq

namespace Limit

/-- What the wording of a limit on digits ends in. -/
def advice : Text := "; use sys.set_int_max_str_digits() to increase the limit"

/-- The wording; running out of nesting has none. -/
def message? : Limit → Option Text
  | nesting => none
  | printing =>
    some ("Exceeds the limit (4300 digits) for integer string conversion" ++ advice)
  | reading digits =>
    some ("Exceeds the limit (4300 digits) for integer string conversion: value has " ++
      Decimal.ofNat digits ++ " digits" ++ advice)

end Limit

/-- What is done with the room that is left once some calls are open, if there is room for them. -/
def withCalls {α : Type} (calls room : Nat) (next : Nat → Except Limit α) : Except Limit α :=
  if calls ≤ room then next (room - calls) else .error .nesting

theorem withCalls_of_le {α : Type} {calls room : Nat} (h : calls ≤ room)
    (next : Nat → Except Limit α) : withCalls calls room next = next (room - calls) :=
  if_pos h

/-- An integer in decimal, unless it has too many digits. -/
def Decimal.print (n : Int) : Except Limit Text :=
  if fits n then .ok (ofInt n) else .error .printing

end CircuitAbi

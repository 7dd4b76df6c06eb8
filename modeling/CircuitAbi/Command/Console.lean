import CircuitAbi.Text.Basic

/-!
# Text for a console

Text that is printed loses its terminal control sequences: escape, an opening bracket, parameters,
and a letter.
-/

set_option autoImplicit false

namespace CircuitAbi.Command

/-- Printing so far: what has been let through, and a control sequence that may be beginning; both
latest first. -/
structure ControlScan where
  done : Text
  held : Text

namespace ControlScan

/-- A parameter of a control sequence: a digit, `;` (59) or `?` (63). -/
def isParameter (c : CodePoint) : Bool := (48 ≤ c && c ≤ 57) || c == 59 || c == 63

/-- An ASCII letter. -/
def isLetter (c : CodePoint) : Bool := (65 ≤ c && c ≤ 90) || (97 ≤ c && c ≤ 122)

/-- What was held is no control sequence; an escape (27) may begin another. -/
def release (s : ControlScan) (c : CodePoint) : ControlScan :=
  if c = 27 then ⟨s.held ++ s.done, [27]⟩ else ⟨c :: s.held ++ s.done, []⟩

/-- One more character. After an escape comes a bracket (91), then parameters, then a letter. -/
def step (s : ControlScan) (c : CodePoint) : ControlScan :=
  match s.held with
  | [] => s.release c
  | [_] => if c = 91 then { s with held := c :: s.held } else s.release c
  | _ =>
    if isParameter c then { s with held := c :: s.held }
    else if isLetter c then { s with held := [] }
    else s.release c

end ControlScan

/-- The text without terminal control sequences. -/
def stripControls (t : Text) : Text :=
  let s := t.foldl ControlScan.step ⟨[], []⟩
  (s.held ++ s.done).reverse

/-- The text as printed, with a newline at the end. -/
def printed (t : Text) : Text := stripControls t ++ "\n"

end CircuitAbi.Command

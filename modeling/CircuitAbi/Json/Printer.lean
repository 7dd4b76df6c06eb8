import CircuitAbi.Text.Quoted
import CircuitAbi.Value.Basic

/-!
# Values as JSON text

* `Json.print` — the text of a value in a layout: on one line without blanks, or with every item
  on a line of its own; with characters beyond ASCII as they are or escaped.
* `Json.print?` — the same, within the limits on nesting and on digits.
* Octets and types have no JSON form; they print as `null`.
-/

set_option autoImplicit false

namespace CircuitAbi.Json

/-- How a text is laid out: on one line, or indented by a number of spaces for each level. -/
inductive Layout
  | compact
  | indented (spaces : Nat)

/-- How text is printed: its layout, and whether characters beyond ASCII are escaped. -/
structure Style where
  layout : Layout
  ascii : Bool

namespace Style

/-- On one line, characters as they are. -/
def compact : Style := ⟨.compact, false⟩

/-- Indented, characters as they are; less than no indentation is none. -/
def indented (spaces : Int) : Style := ⟨.indented spaces.toNat, false⟩

/-- The start of a line at a level. -/
def line (s : Style) (level : Nat) : Text :=
  match s.layout with
  | .compact => []
  | .indented spaces => "\n" ++ (List.replicate (spaces * level) 32 : Text)

/-- Between a key and its value. -/
def afterKey (s : Style) : Text :=
  match s.layout with
  | .compact => ":"
  | .indented _ => ": "

end Style

/-- One UTF-16 unit as an escape. -/
def unitEscape (unit : Nat) : Text := "\\u" ++ Text.hexPadded 4 unit

/-- One character inside a string. A quote (34) and a backslash (92) stand after a backslash,
control characters have a short form or that of their number. -/
def printCodePoint (ascii : Bool) (c : CodePoint) : Text :=
  if c = 34 ∨ c = 92 then [92, c]
  else if c = 10 then "\\n"
  else if c = 13 then "\\r"
  else if c = 9 then "\\t"
  else if c = 8 then "\\b"
  else if c = 12 then "\\f"
  else if c < 32 then unitEscape c
  else if ascii ∧ 0x7F ≤ c then
    if c < 0x10000 then unitEscape c
    else unitEscape (0xD800 + (c - 0x10000) / 0x400) ++ unitEscape (0xDC00 + (c - 0x10000) % 0x400)
  else [c]

/-- A string in quotes. -/
def printText (ascii : Bool) (t : Text) : Text :=
  "\"" ++ t.flatMap (printCodePoint ascii) ++ "\""

mutual

/-- A value, its first line at a level. -/
def printAt (s : Style) (level : Nat) : Value → Text
  | .null => "null"
  | .bool b => if b then "true" else "false"
  | .int n => Decimal.ofInt n
  | .real x => x.text
  | .text t => printText s.ascii t
  | .bytes _ => "null"
  | .type _ => "null"
  | .list [] => "[]"
  | .list (v :: rest) =>
    "[" ++ s.line (level + 1) ++ printAt s (level + 1) v ++ printItems s level rest ++
      s.line level ++ "]"
  | .object [] => "\x7b\x7d"
  | .object ((k, v) :: rest) =>
    "\x7b" ++ s.line (level + 1) ++ printText s.ascii k ++ s.afterKey ++ printAt s (level + 1) v ++
      printEntries s level rest ++ s.line level ++ "\x7d"
termination_by structural v => v

/-- The items after the first. -/
def printItems (s : Style) (level : Nat) : List Value → Text
  | [] => []
  | v :: rest => "," ++ s.line (level + 1) ++ printAt s (level + 1) v ++ printItems s level rest
termination_by structural vs => vs

/-- The entries after the first. -/
def printEntries (s : Style) (level : Nat) : List (Text × Value) → Text
  | [] => []
  | (k, v) :: rest =>
    "," ++ s.line (level + 1) ++ printText s.ascii k ++ s.afterKey ++ printAt s (level + 1) v ++
      printEntries s level rest
termination_by structural es => es

end

/-- The JSON text of a value. -/
def print (s : Style) (v : Value) : Text := printAt s 0 v

mutual

/-- The first limit that printing a value meets, with room for a number of levels: that on nesting,
or that on the digits of a whole number. -/
def limit? (room : Nat) : Value → Option Limit
  | .int n => if Decimal.fits n then none else some .printing
  | .list items => if room = 0 then some .nesting else itemsLimit? (room - 1) items
  | .object entries => if room = 0 then some .nesting else entriesLimit? (room - 1) entries
  | _ => none
termination_by structural v => v

/-- The first limit that printing the items meets. -/
def itemsLimit? (room : Nat) : List Value → Option Limit
  | [] => none
  | v :: rest => (limit? room v).or (itemsLimit? room rest)
termination_by structural vs => vs

/-- The first limit that printing the entries meets. -/
def entriesLimit? (room : Nat) : List (Text × Value) → Option Limit
  | [] => none
  | (_, v) :: rest => (limit? room v).or (entriesLimit? room rest)
termination_by structural es => es

end

/-- The JSON text of a value, unless it meets a limit. -/
def print? (s : Style) (v : Value) : Except Limit Text :=
  match limit? nestingLimit v with
  | none => .ok (print s v)
  | some l => .error l

end CircuitAbi.Json

import CircuitAbi.Markup.Expression
import CircuitAbi.Markup.Tag
import CircuitAbi.Text.Blank

/-!
# Actions of tags

A tag whose name starts with `@` carries an action in its parameters: the name of a handler, which
may be followed by arguments in parentheses, or else a value. Arguments and values are literals.
What is no literal is read once more for what is wrong with its brackets and separators.
-/

set_option autoImplicit false

namespace CircuitAbi.Markup.Action

open Expression (isWord isQuote isSign)

/-- The part of the parameters that has to be literal: the arguments of a handler in their
parentheses (40 and 41), an empty pair when there are none, or the whole. -/
def expression (parameters : Text) : Text :=
  let t := Text.trim parameters
  match t.dropWhile isWord with
  | [] => "()"
  | 40 :: rest => if rest.getLast? == some 41 && !rest.contains 10 then 40 :: rest else t
  | _ => t

/-- The closing bracket of an opening one, round or curly. -/
def closing? (c : CodePoint) : Option CodePoint :=
  if c = 40 then some 41 else if c = 123 then some 125 else none

/-- Whether a character closes a bracket. -/
def isClosing (c : CodePoint) : Bool := c == 41 || c == 125

/-- Where in an expression a character stands. -/
inductive Mode
  | between
  | word
  | quoted (mark : CodePoint)
  | escaped (mark : CodePoint)

/-- Reading so far: where it stands, the open brackets latest first, whether a value has to come
next and whether it may be left out, whether the last value was quoted, and the first fault of
brackets and of form. -/
structure Scan where
  mode : Mode
  opened : List CodePoint
  expecting : Bool
  optional : Bool
  afterQuote : Bool
  bracketFault : Option Text
  formFault : Option Text

namespace Scan

/-- The start of an expression. -/
def start : Scan := ⟨.between, [], true, false, false, none, none⟩

/-- A fault of form, unless there was one before. -/
def wrong (s : Scan) : Scan :=
  let reason : Text :=
    if s.opened.isEmpty || s.expecting then "invalid syntax"
    else "invalid syntax. Perhaps you forgot a comma?"
  { s with formFault := s.formFault.or (some reason) }

/-- A fault of brackets, unless there was one before. -/
def misplaced (s : Scan) (reason : Text) : Scan :=
  { s with bracketFault := s.bracketFault.or (some reason) }

/-- A value begins. -/
def value (s : Scan) (mode : Mode) (allowed : Bool) : Scan :=
  let s := if allowed then s else s.wrong
  { s with mode := mode, expecting := false, optional := false, afterQuote := false }

/-- A bracket closes. -/
def close (s : Scan) (c : CodePoint) : Scan :=
  match s.opened with
  | [] => s.misplaced ("unmatched '" ++ [c] ++ "'")
  | o :: rest =>
    if closing? o = some c then
      let s := if s.expecting && !s.optional then s.wrong else s
      { s with opened := rest, expecting := false, optional := false, afterQuote := false }
    else
      s.misplaced
        ("closing parenthesis '" ++ [c] ++ "' does not match opening parenthesis '" ++ [o] ++ "'")

/-- One more character that begins something. A round bracket after a value would call it, which
breaks no rule of form. A comma is 44 and a colon 58. -/
def next (s : Scan) (c : CodePoint) : Scan :=
  let s := { s with mode := .between }
  if Text.isBlank c then s
  else if isWord c then s.value .word s.expecting
  else if isQuote c then s.value (.quoted c) (s.expecting || s.afterQuote)
  else if (closing? c).isSome then
    let s := s.value .between (s.expecting || c == 40)
    { s with opened := c :: s.opened, expecting := true, optional := true }
  else if isClosing c then s.close c
  else if c = 44 then
    let s := if s.expecting then s.wrong else s
    { s with expecting := true, optional := true, afterQuote := false }
  else if c = 58 then
    let s := if s.expecting || s.opened.head? != some 123 then s.wrong else s
    { s with expecting := true, optional := false, afterQuote := false }
  else if isSign c then
    { s with expecting := true, optional := false, afterQuote := false }
  else { s with expecting := true }.wrong

/-- The wording for a quote that does not end. -/
def unterminated : Text := "unterminated string literal (detected at line 1)"

/-- The wording for a bracket that does not close. -/
def neverClosed (c : CodePoint) : Text := "'" ++ [c] ++ "' was never closed"

/-- One more character. A backslash (92) takes the next one with it, and a quote ends on its
line. -/
def step (s : Scan) (c : CodePoint) : Scan :=
  match s.mode with
  | .escaped mark => { s with mode := .quoted mark }
  | .quoted mark =>
    if c = 92 then { s with mode := .escaped mark }
    else if c = mark then { s with mode := .between, afterQuote := true }
    else if c = 10 then s.misplaced unterminated
    else s
  | .word => if isWord c then s else s.next c
  | .between => s.next c

/-- What is wrong with the expression read. -/
def reason? (s : Scan) : Option Text :=
  let unfinished :=
    match s.mode with
    | .quoted _ | .escaped _ => some unterminated
    | _ => s.opened.head?.map neverClosed
  let form := if s.expecting && !s.optional then s.wrong.formFault else s.formFault
  (s.bracketFault.or unfinished).or form

end Scan

/-- The wording for a whole number with a zero before another digit. -/
def leadingZeros : Text :=
  "leading zeros in decimal integer literals are not permitted; " ++
    "use an 0o prefix for octal integers"

/-- Whether an expression has a word of digits that starts with a needless zero (48). -/
def hasLeadingZeros (t : Text) : Bool :=
  let words := Text.splitOn 32 (t.map fun c => if isWord c then c else 32)
  words.any fun w => w.head? == some 48 && w.all Decimal.isDigit && !Expression.isWhole w

/-- What is wrong with an expression that is no literal. -/
def fault (parameters : Text) : Fault :=
  let t := expression parameters
  match (t.foldl Scan.step .start).reason? with
  | some reason => .action t parameters reason
  | none =>
    if hasLeadingZeros t then .action t parameters leadingZeros else .notLiteral parameters

/-- Checks the action of a tag that is closed, if it has one; `@` is 64. -/
def check (tag : Tag) : Except Fault Unit :=
  match tag.name, tag.parameters with
  | 64 :: _, some parameters =>
    if parameters.isEmpty || Expression.isLiteral (expression parameters) then return ()
    else .error (fault parameters)
  | _, _ => return ()

end CircuitAbi.Markup.Action

import CircuitAbi.Text.Blank
import CircuitAbi.Text.CellWidth

/-!
# Lines that fit a width

* `linesOf` — the lines of a text, tabs as spaces up to the next stop.
* `breakLine` — a line broken between words so that each part fits, a word that is too long apart.
* `shorten` — a line cut to a width, with an ellipsis at its end.
* `widthOf` — the width that a text asks for. Tabs take no room there, and every character that
  separates lines starts a new one, so a text may need to be broken to the width it asked for.
-/

set_option autoImplicit false

namespace CircuitAbi.Command

/-- Spaces. -/
def spaces (n : Nat) : Text := List.replicate n 32

/-- The distance between tab stops. -/
def tabSize : Nat := 8

/-- A line with spaces in place of tabs (9). -/
def expandTabs (line : Text) : Text :=
  let (_, parts) := line.foldl
    (fun ((taken, parts) : Nat × List Text) c =>
      if c = 9 then
        let room := tabSize - taken % tabSize
        (taken + room, spaces room :: parts)
      else (taken + Text.cellsOf c, [c] :: parts))
    (0, [])
  parts.reverse.flatten

/-- The lines of a text, tabs as spaces. -/
def linesOf (t : Text) : List Text := (t.splitOn 10).map expandTabs

/-- A character that separates lines of some kind. -/
def isLineSeparator (c : CodePoint) : Bool :=
  (10 ≤ c && c ≤ 13) || (0x1C ≤ c && c ≤ 0x1E) || c == 0x85 || c == 0x2028 || c == 0x2029

/-- The width that a text asks for. -/
def widthOf (t : Text) : Nat := ((t.splitBy isLineSeparator).map Text.cells).foldl max 0

/-- The words of a line, each with the blanks after it and the first also with those before it. -/
def wordsOf (line : Text) : List Text :=
  let start := line.takeWhile Text.isBlank
  let (word, done) := (line.drop start.length).foldl
    (fun ((word, done) : Text × List Text) c =>
      if word.head?.any Text.isBlank && !Text.isBlank c then ([c], word.reverse :: done)
      else (c :: word, done))
    ([], [])
  match (word.reverse :: done).reverse with
  | [] => [start]
  | first :: rest => (start ++ first) :: rest

/-- A line under construction: the complete lines and the words of the current one, both latest
first, and the cells that it takes. -/
structure Breaking where
  done : List Text
  current : List Text
  taken : Nat

namespace Breaking

/-- The text of the current line. -/
def line (b : Breaking) : Text := b.current.reverse.flatten

/-- A new line that starts with a word. -/
def newLine (b : Breaking) (word : Text) : Breaking := ⟨b.line :: b.done, [word], Text.cells word⟩

/-- Adds a word. One that does not fit starts a new line, unless the line has no word yet, or only
words that take no room while this one takes no more than a line. -/
def addWord (width : Nat) (b : Breaking) (word : Text) : Breaking :=
  let size := Text.cells (Text.trimEnd word)
  if b.taken + size ≤ width then
    { b with current := word :: b.current, taken := b.taken + Text.cells word }
  else if size ≤ width then
    if b.taken = 0 then { b with current := word :: b.current } else b.newLine word
  else if b.current.isEmpty then { b with current := [word], taken := Text.cells word }
  else b.newLine word

end Breaking

/-- A line broken between words. -/
def breakLine (width : Nat) (line : Text) : List Text :=
  let b := (wordsOf line).foldl (Breaking.addWord width) ⟨[], [], 0⟩
  (b.line :: b.done).reverse

/-- A line without blanks at its end, as far as it is longer than a width. -/
def cropBlanks (width : Nat) (line : Text) : Text :=
  let blanks := line.length - (Text.trimEnd line).length
  line.take (line.length - min blanks (line.length - width))

/-- Halves the range where a text is to be cut until what is before the cut fills a width; a space
stands for half of a wide character. -/
def halve (width : Nat) (t : Text) : Nat → Nat → Nat → Text
  | 0, low, _ => t.take low
  | fuel + 1, low, high =>
    let cut := (low + high) / 2
    let before := t.take (cut + 1)
    let size := Text.cells before
    if size = width + 1 ∧ before.getLast?.any (Text.cellsOf · == 2) then before.dropLast ++ [32]
    else if size = width then before
    else if size > width then halve width t fuel low cut
    else halve width t fuel cut high

/-- The beginning of a longer text that fills a width. Several can, where characters take no cell;
the one that halving finds is taken. -/
def fitting (width : Nat) (t : Text) : Text :=
  if width = 0 then [] else halve width t t.length 0 t.length

/-- A line cut to a width, with an ellipsis when something is lost. -/
def shorten (width : Nat) (line : Text) : Text :=
  if Text.cells line ≤ width then line else fitting (width - 1) line ++ [0x2026]

/-- The lines of a text, broken and shortened to a width. -/
def fittedLines (width : Nat) (t : Text) : List Text :=
  (linesOf t).flatMap fun line =>
    (breakLine width line).map fun part => shorten width (cropBlanks width part)

/-- A line in the middle of a width. -/
def centred (width : Nat) (line : Text) : Text :=
  let gap := width - Text.cells line
  spaces (gap / 2) ++ line ++ spaces (gap - gap / 2)

/-- A line at the left or at the right of a width. -/
def aligned (right : Bool) (width : Nat) (line : Text) : Text :=
  let gap := spaces (width - Text.cells line)
  if right then gap ++ line else line ++ gap

end CircuitAbi.Command

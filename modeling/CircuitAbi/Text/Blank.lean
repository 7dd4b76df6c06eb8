import CircuitAbi.Text.Basic

/-!
# Blanks

The blank characters of Unicode, control characters that separate lines and records included, and
trimming and splitting by them.
-/

set_option autoImplicit false

namespace CircuitAbi.Text

/-- The ASCII characters that set lines and columns: tab to carriage return, and the space. -/
def isLineBlank (c : CodePoint) : Bool := (9 ≤ c && c ≤ 13) || c == 32

/-- Blanks beyond ASCII. -/
def isWideBlank (c : CodePoint) : Bool :=
  c == 0x85 || c == 0xA0 || c == 0x1680 || (0x2000 ≤ c && c ≤ 0x200A) || c == 0x2028 ||
    c == 0x2029 || c == 0x202F || c == 0x205F || c == 0x3000

/-- A blank character: in or beyond ASCII, or one of the four information separators. -/
def isBlank (c : CodePoint) : Bool :=
  isLineBlank c || (0x1C ≤ c && c ≤ 0x1F) || isWideBlank c

/-- The text without blanks at either end. -/
def trim (t : Text) : Text := trimBy isBlank t

/-- The text without blanks at its end. -/
def trimEnd (t : Text) : Text := dropEnding isBlank t

/-- The texts between blanks. -/
def words (t : Text) : List Text := (splitBy isBlank t).filter (!·.isEmpty)

end CircuitAbi.Text

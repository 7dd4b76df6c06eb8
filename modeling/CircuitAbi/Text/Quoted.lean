import CircuitAbi.Text.Printable
import CircuitAbi.Text.Utf8

/-!
# Quoted text

How messages quote text and octets: single quotes, or double ones when the content has a single
quote and no double one; a backslash before a backslash and before the quote in use; short forms for
tab, newline and return; anything unprintable by its number in hexadecimal.
-/

set_option autoImplicit false

namespace CircuitAbi

namespace Text

/-- A hexadecimal digit from `0` (48) to `9`, and from `a` (97) to `f`. -/
def hexDigit (n : Nat) : CodePoint := if n < 10 then 48 + n else 97 + (n - 10)

/-- A number in exactly `width` hexadecimal digits. -/
def hexPadded : Nat → Nat → Text
  | 0, _ => []
  | width + 1, n => hexPadded width (n / 16) ++ [hexDigit (n % 16)]

/-- The single quote. -/
def singleQuote : CodePoint := 39

/-- The double quote. -/
def doubleQuote : CodePoint := 34

/-- The quote in use: single, unless the content has a single quote and no double one. -/
def quoteMark (t : Text) : CodePoint :=
  if t.contains singleQuote && !t.contains doubleQuote then doubleQuote else singleQuote

/-- A backslash form shared by text and octets: of the quote in use, the backslash (92), and of tab,
newline and return. -/
def shortEscape? (mark c : CodePoint) : Option Text :=
  if c = mark ∨ c = 92 then some [92, c]
  else if c = 9 then some "\\t"
  else if c = 10 then some "\\n"
  else if c = 13 then some "\\r"
  else none

/-- One code point between quotes. -/
def quoteCodePoint (mark c : CodePoint) : Text :=
  match shortEscape? mark c with
  | some t => t
  | none =>
    if isPrintable c then [c]
    else if c < 0x100 then "\\x" ++ hexPadded 2 c
    else if c < 0x10000 then "\\u" ++ hexPadded 4 c
    else "\\U" ++ hexPadded 8 c

/-- Text between quotes. -/
def quoted (t : Text) : Text :=
  let mark := quoteMark t
  [mark] ++ t.flatMap (quoteCodePoint mark) ++ [mark]

end Text

namespace Bytes

/-- One octet between quotes. -/
def quoteOctet (mark : CodePoint) (b : UInt8) : Text :=
  match Text.shortEscape? mark b.toNat with
  | some t => t
  | none =>
    if 0x20 ≤ b.toNat ∧ b.toNat < 0x7F then [b.toNat] else "\\x" ++ Text.hexPadded 2 b.toNat

/-- Octets between quotes, after the letter `b` that marks them as such. -/
def quoted (bytes : Bytes) : Text :=
  let mark := Text.quoteMark (bytes.map UInt8.toNat)
  "b" ++ [mark] ++ bytes.flatMap (quoteOctet mark) ++ [mark]

end Bytes

end CircuitAbi

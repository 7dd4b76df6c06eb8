import CircuitAbi.Number.Decimal
import CircuitAbi.Text.Blank

/-!
# Integer literals

The numerals that integer settings accept: an optional sign, then decimal digits without a leading
zero (or zeros only), or a base mark `0x`, `0o`, `0b` of either case and digits of that base. Single
underscores may stand between digits and after the base mark, blanks around the whole. Digits of any
script count as their values; they stand in runs of ten, from zero to nine, so that a run is given
by its zero. A decimal numeral has at most `digitLimit` digits.
-/

set_option autoImplicit false

namespace CircuitAbi

namespace Text

/-- The zero of each script, in order. -/
def digitZeros : List CodePoint := [
  0x30, 0x660, 0x6F0, 0x7C0, 0x966, 0x9E6, 0xA66, 0xAE6, 0xB66, 0xBE6, 0xC66, 0xCE6, 0xD66,
  0xDE6, 0xE50, 0xED0, 0xF20, 0x1040, 0x1090, 0x17E0, 0x1810, 0x1946, 0x19D0, 0x1A80, 0x1A90,
  0x1B50, 0x1BB0, 0x1C40, 0x1C50, 0xA620, 0xA8D0, 0xA900, 0xA9D0, 0xA9F0, 0xAA50, 0xABF0, 0xFF10,
  0x104A0, 0x10D30, 0x11066, 0x110F0, 0x11136, 0x111D0, 0x112F0, 0x11450, 0x114D0, 0x11650,
  0x116C0, 0x11730, 0x118E0, 0x11950, 0x11C50, 0x11D50, 0x11DA0, 0x16A60, 0x16AC0, 0x16B50,
  0x1D7CE, 0x1D7D8, 0x1D7E2, 0x1D7EC, 0x1D7F6, 0x1E140, 0x1E2F0, 0x1E950, 0x1FBF0]

/-- The value of a decimal digit of any script. -/
def digitValue? (c : CodePoint) : Option Nat :=
  (digitZeros.find? fun z => z ≤ c && c < z + 10).map (c - ·)

end Text

namespace Literal

/-- A character as the grammar sees it: blanks beyond ASCII as spaces, digits as ASCII digits, and
nothing else beyond ASCII. -/
def plain (c : CodePoint) : CodePoint :=
  if c < 127 then c
  else if Text.isWideBlank c then 32
  else
    match Text.digitValue? c with
    | some d => 48 + d
    | none => 127

/-- The value of a digit in a base. -/
def digit? (base : Nat) (c : CodePoint) : Option Nat :=
  match Hexadecimal.digit? c with
  | some d => if d < base then some d else none
  | none => none

/-- Digits of a base, with single underscores (95) allowed between them; at least one. -/
def digits? (base : Nat) : Text → Option (List Nat)
  | [] => none
  | c :: rest =>
    match digit? base c with
    | none => none
    | some d =>
      match rest with
      | [] => some [d]
      | 95 :: rest => (digits? base rest).map (d :: ·)
      | rest => (digits? base rest).map (d :: ·)

/-- Digits after a base mark, where one underscore may come first. -/
def marked? (base : Nat) : Text → Option Nat
  | 95 :: rest => (digits? base rest).map (Decimal.value base)
  | rest => (digits? base rest).map (Decimal.value base)

/-- A decimal numeral: zeros only, or no leading zero. -/
def decimal? (t : Text) : Option Nat :=
  match digits? 10 t with
  | none => none
  | some ds =>
    if ds.length > digitLimit then none
    else if ds.head? = some 0 ∧ ds.any (· != 0) then none
    else some (Decimal.value 10 ds)

/-- The base that a letter marks after a zero: `x` (120) or `X`, `o` (111) or `O`, `b` (98) or
`B`. -/
def markedBase? (c : CodePoint) : Option Nat :=
  if c = 120 ∨ c = 88 then some 16
  else if c = 111 ∨ c = 79 then some 8
  else if c = 98 ∨ c = 66 then some 2
  else none

/-- A numeral without its sign: a zero (48) and a base mark in front of digits, or decimal
digits. -/
def magnitude? : Text → Option Nat
  | 48 :: c :: rest =>
    match markedBase? c with
    | some base => marked? base rest
    | none => decimal? (48 :: c :: rest)
  | t => decimal? t

/-- A numeral with its sign, if any: `+` (43) or `-` (45). -/
def signed? : Text → Option Int
  | 43 :: rest => (magnitude? rest).map Int.ofNat
  | 45 :: rest => (magnitude? rest).map fun n => -Int.ofNat n
  | t => (magnitude? t).map Int.ofNat

/-- The integer that a literal denotes. -/
def read? (t : Text) : Option Int := signed? (Text.trimBy Text.isLineBlank (t.map plain))

end Literal

end CircuitAbi

import CircuitAbi.Text.Basic

/-!
# Decimal and hexadecimal numerals

Numbers written in the shortest decimal form and digits read back as a number. Conversion between
numbers and decimal text stops at `digitLimit` digits, which bounds the work a hostile document can
ask for; hexadecimal has no such bound.
-/

set_option autoImplicit false

namespace CircuitAbi

/-- The most decimal digits that are converted to or from text. -/
def digitLimit : Nat := 4300

namespace Decimal

/-- A natural number in decimal. -/
def ofNat (n : Nat) : Text := (Nat.toDigits 10 n).map Char.toNat

/-- An integer in decimal, with a minus sign when negative. -/
def ofInt : Int → Text
  | .ofNat n => ofNat n
  | .negSucc n => "-" ++ ofNat (n + 1)

/-- At most `digitLimit` decimal digits. -/
def fits (n : Int) : Bool := n.natAbs < Nat.pow 10 digitLimit

/-- An ASCII decimal digit, `0` (48) to `9` (57). -/
def isDigit (c : CodePoint) : Bool := 48 ≤ c && c ≤ 57

/-- The number that digits denote in a base, the leading one first. -/
def value (base : Nat) (digits : List Nat) : Nat := digits.foldl (fun n d => base * n + d) 0

/-- The number that ASCII decimal digits denote. -/
def read (t : Text) : Nat := value 10 (t.map (· - 48))

end Decimal

namespace Hexadecimal

/-- The value of an ASCII hexadecimal digit: `0` (48) to `9`, `a` (97) to `f`, `A` (65) to `F`. -/
def digit? (c : CodePoint) : Option Nat :=
  if 48 ≤ c ∧ c ≤ 57 then some (c - 48)
  else if 97 ≤ c ∧ c ≤ 102 then some (c - 97 + 10)
  else if 65 ≤ c ∧ c ≤ 70 then some (c - 65 + 10)
  else none

end Hexadecimal

end CircuitAbi

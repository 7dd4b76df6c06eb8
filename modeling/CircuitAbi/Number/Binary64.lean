import CircuitAbi.Number.Decimal

/-!
# Real numbers in 64 bits

A finite number of the 64-bit binary format as sign, significand and power of two.

* `Binary64.ofDecimal?` — the nearest number to a decimal, ties to the even significand; nothing
  when the decimal is too large.
* `Binary64.shortest` — the fewest decimal digits that read back as the number, and among those the
  nearest to it.
* `Binary64.text` — those digits laid out: positionally from `0.0001` up to below `10^16`, otherwise
  with an exponent of at least two digits; a whole number keeps `.0`.
-/

set_option autoImplicit false

namespace CircuitAbi

/-- The number `± significand · 2 ^ exponent`. The significand has 53 bits, fewer only with the
least exponent. -/
structure Binary64 where
  negative : Bool
  significand : Nat
  exponent : Int
  deriving DecidableEq

namespace Binary64

/-- The least exponent of a significand. -/
def leastExponent : Int := -1074

/-- The greatest exponent of a significand. -/
def greatestExponent : Int := 971

/-- `num / den` divided by `2 ^ e`, as a fraction. -/
def scaled (num den : Nat) : Int → Nat × Nat
  | .ofNat e => (num, den * Nat.pow 2 e)
  | .negSucc e => (num * Nat.pow 2 (e + 1), den)

/-- The exponent that leaves a quotient of 53 bits, not below the least one. -/
def exponentFor (num den : Nat) : Int :=
  let guess : Int := (num.log2 : Int) - (den.log2 : Int) - 52
  let (n, d) := scaled num den guess
  max leastExponent (if n / d < Nat.pow 2 52 then guess - 1 else guess)

/-- The nearest whole number to a fraction, ties to even. -/
def roundHalfEven (num den : Nat) : Nat :=
  let q := num / den
  let r := num % den
  if 2 * r < den ∨ (2 * r = den ∧ q % 2 = 0) then q else q + 1

/-- The nearest number to a positive fraction, unless that is too large. -/
def ofFraction? (negative : Bool) (num den : Nat) : Option Binary64 :=
  let e := exponentFor num den
  let (n, d) := scaled num den e
  let m := roundHalfEven n d
  let (m, e) := if m = Nat.pow 2 53 then (Nat.pow 2 52, e + 1) else (m, e)
  if e > greatestExponent then none else some ⟨negative, m, e⟩

/-- Zero, with its sign. -/
def zero (negative : Bool) : Binary64 := ⟨negative, 0, leastExponent⟩

/-- The nearest number to `digits · 10 ^ scale`, unless that is too large. Decimals far beyond the
range are settled by their order of magnitude. -/
def ofDecimal? (negative : Bool) (digits : Nat) (scale : Int) : Option Binary64 :=
  if digits = 0 then some (zero negative)
  else
    let magnitude : Int := (Nat.toDigits 10 digits).length + scale
    if magnitude > 310 then none
    else if magnitude < -330 then some (zero negative)
    else
      match scale with
      | .ofNat s => ofFraction? negative (digits * Nat.pow 10 s) 1
      | .negSucc s => ofFraction? negative digits (Nat.pow 10 (s + 1))

/-- The nearest number to decimal digits times `10 ^ scale`, unless that is too large. No number
and no halfway point between two has more than `800` digits, so of later digits it only matters
whether one is not zero. -/
def ofDigits? (negative : Bool) (digits : List Nat) (scale : Int) : Option Binary64 :=
  let significant := digits.dropWhile (· == 0)
  let value := Decimal.value 10 (significant.take 800)
  match significant.drop 800 with
  | [] => ofDecimal? negative value scale
  | rest =>
    ofDecimal? negative (value * 10 + if rest.any (· != 0) then 1 else 0) (scale + rest.length - 1)

/-- The magnitude as a fraction. -/
def fraction (x : Binary64) : Nat × Nat :=
  match x.exponent with
  | .ofNat e => (x.significand * Nat.pow 2 e, 1)
  | .negSucc e => (x.significand, Nat.pow 2 (e + 1))

/-- The whole number that a number equals, if there is one. -/
def toInt? (x : Binary64) : Option Int :=
  let (n, d) := x.fraction
  if n % d = 0 then some (if x.negative then -((n / d : Nat) : Int) else (n / d : Nat)) else none

/-- Whether the decimal `digits · 10 ^ scale` reads back as the number: it lies between the
halfway points to the two neighbours, which count when the significand is even. -/
def readsBack (x : Binary64) (digits : Nat) (scale : Int) : Bool :=
  let (n, d) := x.fraction
  let (unit, unitDen) := ({ x with significand := 1 } : Binary64).fraction
  let below := if x.significand = Nat.pow 2 52 ∧ x.exponent ≠ leastExponent then 4 else 2
  let (a, b) : Nat × Nat :=
    match scale with
    | .ofNat s => (digits * Nat.pow 10 s, 1)
    | .negSucc s => (digits, Nat.pow 10 (s + 1))
  -- `a / b` against `n / d - unit / (below · unitDen)` and `n / d + unit / (2 · unitDen)`
  let even := x.significand % 2 = 0
  let lowerLeft := (n * unitDen * below) * b
  let lowerRight := a * (d * unitDen * below) + unit * d * b
  let upperLeft := a * (d * unitDen * 2)
  let upperRight := (n * unitDen * 2) * b + unit * d * b
  (lowerLeft < lowerRight || (even && lowerLeft == lowerRight)) &&
    (upperLeft < upperRight || (even && upperLeft == upperRight))

/-- The decimal exponent `k` with `10 ^ (k - 1) ≤ x < 10 ^ k`, for a positive fraction. -/
def decimalPoint (num den : Nat) : Int :=
  if den ≤ num then (Nat.toDigits 10 (num / den)).length
  else
    -- the first power of ten that lifts the fraction to one or more
    let q := (Nat.toDigits 10 (den / num)).length
    let lift := if num * Nat.pow 10 (q - 1) < den then q else q - 1
    1 - (lift : Int)

/-- The nearer of the two neighbours of a number on the grid of multiples of `10 ^ scale` that
reads back, if one does; a tie goes to the even neighbour. -/
def nearestOnGrid? (x : Binary64) (scale : Int) : Option Nat :=
  let (n, d) := x.fraction
  let (n, d) : Nat × Nat :=
    match scale with
    | .ofNat s => (n, d * Nat.pow 10 s)
    | .negSucc s => (n * Nat.pow 10 (s + 1), d)
  let nearest := roundHalfEven n d
  let other := if nearest = n / d then n / d + 1 else n / d
  if x.readsBack nearest scale then some nearest
  else if x.readsBack other scale then some other
  else none

/-- The shortest digits on the grids of `count`, `count + 1`, … digits, `fuel` of them. -/
def shortestFrom (x : Binary64) (point : Int) : Nat → Nat → Nat × Int
  | 0, count => (0, point - count)
  | fuel + 1, count =>
    match x.nearestOnGrid? (point - count) with
    | some digits => (digits, point - count)
    | none => shortestFrom x point fuel (count + 1)

/-- The fewest decimal digits that read back, with their scale. Seventeen always suffice. -/
def shortest (x : Binary64) : Nat × Int :=
  let (n, d) := x.fraction
  shortestFrom x (decimalPoint n d) 17 1

/-- Digits without trailing zeros. -/
def stripZeros (t : Text) : Text := Text.dropEnding (· == 48) t

/-- Digits `0.digits · 10 ^ point` in positional notation. -/
def positional (digits : Text) (point : Int) : Text :=
  match point with
  | .ofNat p =>
    if digits.length ≤ p then digits ++ (List.replicate (p - digits.length) 48 : Text) ++ ".0"
    else if p = 0 then "0." ++ digits
    else digits.take p ++ "." ++ digits.drop p
  | .negSucc p => "0." ++ (List.replicate (p + 1) 48 : Text) ++ digits

/-- Digits `0.digits · 10 ^ point` with an exponent of at least two digits. -/
def exponential (digits : Text) (point : Int) : Text :=
  let head := digits.take 1
  let tail := digits.drop 1
  let e := point - 1
  let width : Text := Decimal.ofNat e.natAbs
  let point : Text := if tail.isEmpty then [] else "."
  let mark : Text := if e < 0 then "e-" else "e+"
  let zero : Text := if width.length < 2 then "0" else []
  head ++ point ++ tail ++ mark ++ zero ++ width

/-- The number in its shortest decimal form. -/
def text (x : Binary64) : Text :=
  let sign : Text := if x.negative then "-" else []
  if x.significand = 0 then sign ++ "0.0"
  else
    let (value, scale) := x.shortest
    let all := Decimal.ofNat value
    let point := scale + all.length
    let digits := stripZeros all
    sign ++ (if -4 < point ∧ point ≤ 16 then positional digits point else exponential digits point)

end Binary64

end CircuitAbi

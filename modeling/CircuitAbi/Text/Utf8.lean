import CircuitAbi.Text.Basic

/-!
# UTF-8

* `Utf8.encode` — the octets of text, character by character.
* `Utf8.surrogateRun?` — why text has no UTF-8 form: its first run of surrogates.
* `Utf8.decode` — the text of octets, or the first sequence that is none, with the reason.

The decoder narrows the second octet after `E0`, `ED`, `F0` and `F4`, so overlong forms, surrogates
and code points beyond the last plane are refused at the octet that rules them out.
-/

set_option autoImplicit false

namespace CircuitAbi

/-- A sequence of octets. -/
abbrev Bytes := List UInt8

namespace Utf8

/-- The octets of one character. -/
def encodeScalar (c : CodePoint) : Bytes :=
  if c < 0x80 then [UInt8.ofNat c]
  else if c < 0x800 then [UInt8.ofNat (0xC0 + c / 64), UInt8.ofNat (0x80 + c % 64)]
  else if c < 0x10000 then
    [UInt8.ofNat (0xE0 + c / 4096), UInt8.ofNat (0x80 + c / 64 % 64), UInt8.ofNat (0x80 + c % 64)]
  else
    [UInt8.ofNat (0xF0 + c / 262144), UInt8.ofNat (0x80 + c / 4096 % 64),
      UInt8.ofNat (0x80 + c / 64 % 64), UInt8.ofNat (0x80 + c % 64)]

/-- The octets of text, character by character. -/
def encode (t : Text) : Bytes := t.flatMap encodeScalar

/-- A run of surrogates: where it starts, counted in code points, and its code points. -/
structure SurrogateRun where
  start : Nat
  first : CodePoint
  length : Nat

/-- The first run of surrogates in a text. -/
def surrogateRun? (t : Text) : Option SurrogateRun :=
  match t.dropWhile (!Text.isSurrogate ·) with
  | [] => none
  | c :: rest =>
    some ⟨(t.takeWhile (!Text.isSurrogate ·)).length, c,
      1 + (rest.takeWhile Text.isSurrogate).length⟩

/-- Why octets are not UTF-8. -/
inductive Reason
  | start
  | continuation
  | truncated
  deriving DecidableEq

/-- The first sequence that is not UTF-8: its position, how many of its octets were still possible
(one, if the first already was not), its first octet, and the reason. -/
structure Fault where
  position : Nat
  length : Nat
  first : UInt8
  reason : Reason
  deriving DecidableEq

/-- A character whose octets are still coming: how many, the bounds on the next one, the bits so
far, the octets so far and the first of them. -/
structure Pending where
  missing : Nat
  low : Nat
  high : Nat
  bits : Nat
  taken : Nat
  first : UInt8

/-- What the first octet of a character beyond ASCII announces. -/
def lead? (b : UInt8) : Option Pending :=
  let n := b.toNat
  if n < 0xC2 then none
  else if n < 0xE0 then some ⟨1, 0x80, 0xBF, n - 0xC0, 1, b⟩
  else if n < 0xF0 then
    some ⟨2, if n = 0xE0 then 0xA0 else 0x80, if n = 0xED then 0x9F else 0xBF, n - 0xE0, 1, b⟩
  else if n < 0xF5 then
    some ⟨3, if n = 0xF0 then 0x90 else 0x80, if n = 0xF4 then 0x8F else 0xBF, n - 0xF0, 1, b⟩
  else none

/-- Decoding from an octet position on, after the characters `done` (latest first). -/
def decodeFrom (position : Nat) (done : Text) : Option Pending → Bytes → Except Fault Text
  | none, [] => .ok done.reverse
  | some p, [] => .error ⟨position - p.taken, p.taken, p.first, .truncated⟩
  | none, b :: rest =>
    if b.toNat < 0x80 then decodeFrom (position + 1) (b.toNat :: done) none rest
    else
      match lead? b with
      | none => .error ⟨position, 1, b, .start⟩
      | some p => decodeFrom (position + 1) done (some p) rest
  | some p, b :: rest =>
    if p.low ≤ b.toNat ∧ b.toNat ≤ p.high then
      let bits := p.bits * 64 + (b.toNat - 0x80)
      if p.missing = 1 then decodeFrom (position + 1) (bits :: done) none rest
      else
        decodeFrom (position + 1) done
          (some ⟨p.missing - 1, 0x80, 0xBF, bits, p.taken + 1, p.first⟩) rest
    else .error ⟨position - p.taken, p.taken, p.first, .continuation⟩

/-- The text of octets, or the first sequence that is not UTF-8. -/
def decode (bytes : Bytes) : Except Fault Text := decodeFrom 0 [] none bytes

/-- The wording of a reason. -/
def Reason.text : Reason → Text
  | .start => "invalid start byte"
  | .continuation => "invalid continuation byte"
  | .truncated => "unexpected end of data"

end Utf8

end CircuitAbi

import CircuitAbi.Number.Binary64
import CircuitAbi.Text.Utf8

/-!
# From octets to tokens

A machine that takes one octet at a time. Its state is what the octets since the last token began,
and `lex` is the fold of its step over the text.

* Numbers follow the grammar of JSON: no leading zero, digits around a point, an optional
  exponent. A number without point and exponent is whole, of at most `digitLimit` digits; another
  is real, and refused when too large.
* Strings hold no raw control characters. An escaped surrogate has to be a high one followed by an
  escaped low one. Escapes become the UTF-8 of what they stand for, and the content is decoded at
  the closing quote. A string whose octets are no UTF-8 is still a token: it is refused only where a
  string may stand.
* What begins no token at all is the token `bad`, after which nothing is read.
-/

set_option autoImplicit false

namespace CircuitAbi.Json

/-- A word of JSON text. -/
inductive Token
  | openObject
  | closeObject
  | openArray
  | closeArray
  | colon
  | comma
  | null
  | bool (b : Bool)
  | int (n : Int)
  | real (x : Binary64)
  | text (t : Except Utf8.Fault Text)
  | bad

/-- What a number has come to. -/
inductive NumberPhase
  | minus
  | zero
  | whole
  | point
  | fraction
  | exponent
  | exponentSign
  | exponentDigits
  deriving DecidableEq

/-- A number being read; its digits stand latest first. -/
structure NumberScan where
  phase : NumberPhase
  negative : Bool
  whole : List Nat
  fraction : List Nat
  exponentNegative : Bool
  exponent : List Nat

/-- The value of an octet that is a decimal digit. -/
def digit? (b : UInt8) : Option Nat :=
  if 48 ≤ b.toNat ∧ b.toNat ≤ 57 then some (b.toNat - 48) else none

/-- An `e` of either case. -/
def isExponentMark (b : UInt8) : Bool := b == 101 || b == 69

namespace NumberScan

/-- A number that begins with a digit. -/
def ofDigit (negative : Bool) (d : Nat) : NumberScan :=
  ⟨if d = 0 then .zero else .whole, negative, [d], [], false, []⟩

/-- The number with one more octet, if it goes on so. -/
def next? (n : NumberScan) (b : UInt8) : Option NumberScan :=
  match n.phase, digit? b with
  | .minus, some d => some (ofDigit true d)
  | .whole, some d => some { n with whole := d :: n.whole }
  | .point, some d => some { n with phase := .fraction, fraction := d :: n.fraction }
  | .fraction, some d => some { n with fraction := d :: n.fraction }
  | .exponent, some d => some { n with phase := .exponentDigits, exponent := [d] }
  | .exponentSign, some d => some { n with phase := .exponentDigits, exponent := [d] }
  | .exponentDigits, some d => some { n with exponent := d :: n.exponent }
  | .zero, none | .whole, none =>
    -- a point, or an exponent
    if b == 46 then some { n with phase := .point }
    else if isExponentMark b then some { n with phase := .exponent }
    else none
  | .fraction, none => if isExponentMark b then some { n with phase := .exponent } else none
  | .exponent, none =>
    -- the sign of an exponent
    if b == 43 then some { n with phase := .exponentSign }
    else if b == 45 then some { n with phase := .exponentSign, exponentNegative := true }
    else none
  | _, _ => none

/-- The exponent. One of more than twenty digits is beyond any number, whatever its digits. -/
def power (n : NumberScan) : Int :=
  let digits := n.exponent.reverse.dropWhile (· == 0)
  let magnitude : Int := if digits.length > 20 then Nat.pow 10 20 else Decimal.value 10 digits
  if n.exponentNegative then -magnitude else magnitude

/-- The token of a number that ends here. -/
def token (n : NumberScan) : Token :=
  match n.phase with
  | .zero | .whole =>
    if n.whole.length > digitLimit then .bad
    else
      let value : Int := Decimal.value 10 n.whole.reverse
      .int (if n.negative then -value else value)
  | .fraction | .exponentDigits =>
    let scale := n.power - n.fraction.length
    match Binary64.ofDigits? n.negative (n.fraction ++ n.whole).reverse scale with
    | some x => .real x
    | none => .bad
  | _ => .bad

end NumberScan

/-- What the octets since the last token began. The content of a string stands latest first. -/
inductive Scan
  | between
  | word (expected : Bytes) (token : Token)
  | number (n : NumberScan)
  | text (content : Bytes)
  | escape (content : Bytes)
  | hex (content : Bytes) (high : Option Nat) (missing value : Nat)
  | lowBackslash (content : Bytes) (high : Nat)
  | lowLetter (content : Bytes) (high : Nat)
  | stopped

/-- The state of reading: the tokens so far, latest first, and what began after them. -/
structure Lexer where
  scan : Scan
  tokens : List Token

namespace Lexer

/-- No token begins so; the rest is not read. -/
def stop (tokens : List Token) : Lexer := ⟨.stopped, .bad :: tokens⟩

/-- A blank between tokens: space, tab, newline or return. -/
def isGap (b : UInt8) : Bool := b == 32 || b == 9 || b == 10 || b == 13

/-- The token that is a single mark: comma, colon, bracket or brace. -/
def mark? (b : UInt8) : Option Token :=
  if b == 44 then some .comma
  else if b == 58 then some .colon
  else if b == 91 then some .openArray
  else if b == 93 then some .closeArray
  else if b == 123 then some .openObject
  else if b == 125 then some .closeObject
  else none

/-- The octet with which a token begins, or a blank before it. -/
def begin (tokens : List Token) (b : UInt8) : Lexer :=
  if isGap b then ⟨.between, tokens⟩
  else
    match mark? b with
    | some token => ⟨.between, token :: tokens⟩
    | none =>
      match digit? b with
      | some d => ⟨.number (.ofDigit false d), tokens⟩
      | none =>
        -- a quote, a minus sign, or the first letter of `true`, `false` or `null`
        if b == 34 then ⟨.text [], tokens⟩
        else if b == 45 then ⟨.number ⟨.minus, true, [], [], false, []⟩, tokens⟩
        else if b == 116 then ⟨.word [114, 117, 101] (.bool true), tokens⟩
        else if b == 102 then ⟨.word [97, 108, 115, 101] (.bool false), tokens⟩
        else if b == 110 then ⟨.word [117, 108, 108] .null, tokens⟩
        else stop tokens

/-- What stands after a backslash: a quote, a backslash or a slash for itself, and the letters `b`,
`f`, `n`, `r`, `t` for control characters. -/
def escaped? (b : UInt8) : Option UInt8 :=
  if b == 34 || b == 92 || b == 47 then some b
  else if b == 98 then some 8
  else if b == 102 then some 12
  else if b == 110 then some 10
  else if b == 114 then some 13
  else if b == 116 then some 9
  else none

/-- The state after the last hexadecimal digit of an escape. -/
def endEscape (tokens : List Token) (content : Bytes) (high : Option Nat) (value : Nat) : Lexer :=
  match high with
  | some h =>
    if 0xDC00 ≤ value ∧ value < 0xE000 then
      let c := 0x10000 + (h - 0xD800) * 0x400 + (value - 0xDC00)
      ⟨.text ((Utf8.encodeScalar c).reverse ++ content), tokens⟩
    else stop tokens
  | none =>
    if 0xD800 ≤ value ∧ value < 0xDC00 then ⟨.lowBackslash content value, tokens⟩
    else if 0xDC00 ≤ value ∧ value < 0xE000 then stop tokens
    else ⟨.text ((Utf8.encodeScalar value).reverse ++ content), tokens⟩

/-- The state after one more octet. In a string, a quote (34) ends it and a backslash (92) begins an
escape, which a `u` (117) makes one by number. -/
def step (lexer : Lexer) (b : UInt8) : Lexer :=
  let tokens := lexer.tokens
  match lexer.scan with
  | .between => begin tokens b
  | .word [] token => begin (token :: tokens) b
  | .word [last] token => if b == last then ⟨.between, token :: tokens⟩ else stop tokens
  | .word (e :: expected) token =>
    if b == e then ⟨.word expected token, tokens⟩ else stop tokens
  | .number n =>
    match n.next? b with
    | some n => ⟨.number n, tokens⟩
    | none =>
      match n.token with
      | .bad => stop tokens
      | token => begin (token :: tokens) b
  | .text content =>
    if b == 34 then ⟨.between, .text (Utf8.decode content.reverse) :: tokens⟩
    else if b == 92 then ⟨.escape content, tokens⟩
    else if b.toNat < 32 then stop tokens
    else ⟨.text (b :: content), tokens⟩
  | .escape content =>
    if b == 117 then ⟨.hex content none 4 0, tokens⟩
    else
      match escaped? b with
      | some c => ⟨.text (c :: content), tokens⟩
      | none => stop tokens
  | .hex content high missing value =>
    match Hexadecimal.digit? b.toNat with
    | none => stop tokens
    | some d =>
      let value := value * 16 + d
      if missing ≤ 1 then endEscape tokens content high value
      else ⟨.hex content high (missing - 1) value, tokens⟩
  | .lowBackslash content high =>
    if b == 92 then ⟨.lowLetter content high, tokens⟩ else stop tokens
  | .lowLetter content high =>
    if b == 117 then ⟨.hex content (some high) 4 0, tokens⟩ else stop tokens
  | .stopped => lexer

/-- The tokens when the text ends here. -/
def finish (lexer : Lexer) : List Token :=
  match lexer.scan with
  | .between | .stopped => lexer.tokens.reverse
  | .number n => (n.token :: lexer.tokens).reverse
  | _ => (.bad :: lexer.tokens).reverse

end Lexer

/-- The tokens of a text. -/
def lex (bytes : Bytes) : List Token := (bytes.foldl Lexer.step ⟨.between, []⟩).finish

end CircuitAbi.Json

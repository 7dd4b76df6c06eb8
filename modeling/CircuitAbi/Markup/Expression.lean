import CircuitAbi.Limit
import CircuitAbi.Number.Decimal
import CircuitAbi.Text.Basic

/-!
# Literal expressions

What the parameters of an action may hold: numbers, quoted texts, a few words, and tuples, sets and
mappings of them. A number may have a sign, and an imaginary one may be added to a real one.
Brackets are round or curly; a tag holds no others.

* `tokens` — an expression as numbers, texts, words and marks.
* `isLiteral` — whether an expression is a literal.
-/

set_option autoImplicit false

namespace CircuitAbi.Markup.Expression

/-- A character of a word: an ASCII letter or digit, an underscore (95), a point (46), or anything
beyond ASCII. -/
def isWord (c : CodePoint) : Bool :=
  (48 ≤ c && c ≤ 57) || (65 ≤ c && c ≤ 90) || (97 ≤ c && c ≤ 122) || c == 95 || c == 46 || 128 ≤ c

/-- A quote, single (39) or double (34). -/
def isQuote (c : CodePoint) : Bool := c == 39 || c == 34

/-- A sign, plus (43) or minus (45). -/
def isSign (c : CodePoint) : Bool := c == 43 || c == 45

/-! ## Numbers -/

/-- The text after more digits, which single underscores (95) may stand between; nothing when an
underscore has no digit after it. -/
def afterMore (isDigit : CodePoint → Bool) : Text → Option Text
  | [] => some []
  | 95 :: c :: rest => if isDigit c then afterMore isDigit rest else none
  | c :: rest =>
    if isDigit c then afterMore isDigit rest else if c = 95 then none else some (c :: rest)

/-- The text after digits, of which there is at least one. -/
def afterDigits (isDigit : CodePoint → Bool) : Text → Option Text
  | [] => none
  | c :: rest => if isDigit c then afterMore isDigit rest else none

/-- The digits after `0` and a letter that marks the base: `x` (120), `o` (111) or `b` (98), small
or capital. -/
def markedDigit? (letter : CodePoint) : Option (CodePoint → Bool) :=
  let letter := Text.asciiLower letter
  if letter = 120 then some fun c => (Hexadecimal.digit? c).isSome
  else if letter = 111 then some fun c => 48 ≤ c && c ≤ 55
  else if letter = 98 then some fun c => c == 48 || c == 49
  else none

/-- Digits of a whole number: no zero before another digit, and not too many. -/
def isWhole (digits : Text) : Bool :=
  (digits.head? != some 48 || digits.all (· == 48)) && digits.length ≤ digitLimit

/-- A fraction after whole digits, if there are any: a point (46) and digits, which may be missing
when there were whole ones. Whether it is there, and the text after it. -/
def fraction? (whole : Bool) (t : Text) : Option (Bool × Text) :=
  match t with
  | 46 :: rest =>
    match afterDigits Decimal.isDigit rest with
    | some rest => some (true, rest)
    | none => if whole && !rest.head?.any (Decimal.isDigit ·) then some (true, rest) else none
  | _ => if whole then some (false, t) else none

/-- An exponent: the letter `e` (101), small or capital, perhaps a sign, and digits. Whether it is
there, and the text after it. -/
def exponent? (t : Text) : Option (Bool × Text) :=
  match t with
  | c :: rest =>
    if Text.asciiLower c = 101 then
      let rest := if rest.head?.any isSign then rest.drop 1 else rest
      (afterDigits Decimal.isDigit rest).map (true, ·)
    else some (false, t)
  | [] => some (false, [])

/-- A decimal number, which the letter `j` (106), small or capital, makes imaginary: whether it is,
and the text after it. -/
def decimal? (t : Text) : Option (Bool × Text) := do
  let whole := afterDigits Decimal.isDigit t
  let (point, rest) ← fraction? whole.isSome (whole.getD t)
  let (exponent, rest) ← exponent? rest
  if rest.head?.any (Text.asciiLower · = 106) then return (true, rest.drop 1)
  let digits := (t.take (t.length - rest.length)).filter Decimal.isDigit
  if point || exponent || isWhole digits then return (false, rest) else none

/-- A number: whether it is imaginary, and the text after it. No word may follow at once. -/
def number? (t : Text) : Option (Bool × Text) := do
  let (imaginary, rest) ←
    match t with
    | 48 :: letter :: digits =>
      match markedDigit? letter with
      | some isDigit =>
        match afterMore isDigit digits with
        | some rest => if rest.length < digits.length then some (false, rest) else none
        | none => none
      | none => decimal? t
    | _ => decimal? t
  if rest.head?.any isWord then none else return (imaginary, rest)

/-! ## Quoted texts -/

/-- What the letters before a quote say: whether escapes are left alone, and whether it holds
octets. -/
structure QuoteStyle where
  raw : Bool
  octets : Bool

/-- The letters that may stand before a quote, in either case. -/
def quoteStyle? (letters : Text) : Option QuoteStyle :=
  let styles : List (Text × QuoteStyle) :=
    [("r", ⟨true, false⟩), ("u", ⟨false, false⟩), ("b", ⟨false, true⟩), ("br", ⟨true, true⟩),
      ("rb", ⟨true, true⟩)]
  styles.lookup (letters.map Text.asciiLower)

/-- Whether a text starts with a number of hexadecimal digits that denote at most a limit. -/
def startsHexadecimal (count limit : Nat) (t : Text) : Bool :=
  match (t.take count).mapM Hexadecimal.digit? with
  | some digits => digits.length = count && Decimal.value 16 digits ≤ limit
  | none => false

/-- Whether a backslash may stand before a text: the letters `x` (120), and in text `u` (117) and
`U` (85), need the hexadecimal digits of a character; one that is named, after `N` (78), is not
known. -/
def QuoteStyle.escapes (style : QuoteStyle) (t : Text) : Bool :=
  style.raw || match t with
    | 120 :: rest => startsHexadecimal 2 0xFF rest
    | 117 :: rest => style.octets || startsHexadecimal 4 0xFFFF rest
    | 85 :: rest => style.octets || startsHexadecimal 8 0x10FFFF rest
    | 78 :: _ => style.octets
    | _ => true

/-- The text after a quoted one, which ends at its mark, or at three of them when it started so. A
backslash (92) takes the next character with it. -/
def QuoteStyle.after (style : QuoteStyle) (mark : CodePoint) (three : Bool) : Text → Option Text
  | [] => none
  | 92 :: c :: rest =>
    if style.escapes (c :: rest) && !(style.octets && 128 ≤ c) then after style mark three rest
    else none
  | c :: rest =>
    if c = mark && (!three || rest.take 2 == [mark, mark]) then
      some (if three then rest.drop 2 else rest)
    else if (c = 10 && !three) || (style.octets && 128 ≤ c) then none
    else after style mark three rest

/-- The text after a quoted one that starts with a mark. -/
def QuoteStyle.skip (style : QuoteStyle) (mark : CodePoint) (t : Text) : Option Text :=
  if t.take 2 == [mark, mark] then style.after mark true (t.drop 2) else style.after mark false t

/-! ## Tokens -/

/-- The pieces of an expression. -/
inductive Token
  | number (imaginary : Bool)
  | quoted (octets : Bool)
  | word (t : Text)
  | mark (c : CodePoint)

/-- How far brackets may nest. -/
def bracketLimit : Nat := 200

/-- The pieces of an expression inside of a number of brackets, with fuel for as many characters;
nothing where there is something else. Blanks are dropped, inside brackets newlines (10, 13) too,
and what follows a number sign (35) on its line. -/
def tokensWithin : Nat → Nat → Text → Option (List Token)
  | _, _, [] => some []
  | 0, _, _ :: _ => none
  | fuel + 1, depth, c :: rest =>
    let quoted (style : QuoteStyle) (mark : CodePoint) (t : Text) : Option (List Token) := do
      return .quoted style.octets :: (← tokensWithin fuel depth (← style.skip mark t))
    if c = 32 || c = 9 || c = 12 then tokensWithin fuel depth rest
    else if c = 10 || c = 13 then if depth = 0 then none else tokensWithin fuel depth rest
    else if c = 35 then tokensWithin fuel depth (rest.dropWhile (· != 10))
    else if isQuote c then quoted ⟨false, false⟩ c rest
    else if Decimal.isDigit c || (c = 46 && rest.head?.any (Decimal.isDigit ·)) then do
      let (imaginary, rest) ← number? (c :: rest)
      return .number imaginary :: (← tokensWithin fuel depth rest)
    else if isWord c then
      let letters := c :: rest.takeWhile isWord
      match quoteStyle? letters, rest.dropWhile isWord with
      | some style, mark :: rest =>
        if isQuote mark then quoted style mark rest
        else (tokensWithin fuel depth (mark :: rest)).map (.word letters :: ·)
      | _, rest => (tokensWithin fuel depth rest).map (.word letters :: ·)
    else if c = 40 || c = 123 then
      if depth < bracketLimit then (tokensWithin fuel (depth + 1) rest).map (.mark c :: ·) else none
    else if c = 41 || c = 125 then (tokensWithin fuel (depth - 1) rest).map (.mark c :: ·)
    else if c = 44 || c = 58 || isSign c then (tokensWithin fuel depth rest).map (.mark c :: ·)
    else none

/-- The pieces of an expression. -/
def tokens (t : Text) : Option (List Token) := tokensWithin t.length 0 t

/-! ## Values -/

/-- What a value is to what stands around it: a number, one with a sign, or something else, which
may be in a set or not. -/
inductive Kind
  | number (imaginary : Bool)
  | signed (imaginary : Bool)
  | other (hashable : Bool)

/-- Whether a value may be in a set. -/
def Kind.hashable : Kind → Bool
  | other h => h
  | _ => true

/-- The words that are values; the last is three points. -/
def valueWords : List Text := ["True", "False", "None", "..."]

mutual

/-- A value at the start of the pieces, or a real number and an imaginary one: what it is, and the
pieces after it. -/
def sum? : Nat → List Token → Option (Kind × List Token)
  | 0, _ => none
  | fuel + 1, ts => do
    let (left, rest) ← signed? fuel ts
    match rest with
    | .mark c :: after =>
      if isSign c then
        match left, ← signed? fuel after with
        | .number false, (.number true, rest) => some (.other true, rest)
        | .signed false, (.number true, rest) => some (.other true, rest)
        | _, _ => none
      else some (left, rest)
    | _ => some (left, rest)
termination_by structural fuel => fuel

/-- A value, or a number with one sign before it. -/
def signed? : Nat → List Token → Option (Kind × List Token)
  | 0, _ => none
  | fuel + 1, .mark c :: rest =>
    if isSign c then do
      match ← plain? fuel rest with
      | (.number imaginary, rest) => some (.signed imaginary, rest)
      | _ => none
    else plain? fuel (.mark c :: rest)
  | fuel + 1, ts => plain? fuel ts
termination_by structural fuel => fuel

/-- A value without a sign. One value in round brackets (40 and 41) is what it is without them. -/
def plain? : Nat → List Token → Option (Kind × List Token)
  | 0, _ => none
  | _ + 1, .number imaginary :: rest => some (.number imaginary, rest)
  | _ + 1, .quoted octets :: rest =>
    some (.other true, rest.dropWhile fun
      | .quoted more => octets == more
      | _ => false)
  | _ + 1, .word t :: rest =>
    if valueWords.contains t then some (.other true, rest)
    else
      match rest with
      | .mark 40 :: .mark 41 :: rest => if t = "set" then some (.other false, rest) else none
      | _ => none
  | _ + 1, .mark 40 :: .mark 41 :: rest => some (.other true, rest)
  | fuel + 1, .mark 40 :: rest => do
    match ← sum? fuel rest with
    | (kind, .mark 41 :: rest) => some (kind, rest)
    | (kind, .mark 44 :: rest) => do
      let (all, rest) ← items? fuel 41 rest
      return (.other (kind.hashable && all), rest)
    | _ => none
  | _ + 1, .mark 123 :: .mark 125 :: rest => some (.other false, rest)
  | fuel + 1, .mark 123 :: rest => do
    match ← sum? fuel rest with
    | (kind, .mark 58 :: rest) => if kind.hashable then entry? fuel rest else none
    | (kind, .mark 125 :: rest) => if kind.hashable then some (.other false, rest) else none
    | (kind, .mark 44 :: rest) => do
      let (all, rest) ← items? fuel 125 rest
      if kind.hashable && all then some (.other false, rest) else none
    | _ => none
  | _, _ => none
termination_by structural fuel => fuel

/-- Values with commas (44) between them up to a closing bracket: whether all may be in a set, and
the pieces after it. -/
def items? : Nat → CodePoint → List Token → Option (Bool × List Token)
  | 0, _, _ => none
  | fuel + 1, close, ts =>
    match ts with
    | .mark c :: rest =>
      if c = close then some (true, rest) else item? fuel close ts
    | _ => item? fuel close ts
termination_by structural fuel => fuel

/-- One of these values, and those after it. -/
def item? : Nat → CodePoint → List Token → Option (Bool × List Token)
  | 0, _, _ => none
  | fuel + 1, close, ts => do
    match ← sum? fuel ts with
    | (kind, .mark c :: rest) =>
      if c = close then some (kind.hashable, rest)
      else if c = 44 then do
        let (all, rest) ← items? fuel close rest
        return (kind.hashable && all, rest)
      else none
    | _ => none
termination_by structural fuel => fuel

/-- The value of a key in a mapping, and the keys with values after it; a colon is 58. -/
def entry? : Nat → List Token → Option (Kind × List Token)
  | 0, _ => none
  | fuel + 1, ts => do
    match ← sum? fuel ts with
    | (_, .mark 125 :: rest) => some (.other false, rest)
    | (_, .mark 44 :: .mark 125 :: rest) => some (.other false, rest)
    | (_, .mark 44 :: rest) => do
      match ← sum? fuel rest with
      | (kind, .mark 58 :: rest) => if kind.hashable then entry? fuel rest else none
      | _ => none
    | _ => none
termination_by structural fuel => fuel

end

/-- Whether an expression is a literal: one value, or several with commas between them, as in round
brackets. -/
def isLiteral (t : Text) : Bool :=
  match tokens t with
  | none => false
  | some [] => false
  | some ts =>
    match plain? (5 * (ts.length + 2)) (.mark 40 :: ts ++ [.mark 41]) with
    | some (_, []) => true
    | _ => false

end CircuitAbi.Markup.Expression

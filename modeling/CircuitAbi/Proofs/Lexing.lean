import CircuitAbi.Json.Lexer
import CircuitAbi.Json.Printer
import CircuitAbi.Proofs.Document
import CircuitAbi.Proofs.Numeral
import CircuitAbi.Proofs.Utf8

/-!
# The tokens of printed text

* `Json.valueTokens` — the tokens of a value, without regard to layout.
* `Json.lex_print` — the octets of a plain value, printed in any style, have these tokens.

The statements are in prefix form: the machine reads what was printed and goes on with the rest.
After a number the rest must not begin with an octet that would continue it (`Delimited`).
-/

set_option autoImplicit false

namespace CircuitAbi.Json

/-! ## Running the lexer -/

/-- The tokens of octets, read from a state on. -/
def lexFrom (l : Lexer) (bytes : Bytes) : List Token := (bytes.foldl Lexer.step l).finish

@[simp] theorem lexFrom_cons (l : Lexer) (b : UInt8) (bytes : Bytes) :
    lexFrom l (b :: bytes) = lexFrom (l.step b) bytes := rfl

/-- What may follow a number: nothing, or an octet that does not continue it. -/
def Delimited (rest : Bytes) : Prop :=
  ∀ b tail, rest = b :: tail → digit? b = none ∧ b ≠ 46 ∧ isExponentMark b = false

theorem delimited_nil : Delimited [] := fun _ _ h => nomatch h

theorem delimited_cons {b : UInt8} {tail : Bytes}
    (h : digit? b = none ∧ b ≠ 46 ∧ isExponentMark b = false) : Delimited (b :: tail) := by
  intro b' tail' heq
  cases heq
  exact h

/-! ## Strings -/

/-- An octet that stands for itself in a string. -/
def IsRaw (b : UInt8) : Prop := b ≠ 34 ∧ b ≠ 92 ∧ 32 ≤ b.toNat

theorem lexFrom_raw {bytes : Bytes} (h : ∀ b ∈ bytes, IsRaw b) (content : Bytes)
    (tokens : List Token) (rest : Bytes) :
    lexFrom ⟨.text content, tokens⟩ (bytes ++ rest) =
      lexFrom ⟨.text (bytes.reverse ++ content), tokens⟩ rest := by
  induction bytes generalizing content with
  | nil => rfl
  | cons b bytes ih =>
    obtain ⟨hquote, hbackslash, hlow⟩ := h b List.mem_cons_self
    have hstep : Lexer.step ⟨.text content, tokens⟩ b = ⟨.text (b :: content), tokens⟩ := by
      simp only [Lexer.step, beq_iff_eq, if_neg hquote, if_neg hbackslash]
      rw [if_neg (by omega)]
    rw [List.cons_append, lexFrom_cons, hstep, ih fun x hx => h x (List.mem_cons_of_mem _ hx)]
    simp

/-- The octets of a character that is neither a quote, a backslash nor a control character stand for
themselves. -/
theorem isRaw_encodeScalar {c : Nat} (hc : Text.isScalar c = true) (hlow : 32 ≤ c)
    (hquote : c ≠ 34) (hbackslash : c ≠ 92) : ∀ b ∈ Utf8.encodeScalar c, IsRaw b := by
  have hwide : ∀ n, 0x80 ≤ n → n < 256 → IsRaw (UInt8.ofNat n) := by
    intro n hn hn'
    have hoctet := Utf8.toNat_octet hn'
    refine ⟨?_, ?_, by omega⟩
    · intro h
      rw [h] at hoctet
      simp at hoctet
      omega
    · intro h
      rw [h] at hoctet
      simp at hoctet
      omega
  rw [Utf8.isScalar_iff] at hc
  by_cases h1 : c < 0x80
  · have hoctet := Utf8.toNat_octet (n := c) (by omega)
    rw [Utf8.encodeScalar_one h1]
    intro b hb
    rw [List.mem_singleton.1 hb]
    refine ⟨?_, ?_, by omega⟩
    · intro h
      rw [h] at hoctet
      exact hquote hoctet.symm
    · intro h
      rw [h] at hoctet
      exact hbackslash hoctet.symm
  by_cases h2 : c < 0x800
  · rw [Utf8.encodeScalar_two (by omega) h2]
    simp only [List.forall_mem_cons, List.not_mem_nil, false_implies, implies_true, and_true]
    exact ⟨hwide _ (by omega) (by omega), hwide _ (by omega) (by omega)⟩
  by_cases h3 : c < 0x10000
  · rw [Utf8.encodeScalar_three (by omega) h3]
    simp only [List.forall_mem_cons, List.not_mem_nil, false_implies, implies_true, and_true]
    exact ⟨hwide _ (by omega) (by omega), hwide _ (by omega) (by omega),
      hwide _ (by omega) (by omega)⟩
  · rw [Utf8.encodeScalar_four (by omega)]
    simp only [List.forall_mem_cons, List.not_mem_nil, false_implies, implies_true, and_true]
    exact ⟨hwide _ (by omega) (by omega), hwide _ (by omega) (by omega),
      hwide _ (by omega) (by omega), hwide _ (by omega) (by omega)⟩

/-! ## Escapes -/

theorem hexDigit_lt {d : Nat} (h : d < 16) : Text.hexDigit d < 0x80 := by
  unfold Text.hexDigit
  split <;> (show (_ : Nat) < _; omega)

theorem digit?_hexDigit : ∀ d < 16, Hexadecimal.digit? (Text.hexDigit d) = some d := by
  decide

/-- One hexadecimal digit of an escape that is not the last. -/
theorem step_hex {content : Bytes} {high : Option Nat} {missing value d : Nat} {tokens : List Token}
    (hd : d < 16) (hmissing : 2 ≤ missing) :
    Lexer.step ⟨.hex content high missing value, tokens⟩ (UInt8.ofNat (Text.hexDigit d)) =
      ⟨.hex content high (missing - 1) (value * 16 + d), tokens⟩ := by
  have hoctet := Utf8.toNat_octet (n := Text.hexDigit d) (Nat.lt_trans (hexDigit_lt hd) (by decide))
  simp only [Lexer.step, hoctet, digit?_hexDigit d hd]
  rw [if_neg (by omega)]

/-- The last hexadecimal digit of an escape. -/
theorem step_hex_last {content : Bytes} {high : Option Nat} {value d : Nat} {tokens : List Token}
    (hd : d < 16) :
    Lexer.step ⟨.hex content high 1 value, tokens⟩ (UInt8.ofNat (Text.hexDigit d)) =
      Lexer.endEscape tokens content high (value * 16 + d) := by
  have hoctet := Utf8.toNat_octet (n := Text.hexDigit d) (Nat.lt_trans (hexDigit_lt hd) (by decide))
  simp only [Lexer.step, hoctet, digit?_hexDigit d hd]
  rw [if_pos (by omega)]

theorem encode_hexPadded (u : Nat) :
    Utf8.encode (Text.hexPadded 4 u) =
      [UInt8.ofNat (Text.hexDigit (u / 16 / 16 / 16 % 16)),
        UInt8.ofNat (Text.hexDigit (u / 16 / 16 % 16)), UInt8.ofNat (Text.hexDigit (u / 16 % 16)),
        UInt8.ofNat (Text.hexDigit (u % 16))] := by
  have h (n : Nat) := Utf8.encodeScalar_one (hexDigit_lt (Nat.mod_lt n (show 0 < 16 by decide)))
  simp [Text.hexPadded, Utf8.encode, h]

/-- The four digits of an escape give back the number they spell. -/
theorem lexFrom_hex {u : Nat} (hu : u < 0x10000) (content : Bytes) (high : Option Nat)
    (tokens : List Token) (rest : Bytes) :
    lexFrom ⟨.hex content high 4 0, tokens⟩ (Utf8.encode (Text.hexPadded 4 u) ++ rest) =
      lexFrom (Lexer.endEscape tokens content high u) rest := by
  have hmod (n : Nat) : n % 16 < 16 := Nat.mod_lt n (by decide)
  rw [encode_hexPadded]
  simp only [List.cons_append, List.nil_append, lexFrom_cons]
  rw [step_hex (hmod _) (by decide), step_hex (hmod _) (by decide), step_hex (hmod _) (by decide),
    step_hex_last (hmod _)]
  congr 2
  omega

theorem encode_unitEscape (u : Nat) :
    Utf8.encode (unitEscape u) = 92 :: 117 :: Utf8.encode (Text.hexPadded 4 u) := by
  rw [unitEscape, Utf8.encode_append]
  rfl

theorem lexFrom_unitEscape {u : Nat} (hu : u < 0x10000) (content : Bytes) (tokens : List Token)
    (rest : Bytes) :
    lexFrom ⟨.text content, tokens⟩ (Utf8.encode (unitEscape u) ++ rest) =
      lexFrom (Lexer.endEscape tokens content none u) rest := by
  rw [encode_unitEscape]
  exact lexFrom_hex hu content none tokens rest

theorem lexFrom_lowEscape {u : Nat} (hu : u < 0x10000) (content : Bytes) (high : Nat)
    (tokens : List Token) (rest : Bytes) :
    lexFrom ⟨.lowBackslash content high, tokens⟩ (Utf8.encode (unitEscape u) ++ rest) =
      lexFrom (Lexer.endEscape tokens content (some high) u) rest := by
  rw [encode_unitEscape]
  exact lexFrom_hex hu content (some high) tokens rest

/-- The escape of a character by its number, or by those of its two surrogates. -/
theorem lexFrom_numericEscape {c : Nat} (hc : Text.isScalar c = true) (content : Bytes)
    (tokens : List Token) (rest : Bytes) :
    lexFrom ⟨.text content, tokens⟩ (Utf8.encode (if c < 0x10000 then unitEscape c
        else unitEscape (0xD800 + (c - 0x10000) / 0x400) ++
          unitEscape (0xDC00 + (c - 0x10000) % 0x400)) ++ rest) =
      lexFrom ⟨.text ((Utf8.encodeScalar c).reverse ++ content), tokens⟩ rest := by
  rw [Utf8.isScalar_iff] at hc
  split
  · rename_i h
    rw [lexFrom_unitEscape h, Lexer.endEscape]
    rw [if_neg (by omega), if_neg (by omega)]
  · rename_i h
    have hhigh : (c - 0x10000) / 0x400 < 0x400 := by omega
    have hlow : (c - 0x10000) % 0x400 < 0x400 := Nat.mod_lt _ (by decide)
    have hpair : 0x10000 + (0xD800 + (c - 0x10000) / 0x400 - 0xD800) * 0x400 +
        (0xDC00 + (c - 0x10000) % 0x400 - 0xDC00) = c := by omega
    rw [Utf8.encode_append, List.append_assoc, lexFrom_unitEscape (by omega), Lexer.endEscape,
      if_pos (by omega), lexFrom_lowEscape (by omega), Lexer.endEscape, if_pos (by omega)]
    simp only [hpair]

/-- A printed character is read as its octets. -/
theorem lexFrom_printCodePoint {c : Nat} (hc : Text.isScalar c = true) (ascii : Bool)
    (content : Bytes) (tokens : List Token) (rest : Bytes) :
    lexFrom ⟨.text content, tokens⟩ (Utf8.encode (printCodePoint ascii c) ++ rest) =
      lexFrom ⟨.text ((Utf8.encodeScalar c).reverse ++ content), tokens⟩ rest := by
  unfold printCodePoint
  split
  · rename_i h
    rcases h with rfl | rfl <;> rfl
  rename_i hquote
  split
  · rename_i h; subst h; rfl
  split
  · rename_i h; subst h; rfl
  split
  · rename_i h; subst h; rfl
  split
  · rename_i h; subst h; rfl
  split
  · rename_i h; subst h; rfl
  split
  · rename_i h
    have hlow : c < 32 := h
    have hnumeric := lexFrom_numericEscape hc content tokens rest
    rw [if_pos (by omega)] at hnumeric
    exact hnumeric
  rename_i h
  have hlow : ¬ c < 32 := h
  split
  · exact lexFrom_numericEscape hc content tokens rest
  · have hraw := isRaw_encodeScalar hc (by omega) (fun h => hquote (.inl h))
      fun h => hquote (.inr h)
    have hencode : Utf8.encode [c] = Utf8.encodeScalar c := List.append_nil _
    rw [hencode, lexFrom_raw hraw]

theorem lexFrom_text {t : Text} (ht : t.isUnicode = true) (ascii : Bool) (content : Bytes)
    (tokens : List Token) (rest : Bytes) :
    lexFrom ⟨.text content, tokens⟩ (Utf8.encode (t.flatMap (printCodePoint ascii)) ++ rest) =
      lexFrom ⟨.text ((Utf8.encode t).reverse ++ content), tokens⟩ rest := by
  induction t generalizing content with
  | nil => rfl
  | cons c t ih =>
    simp only [Text.isUnicode, List.all_cons, Bool.and_eq_true] at ht
    rw [List.flatMap_cons, Utf8.encode_append, List.append_assoc, lexFrom_printCodePoint ht.1,
      ih ht.2, Utf8.encode_cons]
    simp

/-- A printed string is read as one token with its content. -/
theorem lexFrom_printText {t : Text} (ht : t.isUnicode = true) (ascii : Bool)
    (tokens : List Token) (rest : Bytes) :
    lexFrom ⟨.between, tokens⟩ (Utf8.encode (printText ascii t) ++ rest) =
      lexFrom ⟨.between, .text (.ok t) :: tokens⟩ rest := by
  have hopen : Utf8.encode (printText ascii t) =
      34 :: (Utf8.encode (t.flatMap (printCodePoint ascii)) ++ [34]) := by
    rw [printText, Utf8.encode_append, Utf8.encode_append]
    rfl
  have hstart : Lexer.step ⟨.between, tokens⟩ 34 = ⟨.text [], tokens⟩ := rfl
  rw [hopen, List.cons_append, List.append_assoc, lexFrom_cons, hstart, lexFrom_text ht]
  simp only [List.append_nil, List.cons_append, List.nil_append, lexFrom_cons, Lexer.step,
    beq_self_eq_true, if_true, List.reverse_reverse, Utf8.decode_encode ht]

/-! ## Numbers -/

/-- Decimal digits as octets. -/
def digitOctets (ds : List Nat) : Bytes := ds.map fun d => UInt8.ofNat (48 + d)

theorem digitOctets_cons (d : Nat) (ds : List Nat) :
    digitOctets (d :: ds) = UInt8.ofNat (48 + d) :: digitOctets ds := rfl

theorem encode_digits {ds : List Nat} (h : ∀ d ∈ ds, d < 10) :
    Utf8.encode (ds.map (48 + ·)) = digitOctets ds := by
  induction ds with
  | nil => rfl
  | cons d ds ih =>
    have hd := h d List.mem_cons_self
    rw [List.map_cons, Utf8.encode_cons, Utf8.encodeScalar_one (by omega),
      ih fun e he => h e (List.mem_cons_of_mem _ he)]
    rfl

theorem encode_ofNat (m : Nat) :
    Utf8.encode (Decimal.ofNat m) = digitOctets (Decimal.digits m) := by
  rw [Decimal.ofNat_eq_map_digits]
  exact encode_digits (Decimal.digits_lt m)

theorem digit?_octet : ∀ d < 10, digit? (UInt8.ofNat (48 + d)) = some d := by
  decide

theorem begin_digit (tokens : List Token) :
    ∀ d < 10, Lexer.begin tokens (UInt8.ofNat (48 + d)) = ⟨.number (.ofDigit false d), tokens⟩ := by
  have hmark : ∀ d < 10, Lexer.isGap (UInt8.ofNat (48 + d)) = false ∧
      Lexer.mark? (UInt8.ofNat (48 + d)) = none := by
    decide
  intro d hd
  unfold Lexer.begin
  rw [(hmark d hd).1, (hmark d hd).2, digit?_octet d hd]
  rfl

/-- Further digits of a number that does not begin with zero. -/
theorem lexFrom_digits {ds : List Nat} (h : ∀ d ∈ ds, d < 10) (negative : Bool) (done : List Nat)
    (tokens : List Token) (rest : Bytes) :
    lexFrom ⟨.number ⟨.whole, negative, done, [], false, []⟩, tokens⟩ (digitOctets ds ++ rest) =
      lexFrom ⟨.number ⟨.whole, negative, ds.reverse ++ done, [], false, []⟩, tokens⟩ rest := by
  induction ds generalizing done with
  | nil => rfl
  | cons d ds ih =>
    have hd := digit?_octet d (h d List.mem_cons_self)
    have hstep : Lexer.step ⟨.number ⟨.whole, negative, done, [], false, []⟩, tokens⟩
        (UInt8.ofNat (48 + d)) =
          ⟨.number ⟨.whole, negative, d :: done, [], false, []⟩, tokens⟩ := by
      simp only [Lexer.step, NumberScan.next?, hd]
    rw [digitOctets_cons, List.cons_append, lexFrom_cons, hstep,
      ih fun e he => h e (List.mem_cons_of_mem _ he)]
    simp

/-- A whole number ends where its text does not go on. -/
theorem lexFrom_number_end {n : NumberScan} {k : Int} (hphase : n.phase = .zero ∨ n.phase = .whole)
    (htoken : n.token = .int k) (tokens : List Token) {rest : Bytes} (hrest : Delimited rest) :
    lexFrom ⟨.number n, tokens⟩ rest = lexFrom ⟨.between, .int k :: tokens⟩ rest := by
  cases rest with
  | nil => simp only [lexFrom, List.foldl_nil, Lexer.finish, htoken]
  | cons b tail =>
    obtain ⟨hdigit, hpoint, hmark⟩ := hrest b tail rfl
    have hnext : n.next? b = none := by
      unfold NumberScan.next?
      rcases hphase with h | h
      · simp only [h, hdigit, beq_iff_eq, if_neg hpoint, hmark, Bool.false_eq_true, if_false]
      · simp only [h, hdigit, beq_iff_eq, if_neg hpoint, hmark, Bool.false_eq_true, if_false]
    simp only [lexFrom_cons, Lexer.step, hnext, htoken]

/-- The digits of a number after its first are read as the number. -/
theorem lexFrom_magnitude {m d : Nat} {ds : List Nat} (hm : (Decimal.digits m).length ≤ digitLimit)
    (hd : Decimal.digits m = d :: ds) (hzero : d = 0 → m = 0) (negative : Bool)
    (tokens : List Token) {rest : Bytes} (hrest : Delimited rest) :
    lexFrom ⟨.number (.ofDigit negative d), tokens⟩ (digitOctets ds ++ rest) =
      lexFrom ⟨.between, .int (if negative then -(m : Int) else m) :: tokens⟩ rest := by
  have hvalue := Decimal.value_digits m
  have hlt := Decimal.digits_lt m
  rw [hd] at hm hvalue hlt
  by_cases h0 : d = 0
  · have hm0 := hzero h0
    subst h0 hm0
    rw [Decimal.digits_of_lt (by decide)] at hd
    cases hd
    exact lexFrom_number_end (.inl rfl) rfl tokens hrest
  · have hstart : NumberScan.ofDigit negative d = ⟨.whole, negative, [d], [], false, []⟩ := by
      rw [NumberScan.ofDigit, if_neg h0]
    rw [hstart, lexFrom_digits fun e he => hlt e (List.mem_cons_of_mem _ he)]
    refine lexFrom_number_end (.inr rfl) ?_ tokens hrest
    have hlen : ¬ (ds.reverse ++ [d]).length > digitLimit := by
      simpa using hm
    simp only [NumberScan.token, if_neg hlen, List.reverse_append, List.reverse_reverse,
      List.reverse_singleton, List.singleton_append, hvalue]

/-- A printed whole number is read as one token with its value. -/
theorem lexFrom_ofInt {n : Int} (hn : Decimal.fits n = true) (tokens : List Token) {rest : Bytes}
    (hrest : Delimited rest) :
    lexFrom ⟨.between, tokens⟩ (Utf8.encode (Decimal.ofInt n) ++ rest) =
      lexFrom ⟨.between, .int n :: tokens⟩ rest := by
  rw [Decimal.fits_iff] at hn
  cases n with
  | ofNat m =>
    obtain ⟨d, ds, hd, hzero⟩ := Decimal.digits_eq_cons m
    have hlt := Decimal.digits_lt m d (by rw [hd]; exact List.mem_cons_self)
    rw [Decimal.ofInt, encode_ofNat, hd]
    have hstep : Lexer.step ⟨.between, tokens⟩ (UInt8.ofNat (48 + d)) =
        ⟨.number (.ofDigit false d), tokens⟩ := begin_digit tokens d hlt
    rw [digitOctets_cons, List.cons_append, lexFrom_cons, hstep,
      lexFrom_magnitude hn hd hzero false tokens hrest]
    rfl
  | negSucc m =>
    obtain ⟨d, ds, hd, hzero⟩ := Decimal.digits_eq_cons (m + 1)
    have hlt := Decimal.digits_lt (m + 1) d (by rw [hd]; exact List.mem_cons_self)
    have hminus : Utf8.encode (Decimal.ofInt (.negSucc m)) =
        45 :: UInt8.ofNat (48 + d) :: digitOctets ds := by
      rw [Decimal.ofInt, Utf8.encode_append, encode_ofNat, hd]
      rfl
    have hstart : Lexer.step ⟨.between, tokens⟩ 45 =
        ⟨.number ⟨.minus, true, [], [], false, []⟩, tokens⟩ := rfl
    have hstep : Lexer.step ⟨.number ⟨.minus, true, [], [], false, []⟩, tokens⟩
        (UInt8.ofNat (48 + d)) = ⟨.number (.ofDigit true d), tokens⟩ := by
      simp only [Lexer.step, NumberScan.next?, digit?_octet d hlt]
    rw [hminus, List.cons_append, List.cons_append, lexFrom_cons, hstart, lexFrom_cons, hstep,
      lexFrom_magnitude hn hd hzero true tokens hrest]
    rfl

/-! ## Values -/

mutual

/-- The tokens of a value. -/
def valueTokens : Value → List Token
  | .null => [.null]
  | .bool b => [.bool b]
  | .int n => [.int n]
  | .real x => [.real x]
  | .text t => [.text (.ok t)]
  | .bytes _ => [.null]
  | .type _ => [.null]
  | .list [] => [.openArray, .closeArray]
  | .list (v :: rest) => .openArray :: (valueTokens v ++ (itemTokens rest ++ [.closeArray]))
  | .object [] => [.openObject, .closeObject]
  | .object ((k, v) :: rest) =>
    .openObject :: .text (.ok k) :: .colon ::
      (valueTokens v ++ (entryTokens rest ++ [.closeObject]))
termination_by structural v => v

/-- The tokens of the items after the first. -/
def itemTokens : List Value → List Token
  | [] => []
  | v :: rest => .comma :: (valueTokens v ++ itemTokens rest)
termination_by structural vs => vs

/-- The tokens of the entries after the first. -/
def entryTokens : List (Text × Value) → List Token
  | [] => []
  | (k, v) :: rest => .comma :: .text (.ok k) :: .colon :: (valueTokens v ++ entryTokens rest)
termination_by structural es => es

end

/-- Between tokens, text is read as given tokens, whatever follows. -/
def Reads (text : Text) (tokens : List Token) : Prop :=
  ∀ (before : List Token) (rest : Bytes),
    lexFrom ⟨.between, before⟩ (Utf8.encode text ++ rest) =
      lexFrom ⟨.between, tokens.reverse ++ before⟩ rest

/-- Between tokens, text is read as given tokens if what follows does not continue a number. -/
def Yields (text : Text) (tokens : List Token) : Prop :=
  ∀ (before : List Token) (rest : Bytes), Delimited rest →
    lexFrom ⟨.between, before⟩ (Utf8.encode text ++ rest) =
      lexFrom ⟨.between, tokens.reverse ++ before⟩ rest

/-- Text that does not continue a number, nor does what follows it if it is empty. -/
def Separates (text : Text) : Prop :=
  ∀ rest, Delimited rest → Delimited (Utf8.encode text ++ rest)

/-- Text that does not continue a number, whatever follows. -/
def Ends (text : Text) : Prop := ∀ rest, Delimited (Utf8.encode text ++ rest)

section Composition

variable {s t : Text} {as bs : List Token}

theorem Reads.yields (h : Reads s as) : Yields s as := fun before rest _ => h before rest

theorem Reads.append (hs : Reads s as) (ht : Reads t bs) : Reads (s ++ t) (as ++ bs) := by
  intro before rest
  rw [Utf8.encode_append, List.append_assoc, hs, ht, List.reverse_append, List.append_assoc]

theorem Reads.append_yields (hs : Reads s as) (ht : Yields t bs) : Yields (s ++ t) (as ++ bs) := by
  intro before rest hrest
  rw [Utf8.encode_append, List.append_assoc, hs, ht _ _ hrest, List.reverse_append,
    List.append_assoc]

theorem Yields.append (hs : Yields s as) (ht : Yields t bs) (hsep : Separates t) :
    Yields (s ++ t) (as ++ bs) := by
  intro before rest hrest
  rw [Utf8.encode_append, List.append_assoc, hs _ _ (hsep rest hrest), ht _ _ hrest,
    List.reverse_append, List.append_assoc]

theorem Yields.append_reads (hs : Yields s as) (ht : Reads t bs) (hends : Ends t) :
    Reads (s ++ t) (as ++ bs) := by
  intro before rest
  rw [Utf8.encode_append, List.append_assoc, hs _ _ (hends rest), ht, List.reverse_append,
    List.append_assoc]

theorem Separates.append (hs : Separates s) (ht : Ends t) : Ends (s ++ t) := by
  intro rest
  rw [Utf8.encode_append, List.append_assoc]
  exact hs _ (ht rest)

end Composition

/-! ### The pieces of a layout -/

theorem reads_openArray : Reads "[" [.openArray] := fun _ _ => rfl
theorem reads_closeArray : Reads "]" [.closeArray] := fun _ _ => rfl
theorem reads_openObject : Reads "\x7b" [.openObject] := fun _ _ => rfl
theorem reads_closeObject : Reads "\x7d" [.closeObject] := fun _ _ => rfl
theorem reads_comma : Reads "," [.comma] := fun _ _ => rfl
theorem reads_newline : Reads "\n" [] := fun _ _ => rfl
theorem reads_nil : Reads [] [] := fun _ _ => rfl

theorem reads_printText {t : Text} (ht : t.isUnicode = true) (ascii : Bool) :
    Reads (printText ascii t) [.text (.ok t)] :=
  fun before rest => lexFrom_printText ht ascii before rest

theorem reads_spaces (n : Nat) : Reads (List.replicate n 32) [] := by
  induction n with
  | zero => exact fun _ _ => rfl
  | succ n ih =>
    have hspace : Reads [32] [] := fun _ _ => rfl
    exact hspace.append ih

theorem reads_line (s : Style) (level : Nat) : Reads (s.line level) [] := by
  unfold Style.line
  split
  · exact fun _ _ => rfl
  · exact reads_newline.append (reads_spaces _)

theorem reads_afterKey (s : Style) : Reads s.afterKey [.colon] := by
  unfold Style.afterKey
  split
  · exact fun _ _ => rfl
  · exact fun _ _ => rfl

theorem ends_newline_append (t : Text) : Ends ("\n" ++ t) :=
  fun _ => delimited_cons (by decide)

/-- A mark that closes a container ends a number before it, on its own line or not. -/
theorem ends_line_append (s : Style) (level : Nat) {t : Text} (ht : Ends t) :
    Ends (s.line level ++ t) := by
  unfold Style.line
  split
  · exact ht
  · rw [List.append_assoc]
    exact ends_newline_append _

theorem ends_closeArray : Ends "]" := fun _ => delimited_cons (by decide)

theorem ends_closeObject : Ends "\x7d" := fun _ => delimited_cons (by decide)

theorem separates_nil : Separates [] := fun _ h => h

theorem separates_printItems (s : Style) (level : Nat) (vs : List Value) :
    Separates (printItems s level vs) := by
  cases vs with
  | nil => exact separates_nil
  | cons v vs =>
    intro rest _
    simp only [printItems, List.append_assoc]
    exact delimited_cons (by decide)

theorem separates_printEntries (s : Style) (level : Nat) (es : List (Text × Value)) :
    Separates (printEntries s level es) := by
  cases es with
  | nil => exact separates_nil
  | cons e es =>
    intro rest _
    simp only [printEntries, List.append_assoc]
    exact delimited_cons (by decide)

/-! ### Printed values -/

mutual

/-- A printed value is read as its tokens, in any style and at any level. -/
theorem yields_printAt (s : Style) : ∀ (v : Value) (level : Nat), v.IsPlain →
    numbersFit v = true → Yields (printAt s level v) (valueTokens v)
  | .null => fun _ _ _ _ _ _ => rfl
  | .bool true => fun _ _ _ _ _ _ => rfl
  | .bool false => fun _ _ _ _ _ _ => rfl
  | .int _ => fun _ _ hfit before _ hrest => lexFrom_ofInt hfit before hrest
  | .real _ => fun _ hplain => hplain.elim
  | .text _ => fun _ hplain _ => (reads_printText hplain s.ascii).yields
  | .bytes _ => fun _ hplain => hplain.elim
  | .type _ => fun _ hplain => hplain.elim
  | .list [] => fun _ _ _ _ _ _ => rfl
  | .list (v :: vs) => by
    intro level hplain hfit
    simp only [numbersFit, itemsFit, Bool.and_eq_true] at hfit
    have hv := yields_printAt s v (level + 1) hplain.1 hfit.1
    have hvs := yields_printItems s vs level hplain.2 hfit.2
    have hends := ends_line_append s level ends_closeArray
    have hclose := hvs.append_reads ((reads_line s level).append reads_closeArray) hends
    have hbody := hv.append_reads hclose ((separates_printItems s level vs).append hends)
    have hall := reads_openArray.append ((reads_line s (level + 1)).append hbody)
    simp only [printAt, valueTokens, List.append_assoc]
    exact hall.yields
  | .object [] => fun _ _ _ _ _ _ => rfl
  | .object ((k, v) :: es) => by
    intro level hplain hfit
    simp only [numbersFit, entriesFit, Bool.and_eq_true] at hfit
    have hv := yields_printAt s v (level + 1) hplain.2.1.2 hfit.1
    have hes := yields_printEntries s es level hplain.2.2 hfit.2
    have hends := ends_line_append s level ends_closeObject
    have hclose := hes.append_reads ((reads_line s level).append reads_closeObject) hends
    have hbody := hv.append_reads hclose ((separates_printEntries s level es).append hends)
    have hkey := (reads_printText hplain.2.1.1 s.ascii).append ((reads_afterKey s).append hbody)
    have hall := reads_openObject.append ((reads_line s (level + 1)).append hkey)
    simp only [printAt, valueTokens, List.append_assoc]
    exact hall.yields

theorem yields_printItems (s : Style) : ∀ (vs : List Value) (level : Nat), Value.ItemsPlain vs →
    itemsFit vs = true → Yields (printItems s level vs) (itemTokens vs)
  | [] => fun _ _ _ _ _ _ => rfl
  | v :: vs => by
    intro level hplain hfit
    simp only [itemsFit, Bool.and_eq_true] at hfit
    have hv := yields_printAt s v (level + 1) hplain.1 hfit.1
    have hvs := yields_printItems s vs level hplain.2 hfit.2
    have hbody := hv.append hvs (separates_printItems s level vs)
    have hall := reads_comma.append_yields ((reads_line s (level + 1)).append_yields hbody)
    simp only [printItems, itemTokens, List.append_assoc]
    exact hall

theorem yields_printEntries (s : Style) : ∀ (es : List (Text × Value)) (level : Nat),
    Value.EntriesPlain es → entriesFit es = true →
      Yields (printEntries s level es) (entryTokens es)
  | [] => fun _ _ _ _ _ _ => rfl
  | (k, v) :: es => by
    intro level hplain hfit
    simp only [entriesFit, Bool.and_eq_true] at hfit
    have hv := yields_printAt s v (level + 1) hplain.1.2 hfit.1
    have hes := yields_printEntries s es level hplain.2 hfit.2
    have hbody := hv.append hes (separates_printEntries s level es)
    have hkey := (reads_printText hplain.1.1 s.ascii).append_yields
      ((reads_afterKey s).append_yields hbody)
    have hall := reads_comma.append_yields ((reads_line s (level + 1)).append_yields hkey)
    simp only [printEntries, entryTokens, List.append_assoc]
    exact hall

end

/-- **The tokens of printed text** are those of the value, whatever the style, also when blanks
follow it. -/
theorem lex_print (s : Style) {v : Value} (hplain : v.IsPlain) (hfit : numbersFit v = true)
    {ending : Text} (hending : Reads ending []) (hends : Separates ending) :
    lex (Utf8.encode (print s v ++ ending)) = valueTokens v := by
  have hyields := (yields_printAt s v 0 hplain hfit).append hending.yields hends
  have hlex := hyields [] [] delimited_nil
  rw [List.append_nil, List.append_nil, List.append_nil] at hlex
  show lexFrom ⟨.between, []⟩ _ = _
  rw [print, hlex]
  exact List.reverse_reverse _

end CircuitAbi.Json

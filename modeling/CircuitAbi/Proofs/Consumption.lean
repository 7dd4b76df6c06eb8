import CircuitAbi.Proofs.Weight

/-!
# What reading costs the text

Nothing that a text is read as weighs more than the text has octets. The lexer pays one octet for a
step and holds what its scan and its tokens weigh (`Lexer.Within`); the parser pays the weight of a
token for a step and holds what its open containers weigh (`Reader.weight`).

* `Json.lex_bounds` — the tokens of octets weigh no more than these, and whole numbers among them
  have few enough digits.
* `Json.weight_le_of_parse` — neither does the value of octets.
-/

set_option autoImplicit false

namespace CircuitAbi.Json

/-! ## Tokens -/

namespace Token

/-- The octets that a token has at least. -/
def weight : Token → Nat
  | .null => 4
  | .bool b => if b then 4 else 5
  | .int n => (Decimal.ofInt n).length
  | .real _ => 0
  | .text (.ok t) => Text.weight t
  | .text (.error _) => 0
  | .bad => 0
  | _ => 1

/-- A whole number has few enough digits to print. -/
def Fits : Token → Prop
  | .int n => Decimal.fits n = true
  | _ => True

end Token

/-- The weight of tokens. -/
def tokensWeight (tokens : List Token) : Nat := (tokens.map Token.weight).sum

@[simp] theorem tokensWeight_cons (token : Token) (tokens : List Token) :
    tokensWeight (token :: tokens) = token.weight + tokensWeight tokens := by
  rw [tokensWeight, List.map_cons, List.sum_cons, tokensWeight]

@[simp] theorem tokensWeight_reverse (tokens : List Token) :
    tokensWeight tokens.reverse = tokensWeight tokens := by
  rw [tokensWeight, List.map_reverse, List.sum_reverse, tokensWeight]

/-! ## Numbers -/

theorem digit?_lt {b : UInt8} {d : Nat} (h : digit? b = some d) : d < 10 := by
  unfold digit? at h
  split at h
  · rename_i hb
    cases h
    omega
  · cases h

namespace NumberScan

/-- The octets of a number so far, those of its point, fraction and exponent left out. -/
def weight (n : NumberScan) : Nat :=
  match n.phase with
  | .minus => 1
  | _ => n.negative.toNat + n.whole.length

/-- The digits are digits, and there are some as soon as a number has begun. -/
def Sound (n : NumberScan) : Prop :=
  (∀ d ∈ n.whole, d < 10) ∧ (n.phase = .minus ∨ n.whole ≠ [])

theorem ofDigit_sound {d : Nat} (hd : d < 10) (negative : Bool) : (ofDigit negative d).Sound := by
  refine ⟨?_, .inr (List.cons_ne_nil _ _)⟩
  intro e he
  rw [List.mem_singleton.1 he]
  exact hd

theorem weight_ofDigit (negative : Bool) (d : Nat) :
    (ofDigit negative d).weight = negative.toNat + 1 := by
  unfold ofDigit
  split <;> rfl

/-- What one more octet does to a number: it is the first digit after a minus sign, a further digit
of the whole part, or leaves sign and whole part as they are. -/
theorem next?_cases {n n' : NumberScan} {b : UInt8} (h : n.next? b = some n') :
    (n.phase = .minus ∧ ∃ d < 10, n' = ofDigit true d) ∨
    (n.phase = .whole ∧ ∃ d < 10, n' = { n with whole := d :: n.whole }) ∨
    (n.phase ≠ .minus ∧ n'.phase ≠ .minus ∧ n'.whole = n.whole ∧ n'.negative = n.negative) := by
  obtain ⟨phase, negative, whole, fraction, exponentNegative, exponent⟩ := n
  unfold next? at h
  cases hd : digit? b with
  | some d =>
    have hlt := digit?_lt hd
    cases phase <;> simp only [hd, Option.some.injEq, reduceCtorEq] at h <;> subst h
    case minus => exact .inl ⟨rfl, d, hlt, rfl⟩
    case whole => exact .inr (.inl ⟨rfl, d, hlt, rfl⟩)
    all_goals exact .inr (.inr ⟨nofun, nofun, rfl, rfl⟩)
  | none =>
    cases phase <;> simp only [hd, reduceCtorEq] at h
    case fraction =>
      split at h
      · cases h
        exact .inr (.inr ⟨nofun, nofun, rfl, rfl⟩)
      · cases h
    all_goals
      split at h
      · cases h
        exact .inr (.inr ⟨nofun, nofun, rfl, rfl⟩)
      · split at h
        · cases h
          exact .inr (.inr ⟨nofun, nofun, rfl, rfl⟩)
        · cases h

theorem weight_of_ne_minus {n : NumberScan} (h : n.phase ≠ .minus) :
    n.weight = n.negative.toNat + n.whole.length := by
  unfold weight
  split
  · contradiction
  · rfl

/-- One more octet keeps a number sound and makes it at most one octet heavier. -/
theorem next?_sound {n n' : NumberScan} {b : UInt8} (h : n.Sound) (hnext : n.next? b = some n') :
    n'.Sound ∧ n'.weight ≤ n.weight + 1 := by
  rcases next?_cases hnext with ⟨hphase, d, hd, rfl⟩ | ⟨hphase, d, hd, rfl⟩ |
    ⟨hphase, hphase', hwhole, hnegative⟩
  · refine ⟨ofDigit_sound hd true, ?_⟩
    rw [weight_ofDigit, weight, hphase]
    exact Nat.le_refl _
  · refine ⟨⟨List.forall_mem_cons.2 ⟨hd, h.1⟩, .inr (List.cons_ne_nil _ _)⟩, ?_⟩
    simp only [weight, hphase, List.length_cons]
    omega
  · refine ⟨⟨by rw [hwhole]; exact h.1, .inr (by rw [hwhole]; exact h.2.resolve_left hphase)⟩, ?_⟩
    rw [weight_of_ne_minus hphase, weight_of_ne_minus hphase', hwhole, hnegative]
    exact Nat.le_add_right _ _

/-- The integer of a sign and digits has no more digits than these, and a sign only if there was
one; where the digits are few enough, it fits. -/
theorem ofInt_bounds {ds : List Nat} (hne : ds ≠ []) (hds : ∀ d ∈ ds, d < 10) (negative : Bool) :
    (Decimal.ofInt (if negative then -(Decimal.value 10 ds : Int)
      else Decimal.value 10 ds)).length ≤ negative.toNat + ds.length ∧
    (ds.length ≤ digitLimit → Decimal.fits
      (if negative then -(Decimal.value 10 ds : Int) else Decimal.value 10 ds) = true) := by
  have hdigits := Decimal.length_digits_value_le hne hds
  generalize Decimal.value 10 ds = m at hdigits
  constructor
  · cases negative with
    | false =>
      show (Decimal.ofNat m).length ≤ 0 + ds.length
      rw [Decimal.length_ofNat]
      omega
    | true =>
      cases m with
      | zero => exact Nat.le_add_right 1 ds.length
      | succ m =>
        show (Decimal.ofNat (m + 1)).length + 1 ≤ 1 + ds.length
        rw [Decimal.length_ofNat]
        omega
  · intro hlimit
    have habs : (if negative then -(m : Int) else m).natAbs = m := by
      split <;> simp
    rw [Decimal.fits_iff, habs]
    exact Nat.le_trans hdigits hlimit

/-- What the token of a number can be: a whole number has come past a minus sign and has few enough
digits. -/
theorem token_cases (n : NumberScan) :
    n.token = .bad ∨ (∃ x, n.token = .real x) ∨
    (n.phase ≠ .minus ∧ n.whole.length ≤ digitLimit ∧
      n.token = .int (if n.negative then -(Decimal.value 10 n.whole.reverse : Int)
        else Decimal.value 10 n.whole.reverse)) := by
  obtain ⟨phase, negative, whole, fraction, exponentNegative, exponent⟩ := n
  cases phase <;> simp only [token]
  case zero | whole =>
    split
    · exact .inl rfl
    · rename_i hlimit
      exact .inr (.inr ⟨by simp, Nat.not_lt.1 hlimit, rfl⟩)
  case fraction | exponentDigits =>
    split
    · rename_i x _
      exact .inr (.inl ⟨x, rfl⟩)
    · exact .inl rfl
  all_goals exact .inl trivial

/-- The token of a number weighs no more than its octets, and fits. -/
theorem token_bounds {n : NumberScan} (h : n.Sound) :
    n.token.weight ≤ n.weight ∧ n.token.Fits := by
  rcases token_cases n with htoken | ⟨x, htoken⟩ | ⟨hphase, hlimit, htoken⟩
  · rw [htoken]
    exact ⟨Nat.zero_le _, trivial⟩
  · rw [htoken]
    exact ⟨Nat.zero_le _, trivial⟩
  · have hne : n.whole.reverse ≠ [] := by simpa using h.2.resolve_left hphase
    have hbounds := ofInt_bounds hne (fun d hd => h.1 d (List.mem_reverse.1 hd)) n.negative
    rw [List.length_reverse] at hbounds
    rw [htoken, weight_of_ne_minus hphase]
    exact ⟨hbounds.1, hbounds.2 hlimit⟩

end NumberScan

/-! ## The lexer -/

namespace Scan

/-- The quote that begins a string and what an escape in it has before its digits; a low surrogate
comes after the escape of a high one. -/
def escapeWeight : Option Nat → Nat
  | none => 3
  | some _ => 9

/-- The octets that began after the last token, those of a string at their price. -/
def weight : Scan → Nat
  | .between => 0
  | .word expected token => token.weight - expected.length
  | .number n => n.weight
  | .text content => 1 + octetsPrice content
  | .escape content => 2 + octetsPrice content
  | .hex content high missing _ => escapeWeight high + (4 - missing) + octetsPrice content
  | .lowBackslash content _ => 7 + octetsPrice content
  | .lowLetter content _ => 8 + octetsPrice content
  | .stopped => 0

/-- What has been read can be so: the digits of an escape bound its value, and a first surrogate is
no second one. -/
def Sound : Scan → Prop
  | .word _ token => token.Fits
  | .number n => n.Sound
  | .hex _ high missing value =>
    (1 ≤ missing ∧ missing ≤ 4) ∧ value < 16 ^ (4 - missing) ∧ ∀ h, high = some h → h < 0xDC00
  | .lowBackslash _ high => high < 0xDC00
  | .lowLetter _ high => high < 0xDC00
  | _ => True

end Scan

namespace Lexer

/-- The lexer holds no more than it has consumed, and its tokens fit. -/
structure Within (consumed : Nat) (l : Lexer) : Prop where
  sound : l.scan.Sound
  fits : ∀ token ∈ l.tokens, token.Fits
  weight : l.scan.weight + tokensWeight l.tokens ≤ consumed

section Steps

variable {tokens : List Token} {consumed : Nat}

theorem within_stop (hfits : ∀ token ∈ tokens, token.Fits)
    (hweight : tokensWeight tokens ≤ consumed) : (stop tokens).Within consumed where
  sound := trivial
  fits := List.forall_mem_cons.2 ⟨trivial, hfits⟩
  weight := by
    simp only [stop, Scan.weight, tokensWeight_cons, Token.weight]
    omega

theorem mark?_bounds {b : UInt8} {token : Token} (h : mark? b = some token) :
    token.weight = 1 ∧ token.Fits := by
  unfold mark? at h
  iterate 6
    split at h
    · cases h
      exact ⟨rfl, trivial⟩
  cases h

/-- The first octet of a token, or a blank, adds one octet. -/
theorem within_begin (hfits : ∀ token ∈ tokens, token.Fits)
    (hweight : tokensWeight tokens ≤ consumed) (b : UInt8) :
    (begin tokens b).Within (consumed + 1) := by
  have hlater (scan : Scan) (hsound : scan.Sound) (hone : scan.weight ≤ 1) :
      Within (consumed + 1) ⟨scan, tokens⟩ := ⟨hsound, hfits, by simp only; omega⟩
  unfold begin
  split
  · exact hlater _ trivial (by decide)
  split
  · rename_i token hmark
    obtain ⟨hone, htoken⟩ := mark?_bounds hmark
    refine ⟨trivial, List.forall_mem_cons.2 ⟨htoken, hfits⟩, ?_⟩
    simp only [Scan.weight, tokensWeight_cons, hone]
    omega
  split
  · rename_i d hd
    refine hlater _ (NumberScan.ofDigit_sound (digit?_lt hd) false) ?_
    exact Nat.le_of_eq (NumberScan.weight_ofDigit false d)
  split
  · exact hlater _ trivial (Nat.le_refl _)
  split
  · exact hlater _ ⟨nofun, .inl rfl⟩ (Nat.le_refl _)
  iterate 3
    split
    · exact hlater _ trivial (by decide)
  exact within_stop hfits (by omega)

theorem within_text {content : Bytes} (hfits : ∀ token ∈ tokens, token.Fits)
    (hweight : 1 + octetsPrice content + tokensWeight tokens ≤ consumed) :
    Within consumed ⟨.text content, tokens⟩ :=
  ⟨trivial, hfits, hweight⟩

/-- The six octets of an escape pay for the character, the twelve of two surrogates all the more. -/
theorem within_endEscape {content : Bytes} {high : Option Nat} {value : Nat}
    (hfits : ∀ token ∈ tokens, token.Fits) (hvalue : value < 0x10000)
    (hhigh : ∀ h, high = some h → h < 0xDC00)
    (hweight : Scan.escapeWeight high + 4 + octetsPrice content + tokensWeight tokens ≤ consumed) :
    (endEscape tokens content high value).Within consumed := by
  have hcharacter (c : Nat) (hc : Text.isScalar c = true) :
      Within consumed ⟨.text ((Utf8.encodeScalar c).reverse ++ content), tokens⟩ := by
    have hprice := octetsPrice_encodeScalar_le hc
    refine within_text hfits ?_
    rw [octetsPrice_append, octetsPrice_reverse]
    have hescape : 3 ≤ Scan.escapeWeight high := by
      cases high with
      | none => decide
      | some _ => exact (by decide : 3 ≤ 9)
    omega
  unfold endEscape
  cases high with
  | some h =>
    have hlt := hhigh h rfl
    simp only
    split
    · rename_i hlow
      refine hcharacter _ ?_
      rw [Utf8.isScalar_iff]
      omega
    · exact within_stop hfits (by omega)
  | none =>
    simp only
    split
    · rename_i hsurrogate
      refine ⟨hsurrogate.2, hfits, ?_⟩
      simp only [Scan.escapeWeight] at hweight
      simp only [Scan.weight]
      omega
    split
    · exact within_stop hfits (by omega)
    · refine hcharacter value ?_
      rw [Utf8.isScalar_iff]
      omega

theorem octetPrice_escaped? {b c : UInt8} (h : escaped? b = some c) : octetPrice c ≤ 2 := by
  unfold escaped? at h
  split at h
  · rename_i hb
    cases h
    simp only [Bool.or_eq_true, beq_iff_eq] at hb
    rcases hb with (rfl | rfl) | rfl <;> decide
  iterate 5
    split at h
    · cases h
      decide
  cases h

theorem digit?_hex_lt {c d : Nat} (h : Hexadecimal.digit? c = some d) : d < 16 := by
  unfold Hexadecimal.digit? at h
  split at h
  · rename_i hc
    have hdecimal : 48 ≤ c ∧ c ≤ 57 := hc
    cases h
    omega
  split at h
  · rename_i hc
    have hlower : 97 ≤ c ∧ c ≤ 102 := hc
    cases h
    omega
  split at h
  · rename_i hc
    have hupper : 65 ≤ c ∧ c ≤ 70 := hc
    cases h
    omega
  · cases h

/-- What holds when reading stops. -/
theorem Within.stop {scan : Scan} (h : Within consumed ⟨scan, tokens⟩) :
    (Lexer.stop tokens).Within (consumed + 1) :=
  within_stop h.fits (Nat.le_succ_of_le (Nat.le_trans (Nat.le_add_left _ _) h.weight))

theorem within_step_word {expected : Bytes} {token : Token}
    (h : Within consumed ⟨.word expected token, tokens⟩) (b : UInt8) :
    (step ⟨.word expected token, tokens⟩ b).Within (consumed + 1) := by
  have htokens : ∀ t ∈ token :: tokens, t.Fits := List.forall_mem_cons.2 ⟨h.sound, h.fits⟩
  have hweight : token.weight - expected.length + tokensWeight tokens ≤ consumed := h.weight
  match expected with
  | [] => exact within_begin htokens hweight b
  | [last] =>
    simp only [step]
    split
    · refine ⟨trivial, htokens, ?_⟩
      simp only [List.length_singleton] at hweight
      simp only [Scan.weight, tokensWeight_cons]
      omega
    · exact h.stop
  | e :: e' :: expected =>
    simp only [step]
    split
    · refine ⟨h.sound, h.fits, ?_⟩
      simp only [List.length_cons] at hweight
      simp only [Scan.weight, List.length_cons]
      omega
    · exact h.stop

theorem within_step_number {n : NumberScan} (h : Within consumed ⟨.number n, tokens⟩) (b : UInt8) :
    (step ⟨.number n, tokens⟩ b).Within (consumed + 1) := by
  have hweight : n.weight + tokensWeight tokens ≤ consumed := h.weight
  simp only [step]
  split
  · rename_i n' hnext
    obtain ⟨hsound, hn⟩ := NumberScan.next?_sound h.sound hnext
    exact ⟨hsound, h.fits, by simp only [Scan.weight]; omega⟩
  · obtain ⟨htoken, hfits⟩ := NumberScan.token_bounds h.sound
    split
    · exact h.stop
    · refine within_begin (List.forall_mem_cons.2 ⟨hfits, h.fits⟩) ?_ b
      rw [tokensWeight_cons]
      exact Nat.le_trans (Nat.add_le_add_right htoken _) hweight

/-- At the closing quote, the octets of a string are those of its text. -/
theorem weight_text_decode_le (content : Bytes) :
    (Token.text (Utf8.decode content.reverse)).weight ≤ 2 + octetsPrice content := by
  cases hdecode : Utf8.decode content.reverse with
  | error fault => exact Nat.zero_le _
  | ok t =>
    have hencode := (Utf8.encode_of_decode hdecode).2
    refine Nat.le_of_eq ?_
    show 2 + octetsPrice (Utf8.encode t) = _
    rw [hencode, octetsPrice_reverse]

theorem within_step_text {content : Bytes} (h : Within consumed ⟨.text content, tokens⟩)
    (b : UInt8) : (step ⟨.text content, tokens⟩ b).Within (consumed + 1) := by
  have hweight : 1 + octetsPrice content + tokensWeight tokens ≤ consumed := h.weight
  simp only [step, beq_iff_eq]
  split
  · have htext := weight_text_decode_le content
    refine ⟨trivial, List.forall_mem_cons.2 ⟨trivial, h.fits⟩, ?_⟩
    simp only [Scan.weight, tokensWeight_cons]
    omega
  rename_i hquote
  split
  · exact ⟨trivial, h.fits, by simp only [Scan.weight]; omega⟩
  rename_i hbackslash
  split
  · exact h.stop
  · rename_i hlow
    refine within_text h.fits ?_
    rw [octetsPrice_cons, octetPrice_of_isRaw ⟨hquote, hbackslash, Nat.not_lt.1 hlow⟩]
    omega

theorem within_step_escape {content : Bytes} (h : Within consumed ⟨.escape content, tokens⟩)
    (b : UInt8) : (step ⟨.escape content, tokens⟩ b).Within (consumed + 1) := by
  have hweight : 2 + octetsPrice content + tokensWeight tokens ≤ consumed := h.weight
  simp only [step]
  split
  · refine ⟨⟨by decide, by decide, by simp⟩, h.fits, ?_⟩
    simp only [Scan.weight, Scan.escapeWeight]
    omega
  split
  · rename_i c hc
    have hprice := octetPrice_escaped? hc
    refine within_text h.fits ?_
    rw [octetsPrice_cons]
    omega
  · exact h.stop

theorem within_step_hex {content : Bytes} {high : Option Nat} {missing value : Nat}
    (h : Within consumed ⟨.hex content high missing value, tokens⟩) (b : UInt8) :
    (step ⟨.hex content high missing value, tokens⟩ b).Within (consumed + 1) := by
  obtain ⟨⟨hsome, hfour⟩, hvalue, hhigh⟩ : (1 ≤ missing ∧ missing ≤ 4) ∧
    value < 16 ^ (4 - missing) ∧ ∀ h, high = some h → h < 0xDC00 := h.sound
  have hweight : Scan.escapeWeight high + (4 - missing) + octetsPrice content +
    tokensWeight tokens ≤ consumed := h.weight
  simp only [step]
  split
  · exact h.stop
  rename_i d hd
  have hlt := digit?_hex_lt hd
  split
  · rename_i hlast
    obtain rfl : missing = 1 := Nat.le_antisymm hlast hsome
    have hthree : value < 4096 := hvalue
    exact within_endEscape h.fits (by omega) hhigh (by omega)
  · rename_i hmore
    have hpow : 16 ^ (4 - (missing - 1)) = 16 ^ (4 - missing) * 16 := by
      rw [← Nat.pow_succ, show 4 - (missing - 1) = (4 - missing) + 1 by omega]
    refine ⟨⟨⟨by omega, by omega⟩, by rw [hpow]; omega, hhigh⟩, h.fits, ?_⟩
    simp only [Scan.weight]
    omega

/-- One octet adds at most one to what the lexer holds. -/
theorem within_step {l : Lexer} (h : l.Within consumed) (b : UInt8) :
    (l.step b).Within (consumed + 1) := by
  obtain ⟨scan, tokens⟩ := l
  cases scan with
  | between =>
    exact within_begin h.fits (Nat.le_trans (Nat.le_add_left _ _) h.weight) b
  | word expected token => exact within_step_word h b
  | number n => exact within_step_number h b
  | text content => exact within_step_text h b
  | escape content => exact within_step_escape h b
  | hex content high missing value => exact within_step_hex h b
  | lowBackslash content high =>
    have hweight : 7 + octetsPrice content + tokensWeight tokens ≤ consumed := h.weight
    simp only [step]
    split
    · exact ⟨h.sound, h.fits, by simp only [Scan.weight]; omega⟩
    · exact h.stop
  | lowLetter content high =>
    have hweight : 8 + octetsPrice content + tokensWeight tokens ≤ consumed := h.weight
    simp only [step]
    split
    · refine ⟨⟨by decide, by decide, fun x hx => ?_⟩, h.fits, ?_⟩
      · cases hx
        exact h.sound
      · simp only [Scan.weight, Scan.escapeWeight]
        omega
    · exact h.stop
  | stopped => exact ⟨trivial, h.fits, Nat.le_succ_of_le h.weight⟩

/-- A run adds at most its length. -/
theorem within_foldl {l : Lexer} (h : l.Within consumed) (bytes : Bytes) :
    (bytes.foldl step l).Within (consumed + bytes.length) := by
  induction bytes generalizing l consumed with
  | nil => exact h
  | cons b bytes ih =>
    rw [List.foldl_cons, List.length_cons, Nat.add_comm bytes.length, ← Nat.add_assoc]
    exact ih (within_step h b)

/-- What is begun when the text ends is a number or no token. -/
theorem finish_bounds {l : Lexer} (h : l.Within consumed) :
    tokensWeight l.finish ≤ consumed ∧ ∀ token ∈ l.finish, token.Fits := by
  have hadd (token : Token) (hweight : token.weight ≤ l.scan.weight) (hfits : token.Fits) :
      tokensWeight (token :: l.tokens).reverse ≤ consumed ∧
        ∀ t ∈ (token :: l.tokens).reverse, t.Fits := by
    rw [tokensWeight_reverse, tokensWeight_cons]
    refine ⟨Nat.le_trans (Nat.add_le_add_right hweight _) h.weight, fun t ht => ?_⟩
    exact List.forall_mem_cons.2 ⟨hfits, h.fits⟩ t (List.mem_reverse.1 ht)
  have hdone : tokensWeight l.tokens.reverse ≤ consumed ∧
      ∀ token ∈ l.tokens.reverse, token.Fits := by
    rw [tokensWeight_reverse]
    exact ⟨Nat.le_trans (Nat.le_add_left _ _) h.weight,
      fun t ht => h.fits t (List.mem_reverse.1 ht)⟩
  unfold finish
  split
  · exact hdone
  · exact hdone
  · rename_i n hscan
    have hsound := h.sound
    rw [hscan] at hsound
    obtain ⟨hweight, hfits⟩ := NumberScan.token_bounds hsound
    exact hadd n.token (by rw [hscan]; exact hweight) hfits
  · exact hadd .bad (Nat.zero_le _) trivial

end Steps

end Lexer

/-- The tokens of octets weigh no more than there are octets, and fit. -/
theorem lex_bounds (bytes : Bytes) :
    tokensWeight (lex bytes) ≤ bytes.length ∧ ∀ token ∈ lex bytes, token.Fits := by
  have hstart : Lexer.Within 0 ⟨.between, []⟩ := ⟨trivial, nofun, Nat.le_refl _⟩
  have hrun := Lexer.within_foldl hstart bytes
  rw [Nat.zero_add] at hrun
  exact Lexer.finish_bounds hrun

/-! ## The weight of the parser -/

open Value (itemsWeight entriesWeight)

/-- The octets of an open container whose next value is awaited. -/
def Frame.weight : Frame → Nat
  | .array items => 1 + itemsWeight items
  | .object entries key => 2 + Text.weight key + entriesWeight entries

/-- The octets of open containers. -/
def stackWeight (stack : List Frame) : Nat := (stack.map Frame.weight).sum

@[simp] theorem stackWeight_cons (frame : Frame) (stack : List Frame) :
    stackWeight (frame :: stack) = frame.weight + stackWeight stack := by
  rw [stackWeight, List.map_cons, List.sum_cons, stackWeight]

namespace Reader

/-- The octets that the tokens so far have at least. After a value the next comma is missing, before
a colon the colon and before a key the key too. -/
def weight : Reader → Nat
  | .reading (.array items :: stack) .separator => max 1 (itemsWeight items) + stackWeight stack
  | .reading (.object entries _ :: stack) .separator =>
    max 1 (entriesWeight entries) + stackWeight stack
  | .reading (.object entries key :: stack) .colon =>
    1 + Text.weight key + entriesWeight entries + stackWeight stack
  | .reading (.object entries _ :: stack) .key => 1 + entriesWeight entries + stackWeight stack
  | .reading (.object entries _ :: stack) .firstKey => 1 + entriesWeight entries + stackWeight stack
  | .reading stack _ => stackWeight stack
  | .finished v => v.weight
  | .failed _ => 0

/-- Where a value is awaited, every open container counts in full. -/
theorem weight_awaiting (stack : List Frame) :
    (reading stack .value).weight = stackWeight stack ∧
      (reading stack .firstItem).weight = stackWeight stack := by
  match stack with
  | [] => exact ⟨rfl, rfl⟩
  | .array _ :: _ => exact ⟨rfl, rfl⟩
  | .object _ _ :: _ => exact ⟨rfl, rfl⟩

theorem weight_complete_le (v : Value) (stack : List Frame) :
    (complete v stack).weight ≤ stackWeight stack + v.weight := by
  match stack with
  | [] => exact Nat.le_add_left _ _
  | .array items :: stack =>
    simp only [complete, weight, stackWeight_cons, Frame.weight, itemsWeight]
    omega
  | .object entries key :: stack =>
    simp only [complete, weight, stackWeight_cons, Frame.weight, entriesWeight]
    omega

theorem weight_enter_le {stack : List Frame} {frame : Frame} {expect : Expect}
    (h : (reading (frame :: stack) expect).weight = 1 + stackWeight stack) :
    (enter stack frame expect).weight ≤ stackWeight stack + 1 := by
  unfold enter
  split
  · exact Nat.zero_le _
  · rw [h]
    omega

theorem weight_value_le (stack : List Frame) (token : Token) :
    (value stack token).weight ≤ stackWeight stack + token.weight := by
  cases token with
  | null => exact weight_complete_le .null stack
  | bool b => exact weight_complete_le (.bool b) stack
  | int n => exact weight_complete_le (.int n) stack
  | real x => exact weight_complete_le (.real x) stack
  | text t =>
    cases t with
    | ok t => exact weight_complete_le (.text t) stack
    | error fault => exact Nat.zero_le _
  | openArray => exact weight_enter_le rfl
  | openObject => exact weight_enter_le rfl
  | closeObject | closeArray | colon | comma | bad => exact Nat.zero_le _

theorem weight_key_le (stack : List Frame) (token : Token) :
    (key stack token).weight ≤ (reading stack .key).weight + token.weight := by
  unfold key
  split
  · simp only [weight, Token.weight]
    omega
  · exact Nat.zero_le _
  · exact Nat.zero_le _

/-- Closing a container pays for its second bracket. -/
theorem weight_close_le (stack : List Frame) (token : Token) :
    (close stack token).weight ≤ (reading stack .separator).weight + token.weight := by
  unfold close
  split
  · rename_i items stack
    refine Nat.le_trans (weight_complete_le _ stack) ?_
    rw [Value.weight_list, Value.itemsWeight_reverse]
    simp only [weight, Token.weight]
    omega
  · rename_i entries key stack
    have hlist := Entries.entriesWeight_ofList_le entries.reverse
    rw [Value.entriesWeight_reverse] at hlist
    refine Nat.le_trans (weight_complete_le _ stack) ?_
    rw [Value.weight_object]
    simp only [weight, Token.weight]
    omega
  · exact Nat.zero_le _

theorem weight_separator_le (stack : List Frame) (token : Token) :
    (separator stack token).weight ≤ (reading stack .separator).weight + token.weight := by
  unfold separator
  split
  · simp only [weight, stackWeight_cons, Frame.weight, Token.weight]
    omega
  · simp only [weight, Token.weight]
    omega
  · exact weight_close_le stack token

/-- A container that closes before its first value weighs no less than one that closes later. -/
theorem weight_separator_le_first (stack : List Frame) :
    (reading stack .separator).weight ≤ (reading stack .firstItem).weight ∧
      (reading stack .separator).weight ≤ (reading stack .firstKey).weight := by
  match stack with
  | [] => exact ⟨Nat.le_refl _, Nat.le_refl _⟩
  | .array items :: stack =>
    simp only [weight, stackWeight_cons, Frame.weight]
    omega
  | .object entries key :: stack =>
    simp only [weight, stackWeight_cons, Frame.weight]
    omega

/-- A token adds at most its weight. -/
theorem weight_step_le (r : Reader) (token : Token) :
    (r.step token).weight ≤ r.weight + token.weight := by
  match r with
  | .reading stack .value =>
    rw [(weight_awaiting stack).1]
    exact weight_value_le stack token
  | .reading stack .firstItem =>
    simp only [step]
    split
    · exact Nat.le_trans (weight_close_le stack _)
        (Nat.add_le_add_right (weight_separator_le_first stack).1 _)
    · rw [(weight_awaiting stack).2]
      exact weight_value_le stack token
  | .reading stack .firstKey =>
    have hkey : (reading stack .firstKey).weight = (reading stack .key).weight := by
      match stack with
      | [] => rfl
      | .array _ :: _ => rfl
      | .object _ _ :: _ => rfl
    simp only [step]
    split
    · exact Nat.le_trans (weight_close_le stack _)
        (Nat.add_le_add_right (weight_separator_le_first stack).2 _)
    · rw [hkey]
      exact weight_key_le stack token
  | .reading stack .key => exact weight_key_le stack token
  | .reading stack .colon =>
    simp only [step]
    split
    · match stack with
      | [] => exact Nat.le_add_right _ _
      | .array _ :: _ => exact Nat.le_add_right _ _
      | .object _ _ :: _ =>
        simp only [weight, stackWeight_cons, Frame.weight, Token.weight]
        omega
    · exact Nat.zero_le _
  | .reading stack .separator => exact weight_separator_le stack token
  | .finished _ => exact Nat.zero_le _
  | .failed _ => exact Nat.zero_le _

/-- Tokens add at most their weight. -/
theorem weight_foldl_le (r : Reader) (tokens : List Token) :
    (tokens.foldl step r).weight ≤ r.weight + tokensWeight tokens := by
  induction tokens generalizing r with
  | nil => exact Nat.le_refl _
  | cons token tokens ih =>
    have hstep := weight_step_le r token
    have hrest := ih (r.step token)
    rw [List.foldl_cons, tokensWeight_cons]
    omega

end Reader

theorem finished_of_parse {bytes : Bytes} {v : Value} (h : parse bytes = .ok v) :
    (lex bytes).foldl Reader.step (.reading [] .value) = .finished v := by
  rw [parse, ofTokens] at h
  cases hr : (lex bytes).foldl Reader.step (.reading [] .value) with
  | reading stack expect =>
    rw [hr] at h
    cases h
  | failed fault =>
    rw [hr] at h
    cases h
  | finished w =>
    rw [hr] at h
    cases h
    rfl

/-- A value that was parsed weighs no more than its text has octets. -/
theorem weight_le_of_parse {bytes : Bytes} {v : Value} (h : parse bytes = .ok v) :
    v.weight ≤ bytes.length := by
  have hrun := Reader.weight_foldl_le (.reading [] .value) (lex bytes)
  have hstart : (Reader.reading [] .value).weight = 0 := rfl
  rw [finished_of_parse h, hstart, Nat.zero_add] at hrun
  exact Nat.le_trans hrun (lex_bounds bytes).1

end CircuitAbi.Json

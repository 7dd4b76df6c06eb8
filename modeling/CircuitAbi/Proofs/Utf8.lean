import CircuitAbi.Text.Utf8
import Mathlib.Data.List.TakeWhile

/-!
# UTF-8 is read back

Principal results:

* `decode_encode` — the octets of Unicode text decode to the text.
* `encode_of_decode` — octets that decode are the octets of the text, and the text is Unicode.

Together: decoding accepts exactly the octets of Unicode text, each as one text.
-/

set_option autoImplicit false

namespace CircuitAbi.Utf8

/-! ## The octets of a character, by their number -/

theorem encodeScalar_one {c : Nat} (h : c < 0x80) : encodeScalar c = [UInt8.ofNat c] := if_pos h

theorem encodeScalar_two {c : Nat} (h : 0x80 ≤ c) (h' : c < 0x800) :
    encodeScalar c = [UInt8.ofNat (0xC0 + c / 64), UInt8.ofNat (0x80 + c % 64)] := by
  rw [encodeScalar, if_neg (Nat.not_lt.2 h), if_pos h']

theorem encodeScalar_three {c : Nat} (h : 0x800 ≤ c) (h' : c < 0x10000) :
    encodeScalar c = [UInt8.ofNat (0xE0 + c / 4096), UInt8.ofNat (0x80 + c / 64 % 64),
      UInt8.ofNat (0x80 + c % 64)] := by
  rw [encodeScalar, if_neg (Nat.not_lt.2 (Nat.le_trans (by decide) h)), if_neg (Nat.not_lt.2 h),
    if_pos h']

theorem encodeScalar_four {c : Nat} (h : 0x10000 ≤ c) :
    encodeScalar c = [UInt8.ofNat (0xF0 + c / 262144), UInt8.ofNat (0x80 + c / 4096 % 64),
      UInt8.ofNat (0x80 + c / 64 % 64), UInt8.ofNat (0x80 + c % 64)] := by
  rw [encodeScalar, if_neg (Nat.not_lt.2 (Nat.le_trans (by decide) h)),
    if_neg (Nat.not_lt.2 (Nat.le_trans (by decide) h)), if_neg (Nat.not_lt.2 h)]

theorem isScalar_iff {c : Nat} :
    Text.isScalar c = true ↔ c < 0xD800 ∨ (0xE000 ≤ c ∧ c < 0x110000) := by
  simp [Text.isScalar]

/-- Unicode text has no surrogate that would keep it from having a UTF-8 form. -/
theorem surrogateRun?_of_isUnicode {t : Text} (h : t.isUnicode = true) :
    surrogateRun? t = none := by
  have hdrop : t.dropWhile (!Text.isSurrogate ·) = [] := by
    refine List.dropWhile_eq_nil_iff.2 fun c hc => ?_
    have hscalar := isScalar_iff.1 (List.all_eq_true.1 h c hc)
    simp only [Text.isSurrogate, Bool.not_eq_true', Bool.and_eq_false_iff, decide_eq_false_iff_not,
      Nat.not_le, Nat.not_lt]
    exact hscalar.imp id And.left
  rw [surrogateRun?, hdrop]

theorem toNat_octet {n : Nat} (h : n < 256) : (UInt8.ofNat n).toNat = n := by
  rw [UInt8.toNat_ofNat']
  exact Nat.mod_eq_of_lt h

theorem length_encodeScalar (c : Nat) :
    0 < (encodeScalar c).length ∧ (encodeScalar c).length ≤ 4 := by
  unfold encodeScalar
  split
  · simp
  split
  · simp
  split <;> simp

/-! ## Encoded text decodes -/

/-- The octets of a character decode to it, whatever follows. -/
theorem decodeFrom_encodeScalar {c : Nat} (hc : Text.isScalar c = true) (position : Nat)
    (done : Text) (rest : Bytes) :
    ∃ next, decodeFrom position done none (encodeScalar c ++ rest) =
      decodeFrom next (c :: done) none rest := by
  rw [isScalar_iff] at hc
  by_cases h1 : c < 0x80
  · have ha := toNat_octet (n := c) (by omega)
    refine ⟨position + 1, ?_⟩
    rw [encodeScalar_one h1, List.cons_append, List.nil_append, decodeFrom, ha, if_pos h1]
  by_cases h2 : c < 0x800
  · have ha := toNat_octet (n := 0xC0 + c / 64) (by omega)
    have hb := toNat_octet (n := 0x80 + c % 64) (by omega)
    refine ⟨position + 1 + 1, ?_⟩
    rw [encodeScalar_two (by omega) h2]
    simp only [List.cons_append, List.nil_append, decodeFrom, lead?, ha]
    rw [if_neg (by omega), if_neg (by omega), if_pos (by omega)]
    simp only [hb, if_true]
    rw [if_pos (by omega), show (0xC0 + c / 64 - 0xC0) * 64 + (0x80 + c % 64 - 0x80) = c by omega]
  by_cases h3 : c < 0x10000
  · have ha := toNat_octet (n := 0xE0 + c / 4096) (by omega)
    have hb := toNat_octet (n := 0x80 + c / 64 % 64) (by omega)
    have hd := toNat_octet (n := 0x80 + c % 64) (by omega)
    refine ⟨position + 1 + 1 + 1, ?_⟩
    rw [encodeScalar_three (by omega) h3]
    simp only [List.cons_append, List.nil_append, decodeFrom, lead?, ha]
    rw [if_neg (by omega), if_neg (by omega), if_neg (by omega), if_pos (by omega)]
    simp only [hb]
    rw [if_pos (by split <;> split <;> omega), if_neg (by omega)]
    simp only [hd, if_true]
    rw [if_pos (by omega), show ((0xE0 + c / 4096 - 0xE0) * 64 +
      (0x80 + c / 64 % 64 - 0x80)) * 64 + (0x80 + c % 64 - 0x80) = c by omega]
  · have ha := toNat_octet (n := 0xF0 + c / 262144) (by omega)
    have hb := toNat_octet (n := 0x80 + c / 4096 % 64) (by omega)
    have hd := toNat_octet (n := 0x80 + c / 64 % 64) (by omega)
    have he := toNat_octet (n := 0x80 + c % 64) (by omega)
    refine ⟨position + 1 + 1 + 1 + 1, ?_⟩
    rw [encodeScalar_four (by omega)]
    simp only [List.cons_append, List.nil_append, decodeFrom, lead?, ha]
    rw [if_neg (by omega), if_neg (by omega), if_neg (by omega), if_neg (by omega),
      if_pos (by omega)]
    simp only [hb]
    rw [if_pos (by split <;> split <;> omega), if_neg (by omega)]
    simp only [hd]
    rw [if_pos (by omega), if_neg (by omega)]
    simp only [he, if_true]
    rw [if_pos (by omega), show (((0xF0 + c / 262144 - 0xF0) * 64 +
      (0x80 + c / 4096 % 64 - 0x80)) * 64 + (0x80 + c / 64 % 64 - 0x80)) * 64 +
      (0x80 + c % 64 - 0x80) = c by omega]

theorem encode_cons (c : CodePoint) (t : Text) : encode (c :: t) = encodeScalar c ++ encode t := rfl

theorem encode_append (s t : Text) : encode (s ++ t) = encode s ++ encode t := by
  simp [encode]

theorem decodeFrom_encode (t : Text) (ht : t.isUnicode = true) (position : Nat) (done : Text) :
    decodeFrom position done none (encode t) = .ok (done.reverse ++ t) := by
  induction t generalizing position done with
  | nil => simp [encode, decodeFrom]
  | cons c t ih =>
    simp only [Text.isUnicode, List.all_cons, Bool.and_eq_true] at ht
    obtain ⟨next, h⟩ := decodeFrom_encodeScalar ht.1 position done (encode t)
    rw [encode_cons, h, ih ht.2]
    simp

/-- **The octets of Unicode text decode to the text.** -/
theorem decode_encode {t : Text} (ht : t.isUnicode = true) : decode (encode t) = .ok t :=
  decodeFrom_encode t ht 0 []

/-! ## Decoded octets are those of the text -/

theorem octet_eq {b : UInt8} {n : Nat} (h : b.toNat = n) : b = UInt8.ofNat n := by
  subst h
  exact UInt8.ofNat_toNat.symm

/-- A character goes on with an octet in its bounds, which completes it or leaves one less to
come. -/
theorem pending_of_decodeFrom {p : Pending} {position : Nat} {done t : Text} {bs : Bytes}
    (h : decodeFrom position done (some p) bs = .ok t) :
    ∃ b rest, bs = b :: rest ∧ p.low ≤ b.toNat ∧ b.toNat ≤ p.high ∧
      (if p.missing = 1 then
        decodeFrom (position + 1) ((p.bits * 64 + (b.toNat - 0x80)) :: done) none rest
      else
        decodeFrom (position + 1) done (some ⟨p.missing - 1, 0x80, 0xBF,
          p.bits * 64 + (b.toNat - 0x80), p.taken + 1, p.first⟩) rest) = .ok t := by
  cases bs with
  | nil => simp [decodeFrom] at h
  | cons b rest =>
    simp only [decodeFrom] at h
    split at h
    · rename_i hb
      exact ⟨b, rest, rfl, hb.1, hb.2, h⟩
    · cases h

/-- Octets that decode begin with those of a character. -/
theorem scalar_of_decodeFrom {position : Nat} {done t : Text} {b : UInt8} {bs : Bytes}
    (h : decodeFrom position done none (b :: bs) = .ok t) :
    ∃ c next rest, Text.isScalar c = true ∧ b :: bs = encodeScalar c ++ rest ∧
      decodeFrom next (c :: done) none rest = .ok t := by
  simp only [decodeFrom] at h
  split at h
  · rename_i hb
    refine ⟨b.toNat, position + 1, bs, isScalar_iff.2 (by omega), ?_, h⟩
    rw [encodeScalar_one hb, ← octet_eq rfl]
    rfl
  rename_i hb
  split at h
  · cases h
  rename_i p hp
  simp only [lead?] at hp
  split at hp
  · cases hp
  rename_i hc2
  split at hp
  · -- two octets
    rename_i he0
    cases hp
    obtain ⟨b₁, rest, rfl, hl, hh, h⟩ := pending_of_decodeFrom h
    simp only [if_true] at hl hh h
    refine ⟨_, _, rest, isScalar_iff.2 ?_, ?_, h⟩
    · omega
    · rw [encodeScalar_two (by omega) (by omega), ← octet_eq (b := b) (by omega),
        ← octet_eq (b := b₁) (by omega)]
      rfl
  rename_i he0
  split at hp
  · -- three octets, the second narrowed after `E0` and `ED`
    rename_i hf0
    cases hp
    obtain ⟨b₁, tail₁, rfl, hl, hh, h⟩ := pending_of_decodeFrom h
    simp only [show ¬(2 = 1) by decide, if_false] at hl hh h
    obtain ⟨b₂, rest, rfl, hl₂, hh₂, h⟩ := pending_of_decodeFrom h
    simp only [if_true] at hl₂ hh₂ h
    have hlow : 0x80 ≤ b₁.toNat ∧ (b.toNat = 0xE0 → 0xA0 ≤ b₁.toNat) := by split at hl <;> omega
    have hhigh : b₁.toNat ≤ 0xBF ∧ (b.toNat = 0xED → b₁.toNat ≤ 0x9F) := by split at hh <;> omega
    refine ⟨_, _, rest, isScalar_iff.2 ?_, ?_, h⟩
    · omega
    · rw [encodeScalar_three (by omega) (by omega),
        ← octet_eq (b := b) (by omega), ← octet_eq (b := b₁) (by omega),
        ← octet_eq (b := b₂) (by omega)]
      rfl
  rename_i hf0
  split at hp
  · -- four octets, the second narrowed after `F0` and `F4`
    rename_i hf5
    cases hp
    obtain ⟨b₁, tail₁, rfl, hl, hh, h⟩ := pending_of_decodeFrom h
    simp only [show ¬(3 = 1) by decide, if_false] at hl hh h
    obtain ⟨b₂, tail₂, rfl, hl₂, hh₂, h⟩ := pending_of_decodeFrom h
    simp only [show ¬(3 - 1 = 1) by decide, if_false] at hl₂ hh₂ h
    obtain ⟨b₃, rest, rfl, hl₃, hh₃, h⟩ := pending_of_decodeFrom h
    simp only [if_true] at hl₃ hh₃ h
    have hlow : 0x80 ≤ b₁.toNat ∧ (b.toNat = 0xF0 → 0x90 ≤ b₁.toNat) := by split at hl <;> omega
    have hhigh : b₁.toNat ≤ 0xBF ∧ (b.toNat = 0xF4 → b₁.toNat ≤ 0x8F) := by split at hh <;> omega
    refine ⟨_, _, rest, isScalar_iff.2 ?_, ?_, h⟩
    · omega
    · rw [encodeScalar_four (by omega),
        ← octet_eq (b := b) (by omega), ← octet_eq (b := b₁) (by omega),
        ← octet_eq (b := b₂) (by omega), ← octet_eq (b := b₃) (by omega)]
      rfl
  · cases hp

theorem encode_of_decodeFrom {bs : Bytes} {position : Nat} {done t : Text}
    (h : decodeFrom position done none bs = .ok t) :
    ∃ u, t = done.reverse ++ u ∧ u.isUnicode = true ∧ encode u = bs := by
  cases bs with
  | nil =>
    simp only [decodeFrom, Except.ok.injEq] at h
    exact ⟨[], by simp [h], rfl, rfl⟩
  | cons b bs =>
    obtain ⟨c, next, rest, hc, hbs, h⟩ := scalar_of_decodeFrom h
    have hshort : rest.length < (b :: bs).length := by
      have hlength := (length_encodeScalar c).1
      rw [hbs, List.length_append]
      omega
    obtain ⟨u, rfl, hu, henc⟩ := encode_of_decodeFrom h
    refine ⟨c :: u, by simp, ?_, ?_⟩
    · simp only [Text.isUnicode, List.all_cons, hc, Bool.true_and] at hu ⊢
      exact hu
    · rw [encode_cons, henc, hbs]
termination_by bs.length

/-- **Octets that decode are the octets of the text, and the text is Unicode.** -/
theorem encode_of_decode {bs : Bytes} {t : Text} (h : decode bs = .ok t) :
    t.isUnicode = true ∧ encode t = bs := by
  obtain ⟨u, rfl, hu, henc⟩ := encode_of_decodeFrom h
  exact ⟨hu, henc⟩

end CircuitAbi.Utf8

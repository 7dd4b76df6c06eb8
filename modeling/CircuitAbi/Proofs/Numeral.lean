import CircuitAbi.Limit
import Mathlib.Algebra.Ring.Nat
import Mathlib.Data.List.Induction

/-!
# Decimal digits

The digits of a number as numbers, the leading one first, and how many there are.

* `Decimal.value_digits` — the digits of a number denote it.
* `Decimal.length_digits_value_le` — no digits that denote a number are fewer than its own.
* `Decimal.fits_iff` — what the limit on digits bounds.
-/

set_option autoImplicit false

namespace CircuitAbi.Decimal

/-- The decimal digits of a number, the leading one first. -/
def digits (n : Nat) : List Nat := (Nat.toDigits 10 n).map fun c => c.toNat - 48

theorem digits_of_lt {n : Nat} (h : n < 10) : digits n = [n] := by
  rw [digits, Nat.toDigits_of_lt_base h, List.map_singleton, Nat.toNat_digitChar_sub_48_of_lt_ten h]

theorem digits_of_le {n : Nat} (h : 10 ≤ n) : digits n = digits (n / 10) ++ [n % 10] := by
  rw [digits, Nat.toDigits_of_base_le (by decide) h, List.map_append, List.map_singleton,
    Nat.toNat_digitChar_sub_48_of_lt_ten (Nat.mod_lt n (by decide)), digits]

theorem length_digits_le_iff {n k : Nat} (hk : 0 < k) : (digits n).length ≤ k ↔ n < 10 ^ k := by
  rw [digits, List.length_map]
  exact Nat.length_toDigits_le_iff (by decide) hk

theorem ofNat_eq_map_digits (n : Nat) : ofNat n = (digits n).map (48 + ·) := by
  rw [ofNat, digits, List.map_map]
  apply List.map_congr_left
  intro c hc
  have hdigit := Nat.isDigit_of_mem_toDigits (by decide) (by decide) hc
  simp only [Char.isDigit, Bool.and_eq_true, decide_eq_true_eq, UInt32.le_iff_toNat_le] at hdigit
  have hlow : 48 ≤ c.toNat := hdigit.1
  exact (Nat.add_sub_cancel' hlow).symm

theorem length_ofNat (n : Nat) : (ofNat n).length = (digits n).length := by
  rw [ofNat_eq_map_digits, List.length_map]

theorem digits_lt (n : Nat) : ∀ d ∈ digits n, d < 10 := by
  induction n using Nat.strongRecOn with
  | ind n ih =>
    by_cases h : n < 10
    · rw [digits_of_lt h]
      simpa using h
    · rw [digits_of_le (by omega)]
      intro d hd
      rcases List.mem_append.1 hd with hd | hd
      · exact ih (n / 10) (by omega) d hd
      · rw [List.mem_singleton.1 hd]
        exact Nat.mod_lt n (by decide)

/-- A natural number is printed with digits, `0` (48) to `9` (57). -/
theorem mem_ofNat {n c : Nat} (h : c ∈ ofNat n) : 48 ≤ c ∧ c ≤ 57 := by
  rw [ofNat_eq_map_digits] at h
  obtain ⟨d, hd, hcode⟩ : ∃ d ∈ digits n, 48 + d = c := List.mem_map.1 h
  have hlt := digits_lt n d hd
  omega

/-- A numeral is ASCII. -/
theorem ofInt_ascii (n : Int) : ∀ c ∈ ofInt n, c < 0x80 := by
  have hnat (n : Nat) : ∀ c ∈ ofNat n, c < 0x80 := by
    intro c hc
    exact Nat.lt_of_le_of_lt (mem_ofNat hc).2 (by decide)
  cases n with
  | ofNat n => exact hnat n
  | negSucc n =>
    intro c hc
    rcases List.mem_cons.1 hc with rfl | hc
    · decide
    · exact hnat (n + 1) c hc

/-- The leading digit is zero only for zero itself. -/
theorem digits_eq_cons (n : Nat) : ∃ d ds, digits n = d :: ds ∧ (d = 0 → n = 0) := by
  induction n using Nat.strongRecOn with
  | ind n ih =>
    by_cases h : n < 10
    · exact ⟨n, [], digits_of_lt h, id⟩
    · obtain ⟨d, ds, hd, hzero⟩ := ih (n / 10) (by omega)
      refine ⟨d, ds ++ [n % 10], ?_, ?_⟩
      · rw [digits_of_le (by omega), hd, List.cons_append]
      · intro h0
        have := hzero h0
        omega

theorem value_append_singleton (base : Nat) (ds : List Nat) (d : Nat) :
    value base (ds ++ [d]) = base * value base ds + d := by
  simp [value]

/-- The digits of a number denote it. -/
theorem value_digits (n : Nat) : value 10 (digits n) = n := by
  induction n using Nat.strongRecOn with
  | ind n ih =>
    by_cases h : n < 10
    · rw [digits_of_lt h]
      simp [value]
    · rw [digits_of_le (by omega), value_append_singleton, ih (n / 10) (by omega)]
      omega

theorem value_lt {ds : List Nat} (h : ∀ d ∈ ds, d < 10) : value 10 ds < 10 ^ ds.length := by
  induction ds using List.reverseRecOn with
  | nil => simp [value]
  | append_singleton ds d ih =>
    have hd := h d (by simp)
    have hds := ih fun e he => h e (by simp [he])
    rw [value_append_singleton, List.length_append, List.length_singleton, Nat.pow_succ]
    omega

/-- No digits that denote a number are fewer than its own. -/
theorem length_digits_value_le {ds : List Nat} (hne : ds ≠ []) (h : ∀ d ∈ ds, d < 10) :
    (digits (value 10 ds)).length ≤ ds.length :=
  (length_digits_le_iff (List.length_pos_iff.2 hne)).2 (value_lt h)

/-- A number is within the limit on digits when it has few enough. -/
theorem fits_iff {n : Int} : fits n = true ↔ (digits n.natAbs).length ≤ digitLimit := by
  rw [length_digits_le_iff (by decide), fits, decide_eq_true_eq, Nat.pow_eq]

theorem fits_natCast_iff {n : Nat} : fits n = true ↔ n < 10 ^ digitLimit := by
  rw [fits_iff, Int.natAbs_natCast, length_digits_le_iff (by decide)]

theorem lt_of_le_digitLimit {n : Nat} (h : n ≤ digitLimit) : n < 10 ^ digitLimit :=
  Nat.lt_of_le_of_lt h (Nat.lt_pow_self (by decide))

end CircuitAbi.Decimal

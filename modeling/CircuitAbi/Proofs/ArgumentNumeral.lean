import CircuitAbi.Proofs.Checking
import CircuitAbi.Proofs.Numeral
import Mathlib.Data.Nat.Digits.Lemmas

/-!
# Numerals of arguments

Which texts are read as numbers, and as which. The grammars are stated without the reader, by what a
numeral looks like and what its digits denote; the reader takes a numeral with or without one
newline behind it (`Numeral.Ending`).

* `Decimal.IsNumeral.ofNat_read`, `Decimal.isNumeral_ofNat` — a decimal numeral is the print of the
  number that it denotes, and every print is a numeral.
* `Hexadecimal.denotes_iff` — hexadecimal digits denote a number exactly when they are, up to case,
  its padded print.
* `Checking.field_eq_ok_iff`, `Checking.uint_eq_ok_iff` — when a value is a field element or an
  unsigned integer, and which one.
-/

set_option autoImplicit false

namespace CircuitAbi

/-! ## Decimal numerals -/

namespace Decimal

/-- Zero, or a digit from `1` (49) to `9` (57) and any digits after it. -/
def IsNumeral (t : Text) : Prop :=
  t = "0" ∨ ∃ (d : Nat) (rest : List Nat), t = d :: rest ∧ (49 ≤ d ∧ d ≤ 57) ∧
    ∀ e ∈ rest, 48 ≤ e ∧ e ≤ 57

theorem read_ofNat (n : Nat) : read (ofNat n) = n := by
  rw [read, ofNat_eq_map_digits, List.map_map, List.map_congr_left (g := id), List.map_id,
    value_digits]
  intro d _
  exact Nat.add_sub_cancel_left 48 d

/-- Digits without a leading zero are the digits of the number that they denote. -/
theorem digits_value {ds : List Nat} (hne : ds ≠ []) (hlt : ∀ d ∈ ds, d < 10)
    (hhead : ds.head? ≠ some 0) : digits (value 10 ds) = ds := by
  induction ds using List.reverseRecOn with
  | nil => exact absurd rfl hne
  | append_singleton ds d ih =>
    have hd : d < 10 := hlt d (by simp)
    cases ds with
    | nil => simpa [value] using digits_of_lt hd
    | cons e es =>
      have hfront : digits (value 10 (e :: es)) = e :: es :=
        ih (List.cons_ne_nil e es) (fun x hx => hlt x (List.mem_append_left _ hx)) hhead
      -- the front does not denote zero, so the last digit is split off where it was put on
      have hpos : value 10 (e :: es) ≠ 0 := by
        intro hzero
        rw [hzero, digits_of_lt (by decide)] at hfront
        obtain ⟨rfl, -⟩ := List.cons.inj hfront
        exact hhead rfl
      rw [value_append_singleton, digits_of_le (by omega)]
      rw [Nat.mul_add_div (by decide), Nat.div_eq_of_lt hd, Nat.add_zero, hfront,
        Nat.mul_add_mod, Nat.mod_eq_of_lt hd]

/-- A numeral is what printing the number that it denotes produces. -/
theorem IsNumeral.ofNat_read {t : Text} (h : IsNumeral t) : ofNat (read t) = t := by
  rcases h with rfl | ⟨d, rest, rfl, hd, hrest⟩
  · rfl
  · have hall : ∀ c ∈ d :: rest, 48 ≤ c ∧ c ≤ 57 := by
      intro c hc
      rcases List.mem_cons.1 hc with rfl | hc
      · omega
      · exact hrest c hc
    have hdigits : digits (value 10 ((d :: rest).map (· - 48))) = (d :: rest).map (· - 48) := by
      refine digits_value (List.cons_ne_nil _ _) ?_ ?_
      · intro x hx
        obtain ⟨c, hc, rfl⟩ := List.mem_map.1 hx
        have := hall c hc
        omega
      · simp only [List.map_cons, List.head?_cons, ne_eq, Option.some.injEq]
        omega
    show ofNat (value 10 ((d :: rest).map (· - 48))) = d :: rest
    rw [ofNat_eq_map_digits, hdigits, List.map_map, List.map_congr_left (g := id), List.map_id]
    intro c hc
    exact Nat.add_sub_cancel' (hall c hc).1

theorem isNumeral_ofNat (n : Nat) : IsNumeral (ofNat n) := by
  by_cases hn : n = 0
  · exact .inl (hn ▸ rfl)
  · obtain ⟨d, ds, hds, hzero⟩ := digits_eq_cons n
    have hlt := digits_lt n
    rw [hds] at hlt
    have hd := hlt d List.mem_cons_self
    refine .inr ⟨48 + d, ds.map (48 + ·), ?_, ?_, ?_⟩
    · rw [ofNat_eq_map_digits, hds, List.map_cons]
    · have : d ≠ 0 := fun h => hn (hzero h)
      omega
    · intro c hc
      obtain ⟨e, he, rfl⟩ := List.mem_map.1 hc
      have := hlt e (List.mem_cons_of_mem d he)
      omega

/-- No numeral ends in a newline. -/
theorem IsNumeral.getLast?_ne {t : Text} (h : IsNumeral t) : t.getLast? ≠ some 10 := by
  intro hlast
  have hmem := List.mem_of_getLast? hlast
  rcases h with rfl | ⟨d, rest, rfl, hd, hrest⟩
  · exact absurd hmem (by decide)
  · rcases List.mem_cons.1 hmem with rfl | hmem
    · omega
    · have := hrest 10 hmem
      omega

theorem isDecimal_iff {t : Text} : Numeral.isDecimal t = true ↔ IsNumeral t := by
  have hdigit (e : Nat) : isDigit e = true ↔ 48 ≤ e ∧ e ≤ 57 := by simp [isDigit]
  cases t with
  | nil => simp [Numeral.isDecimal, IsNumeral]
  | cons d rest =>
    simp only [Numeral.isDecimal, IsNumeral, Bool.or_eq_true, beq_iff_eq, Bool.and_eq_true,
      decide_eq_true_eq, List.all_eq_true, hdigit]
    constructor
    · rintro (h | ⟨hd, hrest⟩)
      · exact .inl h
      · exact .inr ⟨d, rest, rfl, hd, hrest⟩
    · rintro (h | ⟨_, _, ⟨⟩, hd, hrest⟩)
      · exact .inl h
      · exact .inr ⟨hd, hrest⟩

end Decimal

/-! ## Hexadecimal digits -/

namespace Hexadecimal

/-- A hexadecimal digit of either case, and its value. -/
def IsDigit (c : CodePoint) (d : Nat) : Prop := d < 16 ∧ Text.asciiLower c = Text.hexDigit d

theorem digit?_eq_some_iff {c d : Nat} : digit? c = some d ↔ IsDigit c d := by
  have hdigit : IsDigit c d ↔ d < 16 ∧ (if 65 ≤ c ∧ c ≤ 90 then c + 32 else c) =
      if d < 10 then 48 + d else 97 + (d - 10) := by
    have hlower : Text.asciiLower c = if 65 ≤ c ∧ c ≤ 90 then c + 32 else c := by
      simp [Text.asciiLower]
    rw [IsDigit, hlower]
    rfl
  rw [hdigit]
  show (if 48 ≤ c ∧ c ≤ 57 then some (c - 48)
    else if 97 ≤ c ∧ c ≤ 102 then some (c - 97 + 10)
    else if 65 ≤ c ∧ c ≤ 70 then some (c - 65 + 10)
    else none) = some d ↔ _
  split
  · rw [Option.some.injEq]
    split <;> split <;> omega
  split
  · rw [Option.some.injEq]
    split <;> split <;> omega
  split
  · rw [Option.some.injEq]
    split <;> split <;> omega
  · simp only [reduceCtorEq, false_iff]
    split <;> split <;> omega

theorem mapM_digit?_eq_some_iff {t : Text} {ds : List Nat} :
    t.mapM digit? = some ds ↔ List.Forall₂ IsDigit t ds := by
  induction t generalizing ds with
  | nil => cases ds <;> simp
  | cons c t ih =>
    simp only [List.mapM_cons, Option.bind_eq_bind, Option.bind_eq_some_iff, ih,
      digit?_eq_some_iff, Option.pure_def, Option.some.injEq, List.forall₂_cons_left_iff]
    constructor
    · rintro ⟨d, hd, rest, hrest, rfl⟩
      exact ⟨d, rest, hd, hrest, rfl⟩
    · rintro ⟨d, rest, hd, hrest, rfl⟩
      exact ⟨d, hd, rest, hrest, rfl⟩

/-- Hexadecimal digits of either case, the leading one first, and the number that they denote. -/
def Denotes (t : Text) (n : Nat) : Prop :=
  ∃ ds, List.Forall₂ IsDigit t ds ∧ n = Nat.ofDigits 16 ds.reverse

theorem forall_lt_of_forall₂ {t : Text} {ds : List Nat} (h : List.Forall₂ IsDigit t ds) :
    ∀ d ∈ ds, d < 16 := by
  induction h with
  | nil => exact fun _ hd => nomatch hd
  | cons hd _ ih => exact List.forall_mem_cons.2 ⟨hd.1, ih⟩

theorem not_isDigit_newline (d : Nat) : ¬ IsDigit 10 d := by
  rw [← digit?_eq_some_iff]
  simp [digit?]

theorem newline_not_mem {t : Text} {ds : List Nat} (h : List.Forall₂ IsDigit t ds) : 10 ∉ t := by
  induction h with
  | nil => exact List.not_mem_nil
  | cons hd _ ih =>
    rw [List.mem_cons, not_or]
    refine ⟨?_, ih⟩
    rintro rfl
    exact not_isDigit_newline _ hd

theorem map_asciiLower_of_forall₂ {t : Text} {ds : List Nat} (h : List.Forall₂ IsDigit t ds) :
    t.map Text.asciiLower = ds.map Text.hexDigit := by
  induction h with
  | nil => rfl
  | cons hd _ ih => rw [List.map_cons, List.map_cons, hd.2, ih]

theorem value_eq_ofDigits (base : Nat) (ds : List Nat) :
    Decimal.value base ds = Nat.ofDigits base ds.reverse := by
  rw [Nat.ofDigits_eq_foldr, List.foldr_reverse, Decimal.value]
  simp only [Nat.add_comm, Nat.cast_id]

/-- Digits denote a number below the power of sixteen that has one digit more. -/
theorem Denotes.lt {t : Text} {n : Nat} (h : Denotes t n) : n < 16 ^ t.length := by
  obtain ⟨ds, hds, rfl⟩ := h
  rw [hds.length_eq, ← List.length_reverse]
  refine Nat.ofDigits_lt_base_pow_length (by decide) fun d hd => ?_
  exact forall_lt_of_forall₂ hds d (List.mem_reverse.1 hd)

theorem Denotes.isDigit {t : Text} {n : Nat} (h : Denotes t n) : ∀ c ∈ t, ∃ d, IsDigit c d := by
  obtain ⟨ds, hds, -⟩ := h
  induction hds with
  | nil => exact fun _ hc => nomatch hc
  | cons hd _ ih => exact List.forall_mem_cons.2 ⟨⟨_, hd⟩, ih⟩

theorem hexPadded_value {ds : List Nat} (h : ∀ d ∈ ds, d < 16) :
    Text.hexPadded ds.length (Decimal.value 16 ds) = ds.map Text.hexDigit := by
  induction ds using List.reverseRecOn with
  | nil => rfl
  | append_singleton ds d ih =>
    have hd : d < 16 := h d (by simp)
    rw [List.length_append, List.length_singleton, Decimal.value_append_singleton, Text.hexPadded,
      Nat.mul_add_div (by decide), Nat.div_eq_of_lt hd, Nat.add_zero, Nat.mul_add_mod,
      Nat.mod_eq_of_lt hd, ih fun e he => h e (by simp [he]), List.map_append, List.map_singleton]

/-- Digits are, up to case, the padded print of the number that they denote. -/
theorem Denotes.print {t : Text} {n : Nat} (h : Denotes t n) :
    t.map Text.asciiLower = Text.hexPadded t.length n := by
  obtain ⟨ds, hds, rfl⟩ := h
  rw [← value_eq_ofDigits, hds.length_eq, hexPadded_value (forall_lt_of_forall₂ hds)]
  exact map_asciiLower_of_forall₂ hds

/-- The digits of either case that denote a number are the texts whose padded print it is. -/
theorem denotes_iff {t : Text} {n : Nat} :
    Denotes t n ↔ n < 16 ^ t.length ∧ t.map Text.asciiLower = Text.hexPadded t.length n := by
  constructor
  · intro h
    exact ⟨h.lt, h.print⟩
  · rintro ⟨hlt, hprint⟩
    -- the padded print puts its last digit behind the print of the quotient
    induction t using List.reverseRecOn generalizing n with
    | nil => exact ⟨[], .nil, Nat.lt_one_iff.1 hlt⟩
    | append_singleton t c ih =>
      rw [List.length_append, List.length_singleton, Nat.pow_succ] at hlt
      rw [List.length_append, List.length_singleton, List.map_append, List.map_singleton,
        Text.hexPadded] at hprint
      obtain ⟨hfront, hlast⟩ := List.append_inj' hprint rfl
      obtain ⟨ds, hds, hn⟩ := ih (Nat.div_lt_of_lt_mul (Nat.mul_comm _ _ ▸ hlt)) hfront
      have hdigit : IsDigit c (n % 16) := ⟨Nat.mod_lt n (by decide), List.cons.inj hlast |>.1⟩
      refine ⟨ds ++ [n % 16], List.rel_append hds (.cons hdigit .nil), ?_⟩
      rw [List.reverse_append, List.reverse_singleton, List.singleton_append, Nat.ofDigits_cons,
        ← hn, Nat.mod_add_div]

end Hexadecimal

/-! ## Endings -/

namespace Numeral

/-- What may stand behind a numeral: nothing, or one newline. -/
def Ending (e : Text) : Prop := e = [] ∨ e = "\n"

theorem dropFinalNewline_eq_iff {t u : Text} (h : u.getLast? ≠ some 10) :
    dropFinalNewline t = u ↔ ∃ e, Ending e ∧ t = u ++ e := by
  unfold dropFinalNewline
  split
  · rename_i hlast
    obtain ⟨front, rfl⟩ := List.getLast?_eq_some_iff.1 hlast
    rw [List.dropLast_concat]
    constructor
    · rintro rfl
      exact ⟨_, .inr rfl, rfl⟩
    · rintro ⟨e, rfl | rfl, he⟩
      · rw [List.append_nil] at he
        exact absurd (he ▸ hlast) h
      · exact (List.append_inj' he rfl).1
  · rename_i hlast
    constructor
    · rintro rfl
      exact ⟨[], .inl rfl, (List.append_nil _).symm⟩
    · rintro ⟨e, rfl | rfl, rfl⟩
      · exact List.append_nil u
      · exact absurd List.getLast?_concat hlast

theorem decimal?_eq_some_iff {t u : Text} :
    decimal? t = some u ↔ Decimal.IsNumeral u ∧ ∃ e, Ending e ∧ t = u ++ e := by
  have hsome : decimal? t = some u ↔ dropFinalNewline t = u ∧ isDecimal u = true := by
    simp only [decimal?, Option.ite_none_right_eq_some, Option.some.injEq]
    constructor
    · rintro ⟨h, rfl⟩
      exact ⟨rfl, h⟩
    · rintro ⟨rfl, h⟩
      exact ⟨h, rfl⟩
  rw [hsome, Decimal.isDecimal_iff, and_comm]
  exact and_congr_right fun hu => dropFinalNewline_eq_iff hu.getLast?_ne

theorem hexadecimal?_eq_some_iff {t : Text} {ds : List Nat} :
    hexadecimal? t = some ds ↔ ∃ digits e, digits ≠ [] ∧
      List.Forall₂ Hexadecimal.IsDigit digits ds ∧ Ending e ∧ t = "0x" ++ digits ++ e := by
  have hlast {digits : Text} (hne : digits ≠ []) (h : List.Forall₂ Hexadecimal.IsDigit digits ds) :
      ("0x" ++ digits : Text).getLast? ≠ some 10 := by
    rw [List.getLast?_append_of_ne_nil _ hne]
    exact fun hnewline => Hexadecimal.newline_not_mem h (List.mem_of_getLast? hnewline)
  constructor
  · intro h
    unfold hexadecimal? at h
    split at h
    · rename_i c rest hdrop
      have hdigits := Hexadecimal.mapM_digit?_eq_some_iff.1 h
      have hne := List.cons_ne_nil c rest
      obtain ⟨e, he, rfl⟩ := (dropFinalNewline_eq_iff (hlast hne hdigits)).1 hdrop
      exact ⟨c :: rest, e, hne, hdigits, he, rfl⟩
    · cases h
  · rintro ⟨digits, e, hne, hdigits, he, rfl⟩
    have hdrop : dropFinalNewline ("0x" ++ digits ++ e) = "0x" ++ digits :=
      (dropFinalNewline_eq_iff (hlast hne hdigits)).2 ⟨e, he, rfl⟩
    rw [hexadecimal?, hdrop]
    cases digits with
    | nil => exact absurd rfl hne
    | cons c rest => exact Hexadecimal.mapM_digit?_eq_some_iff.2 hdigits

end Numeral

/-! ## Scalars -/

namespace Checking

theorem inField_eq_ok_iff {m n : Int} {a : Argument} :
    inField m n = .ok a ↔ (0 ≤ n ∧ n < m) ∧ a = .int n := by
  unfold inField
  split
  · simp only [fail, reduceCtorEq, false_iff]
    omega
  · simp only [Except.ok.injEq]
    constructor
    · rintro rfl
      exact ⟨by omega, rfl⟩
    · rintro ⟨-, rfl⟩
      rfl

/-- **Field elements**: a whole number, or its decimal numeral with few enough digits and maybe a
newline behind it, from zero to below the modulus. -/
theorem field_eq_ok_iff {m : Int} {v : Value} {a : Argument} :
    field m v = .ok a ↔ ∃ n : Nat, n < m ∧ a = .int n ∧ (v = .int n ∨
      (Decimal.ofNat n).length ≤ digitLimit ∧
        ∃ e, Numeral.Ending e ∧ v = .text (Decimal.ofNat n ++ e)) := by
  cases v with
  | int k =>
    simp only [field, inField_eq_ok_iff, Value.int.injEq, reduceCtorEq, and_false, exists_false,
      or_false]
    constructor
    · rintro ⟨⟨hlow, hhigh⟩, rfl⟩
      lift k to Nat using hlow
      exact ⟨k, hhigh, rfl, rfl⟩
    · rintro ⟨n, hn, rfl, rfl⟩
      exact ⟨⟨Int.natCast_nonneg n, hn⟩, rfl⟩
  | text t =>
    simp only [field, reduceCtorEq, Value.text.injEq, false_or]
    constructor
    · intro h
      split at h
      · cases h
      rename_i digits hdigits
      obtain ⟨hnumeral, e, he, rfl⟩ := Numeral.decimal?_eq_some_iff.1 hdigits
      split at h
      · cases h
      rename_i hlength
      obtain ⟨⟨-, hhigh⟩, rfl⟩ := inField_eq_ok_iff.1 h
      rw [hnumeral.ofNat_read.symm] at hlength
      exact ⟨_, hhigh, rfl, Nat.not_lt.1 hlength, e, he, by rw [hnumeral.ofNat_read]⟩
    · rintro ⟨n, hn, rfl, hlength, e, he, rfl⟩
      have hread : Numeral.decimal? (Decimal.ofNat n ++ e) = some (Decimal.ofNat n) :=
        Numeral.decimal?_eq_some_iff.2 ⟨Decimal.isNumeral_ofNat n, e, he, rfl⟩
      simp only [hread]
      rw [if_neg (Nat.not_lt.2 hlength), Decimal.read_ofNat]
      exact inField_eq_ok_iff.2 ⟨⟨Int.natCast_nonneg n, hn⟩, rfl⟩
  | _ => simp [field, fail]

theorem length_hexadecimal (digits e : Text) :
    ("0x" ++ digits ++ e : Text).length - 2 = digits.length + e.length := by
  show (digits ++ e).length + 2 - 2 = _
  rw [Nat.add_sub_cancel, List.length_append]

/-- **Unsigned integers**: `0x` and hexadecimal digits, with maybe a newline behind them that counts
as one of them, as many as a quarter of the width. -/
theorem uint_eq_ok_iff {w : Width} {form : NumberForm} {v : Value} {a : Argument} :
    uint w form v = .ok a ↔ ∃ digits e n, v = .text ("0x" ++ digits ++ e) ∧ Numeral.Ending e ∧
      digits.length + e.length = w.bits / 4 ∧ Hexadecimal.Denotes digits n ∧ a = .int n := by
  cases v with
  | text t =>
    simp only [uint, Value.text.injEq]
    constructor
    · intro h
      split at h
      · cases h
      rename_i ds hds
      obtain ⟨digits, e, -, hdigits, he, rfl⟩ := Numeral.hexadecimal?_eq_some_iff.1 hds
      split at h
      · rename_i hlength
        cases h
        refine ⟨digits, e, _, rfl, he, ?_, ⟨ds, hdigits, rfl⟩, ?_⟩
        · rwa [length_hexadecimal] at hlength
        · rw [Hexadecimal.value_eq_ofDigits]
      · cases h
    · rintro ⟨digits, e, n, rfl, he, hlength, ⟨ds, hdigits, rfl⟩, rfl⟩
      have hne : digits ≠ [] := by
        rintro rfl
        have hwidth : 2 ≤ w.bits / 4 := by cases w <;> decide
        have hending : e.length ≤ 1 := by rcases he with rfl | rfl <;> decide
        rw [List.length_nil] at hlength
        omega
      have hread : Numeral.hexadecimal? ("0x" ++ digits ++ e) = some ds :=
        Numeral.hexadecimal?_eq_some_iff.2 ⟨digits, e, hne, hdigits, he, rfl⟩
      simp only [hread, length_hexadecimal]
      rw [if_pos hlength, Hexadecimal.value_eq_ofDigits]
  | _ =>
    simp only [uint, reduceCtorEq, false_and, exists_false, iff_false]
    exact failShowing_ne_ok

end Checking

end CircuitAbi

import CircuitAbi.Proofs.ArgumentNumeral
import CircuitAbi.Settings.Config
import Mathlib.Data.List.TakeWhile

/-!
# Whole numbers in settings

The grammar of integer literals, stated without the reader, and what it makes of a setting.

* `Literal.Digits`, `Literal.Magnitude`, `Literal.Signed` — digits with single underscores, numbers
  without a sign, numbers with one, and what they denote.
* `Literal.Spells` — a number with blanks around it.
* `Literal.read?_eq_some_iff` — of a text of ASCII, the reader takes exactly the number that it
  spells.
* `Setting.Follows` — a setting is what the number in its text makes of it, or the default.

Principal result: `integer_settings_follow_grammar`.
-/

set_option autoImplicit false

namespace CircuitAbi

/-! ## Trimming -/

namespace Text

/-- Trimming takes members of the class away at both ends, and nothing else. -/
theorem eq_append_trimBy (p : CodePoint → Bool) (t : Text) :
    ∃ before after, t = before ++ trimBy p t ++ after ∧ (∀ c ∈ before, p c = true) ∧
      ∀ c ∈ after, p c = true := by
  refine ⟨t.takeWhile p, ((t.dropWhile p).reverse.takeWhile p).reverse, ?_, ?_, ?_⟩
  · rw [trimBy, dropEnding, List.append_assoc, ← List.reverse_append,
      List.takeWhile_append_dropWhile, List.reverse_reverse, List.takeWhile_append_dropWhile]
  · exact fun c hc => List.mem_takeWhile_imp hc
  · exact fun c hc => List.mem_takeWhile_imp (List.mem_reverse.1 hc)

/-- A text without members of the class is what trimming leaves of it with members around it. -/
theorem trimBy_append {p : CodePoint → Bool} {before t after : Text}
    (hbefore : ∀ c ∈ before, p c = true) (ht : ∀ c ∈ t, p c = false)
    (hafter : ∀ c ∈ after, p c = true) : trimBy p (before ++ t ++ after) = t := by
  have hfront : (before ++ t ++ after).dropWhile p = (t ++ after).dropWhile p := by
    rw [List.append_assoc, List.dropWhile_append_of_pos hbefore]
  rw [trimBy, hfront]
  cases t with
  | nil =>
    rw [List.nil_append, List.dropWhile_eq_nil_iff.2 hafter]
    rfl
  | cons c t =>
    have hkept : ∀ b ∈ c :: t, ¬ p b = true := fun b hb => by simp [ht b hb]
    have hback : (c :: t).reverse.dropWhile p = (c :: t).reverse :=
      List.dropWhile_eq_self_iff.2 fun hlength =>
        hkept _ (List.mem_reverse.1 (List.getElem_mem hlength))
    rw [List.cons_append, List.dropWhile_cons_of_neg (hkept c List.mem_cons_self), dropEnding,
      ← List.cons_append, List.reverse_append,
      List.dropWhile_append_of_pos fun b hb => hafter b (List.mem_reverse.1 hb), hback,
      List.reverse_reverse]

end Text

namespace Literal

/-! ## The grammar -/

/-- A digit of a base, of either case, and its value. -/
def IsDigit (base : Nat) (c : CodePoint) (d : Nat) : Prop := Hexadecimal.IsDigit c d ∧ d < base

/-- Digits of a base, each with at most one underscore (95) in front of it, and their values. -/
inductive Digits (base : Nat) : Text → List Nat → Prop
  | nil : Digits base [] []
  | digit {c : CodePoint} {d : Nat} {t : Text} {ds : List Nat} :
      IsDigit base c d → Digits base t ds → Digits base (c :: t) (d :: ds)
  | underscore {c : CodePoint} {d : Nat} {t : Text} {ds : List Nat} :
      IsDigit base c d → Digits base t ds → Digits base (95 :: c :: t) (d :: ds)

/-- A letter that marks a base. -/
def Marks (c : CodePoint) (base : Nat) : Prop :=
  c ∈ Text.ofString "xX" ∧ base = 16 ∨ c ∈ Text.ofString "oO" ∧ base = 8 ∨
    c ∈ Text.ofString "bB" ∧ base = 2

/-- A number without a sign, and what it denotes: a decimal numeral that starts with no zero, zeros
(48) only, or a zero, a base mark and digits of the base. Decimal digits are limited in number. -/
inductive Magnitude : Text → Nat → Prop
  | decimal {c : CodePoint} {d : Nat} {t : Text} {ds : List Nat} :
      IsDigit 10 c d → d ≠ 0 → Digits 10 t ds → (d :: ds).length ≤ digitLimit →
      Magnitude (c :: t) (Nat.ofDigits 10 (d :: ds).reverse)
  | zeros {t : Text} {ds : List Nat} :
      Digits 10 t ds → (∀ d ∈ ds, d = 0) → (0 :: ds).length ≤ digitLimit → Magnitude (48 :: t) 0
  | marked {c : CodePoint} {base : Nat} {t : Text} {ds : List Nat} :
      Marks c base → Digits base t ds → ds ≠ [] →
      Magnitude (48 :: c :: t) (Nat.ofDigits base ds.reverse)

/-- A number with a sign, `+` (43) or `-` (45), or without one. -/
inductive Signed : Text → Int → Prop
  | bare {t : Text} {n : Nat} : Magnitude t n → Signed t n
  | plus {t : Text} {n : Nat} : Magnitude t n → Signed (43 :: t) n
  | minus {t : Text} {n : Nat} : Magnitude t n → Signed (45 :: t) (-n)

/-- A number with nothing but blanks of a class around it. -/
def Spells (blanks t : Text) (n : Int) : Prop :=
  ∃ before numeral after, t = before ++ numeral ++ after ∧ before ⊆ blanks ∧ after ⊆ blanks ∧
    Signed numeral n

/-- Tab, newline, vertical tab, form feed, carriage return and space. -/
def lineBlanks : Text := [9, 10, 11, 12, 13, 32]

/-- The blanks of ASCII: those that set lines and columns, and the four information separators. -/
def asciiBlanks : Text := lineBlanks ++ [28, 29, 30, 31]

/-! ## The characters of numbers -/

theorem IsDigit.cases {base c d : Nat} (h : IsDigit base c d) :
    d < base ∧ (48 ≤ c ∧ c ≤ 57 ∧ d = c - 48 ∨ 97 ≤ c ∧ c ≤ 102 ∧ d = c - 97 + 10 ∨
      65 ≤ c ∧ c ≤ 70 ∧ d = c - 65 + 10) := by
  refine ⟨h.2, ?_⟩
  have hdigit : (if 48 ≤ c ∧ c ≤ 57 then some (c - 48)
      else if 97 ≤ c ∧ c ≤ 102 then some (c - 97 + 10)
      else if 65 ≤ c ∧ c ≤ 70 then some (c - 65 + 10)
      else none) = some d := Hexadecimal.digit?_eq_some_iff.2 h.1
  split at hdigit
  · cases hdigit
    omega
  split at hdigit
  · cases hdigit
    omega
  split at hdigit
  · cases hdigit
    omega
  · cases hdigit

theorem isDigit_zero_iff {base c : Nat} (hbase : 0 < base) : IsDigit base c 0 ↔ c = 48 := by
  constructor
  · intro h
    have := h.cases
    omega
  · rintro rfl
    exact ⟨⟨by decide, by decide⟩, hbase⟩

theorem marks_iff {c base : Nat} : Marks c base ↔ (c = 120 ∨ c = 88) ∧ base = 16 ∨
    (c = 111 ∨ c = 79) ∧ base = 8 ∨ (c = 98 ∨ c = 66) ∧ base = 2 := by
  simp [Marks, Text.ofString]

/-- A visible character of ASCII, which no blank is. -/
def Visible (c : Nat) : Prop := 32 < c ∧ c < 127

instance : DecidablePred Visible := fun c => inferInstanceAs (Decidable (32 < c ∧ c < 127))

theorem IsDigit.visible {base c d : Nat} (h : IsDigit base c d) : Visible c := by
  have := h.cases
  unfold Visible
  omega

theorem Digits.visible {base : Nat} {t : Text} {ds : List Nat} (h : Digits base t ds) :
    ∀ c ∈ t, Visible c := by
  induction h with
  | nil => exact fun _ hc => nomatch hc
  | digit hd _ ih => exact List.forall_mem_cons.2 ⟨hd.visible, ih⟩
  | underscore hd _ ih =>
    exact List.forall_mem_cons.2 ⟨by decide, List.forall_mem_cons.2 ⟨hd.visible, ih⟩⟩

theorem Magnitude.visible {t : Text} {n : Nat} (h : Magnitude t n) : ∀ c ∈ t, Visible c := by
  have hzero : Visible 48 := by decide
  cases h with
  | decimal hc _ ht _ => exact List.forall_mem_cons.2 ⟨hc.visible, ht.visible⟩
  | zeros ht _ _ => exact List.forall_mem_cons.2 ⟨hzero, ht.visible⟩
  | @marked c _ _ _ hmark ht _ =>
    have hvisible : Visible c := by
      have := marks_iff.1 hmark
      unfold Visible
      omega
    exact List.forall_mem_cons.2 ⟨hzero, List.forall_mem_cons.2 ⟨hvisible, ht.visible⟩⟩

/-- Every character of a number is visible. -/
theorem Signed.visible {t : Text} {n : Int} (h : Signed t n) : ∀ c ∈ t, Visible c := by
  cases h with
  | bare h => exact h.visible
  | plus h => exact List.forall_mem_cons.2 ⟨by decide, h.visible⟩
  | minus h => exact List.forall_mem_cons.2 ⟨by decide, h.visible⟩

/-! ## Reading digits -/

theorem digit?_eq_some_iff {base c d : Nat} : digit? base c = some d ↔ IsDigit base c d := by
  unfold digit? IsDigit
  rw [← Hexadecimal.digit?_eq_some_iff]
  cases Hexadecimal.digit? c with
  | none => simp
  | some e =>
    simp only [Option.ite_none_right_eq_some, Option.some.injEq]
    constructor
    · rintro ⟨h, rfl⟩
      exact ⟨rfl, h⟩
    · rintro ⟨rfl, h⟩
      exact ⟨h, rfl⟩

theorem not_isDigit_underscore (base d : Nat) : ¬ IsDigit base 95 d := by
  intro h
  have := h.cases
  omega

/-- After a digit, the reader takes all digits with at most one underscore in front. -/
theorem digits?_cons {base : Nat} {c : CodePoint} {d : Nat} {t : Text} {ds : List Nat}
    (hd : IsDigit base c d) (h : Digits base t ds) : digits? base (c :: t) = some (d :: ds) := by
  induction h generalizing c d with
  | nil => simp only [digits?, digit?_eq_some_iff.2 hd]
  | @digit e _ _ _ he _ ih =>
    -- what comes next is a digit, so it is not passed over as an underscore
    have hne : e ≠ 95 := by
      rintro rfl
      exact not_isDigit_underscore base _ he
    rw [digits?, digit?_eq_some_iff.2 hd]
    dsimp only
    split
    · rename_i heq
      cases heq
    · rename_i heq
      exact absurd (List.cons.inj heq).1 hne
    · rw [ih he, Option.map_some]
  | @underscore e _ t _ he _ ih =>
    rw [digits?, digit?_eq_some_iff.2 hd]
    show (digits? base (e :: t)).map (d :: ·) = _
    rw [ih he, Option.map_some]

/-- What the reader takes is digits, the first of them with no underscore in front. -/
theorem of_digits? {base : Nat} {t : Text} {ds : List Nat} (h : digits? base t = some ds) :
    ∃ c d t' ds', t = c :: t' ∧ ds = d :: ds' ∧ IsDigit base c d ∧ Digits base t' ds' := by
  fun_induction digits? base t generalizing ds with
  | case1 => cases h
  | case2 => cases h
  | case3 c d hd =>
    cases h
    exact ⟨c, d, [], [], rfl, rfl, digit?_eq_some_iff.1 hd, .nil⟩
  | case4 c d hd rest ih =>
    obtain ⟨ds, hds, rfl⟩ := Option.map_eq_some_iff.1 h
    obtain ⟨c', d', t', ds', rfl, rfl, hd', ht'⟩ := ih hds
    exact ⟨c, d, _, _, rfl, rfl, digit?_eq_some_iff.1 hd, .underscore hd' ht'⟩
  | case5 c d hd rest _ _ ih =>
    obtain ⟨ds, hds, rfl⟩ := Option.map_eq_some_iff.1 h
    obtain ⟨c', d', t', ds', rfl, rfl, hd', ht'⟩ := ih hds
    exact ⟨c, d, _, _, rfl, rfl, digit?_eq_some_iff.1 hd, .digit hd' ht'⟩

/-! ## Reading numbers -/

theorem marked?_eq_some_iff {base : Nat} {t : Text} {n : Nat} :
    marked? base t = some n ↔
      ∃ ds, Digits base t ds ∧ ds ≠ [] ∧ n = Nat.ofDigits base ds.reverse := by
  constructor
  · intro h
    unfold marked? at h
    split at h
    all_goals
      obtain ⟨ds, hds, rfl⟩ := Option.map_eq_some_iff.1 h
      obtain ⟨c, d, t', ds', rfl, rfl, hd, ht'⟩ := of_digits? hds
    · exact ⟨_, .underscore hd ht', List.cons_ne_nil _ _, Hexadecimal.value_eq_ofDigits base _⟩
    · exact ⟨_, .digit hd ht', List.cons_ne_nil _ _, Hexadecimal.value_eq_ofDigits base _⟩
  · rintro ⟨ds, ht, hne, rfl⟩
    cases ht with
    | nil => exact absurd rfl hne
    | digit hd ht' =>
      unfold marked?
      split
      · rename_i heq
        obtain ⟨rfl, -⟩ := List.cons.inj heq
        exact absurd hd (not_isDigit_underscore base _)
      · rw [digits?_cons hd ht', Option.map_some, Hexadecimal.value_eq_ofDigits]
    | @underscore c _ t' _ hd ht' =>
      show (digits? base (c :: t')).map (Decimal.value base) = _
      rw [digits?_cons hd ht', Option.map_some, Hexadecimal.value_eq_ofDigits]

theorem decimal?_eq_some_iff {t : Text} {n : Nat} :
    decimal? t = some n ↔ ∃ c d t' ds, t = c :: t' ∧ IsDigit 10 c d ∧ Digits 10 t' ds ∧
      (d :: ds).length ≤ digitLimit ∧ (d = 0 → ∀ e ∈ ds, e = 0) ∧
        n = Nat.ofDigits 10 (d :: ds).reverse := by
  constructor
  · intro h
    unfold decimal? at h
    split at h
    · cases h
    rename_i ds hds
    obtain ⟨c, d, t', ds', rfl, rfl, hd, ht'⟩ := of_digits? hds
    split at h
    · cases h
    rename_i hlength
    split at h
    · cases h
    rename_i hzeros
    cases h
    refine ⟨c, d, t', ds', rfl, hd, ht', Nat.not_lt.1 hlength, ?_,
      Hexadecimal.value_eq_ofDigits 10 _⟩
    rintro rfl
    simpa using hzeros
  · rintro ⟨c, d, t', ds, rfl, hd, ht', hlength, hzeros, rfl⟩
    unfold decimal?
    rw [digits?_cons hd ht']
    dsimp only
    rw [if_neg (Nat.not_lt.2 hlength), if_neg, Hexadecimal.value_eq_ofDigits]
    rintro ⟨hhead, hany⟩
    obtain rfl : d = 0 := Option.some.inj hhead
    obtain ⟨e, he, hne⟩ : ∃ e ∈ ds, e ≠ 0 := by simpa using hany
    exact hne (hzeros rfl e he)

theorem markedBase?_eq_some_iff {c base : Nat} : markedBase? c = some base ↔ Marks c base := by
  rw [marks_iff]
  show (if c = 120 ∨ c = 88 then some 16
    else if c = 111 ∨ c = 79 then some 8
    else if c = 98 ∨ c = 66 then some 2
    else none) = some base ↔ _
  split
  · rw [Option.some.injEq]
    omega
  split
  · rw [Option.some.injEq]
    omega
  split
  · rw [Option.some.injEq]
    omega
  · simp only [reduceCtorEq, false_iff]
    omega

/-- Neither a decimal digit nor an underscore marks a base. -/
theorem markedBase?_of_digits {c : Nat} {t : Text} {ds : List Nat} (h : Digits 10 (c :: t) ds) :
    markedBase? c = none := by
  cases h with
  | digit hd _ =>
    refine Option.eq_none_iff_forall_ne_some.2 fun base hmark => ?_
    have hcode := marks_iff.1 (markedBase?_eq_some_iff.1 hmark)
    have := hd.cases
    omega
  | underscore _ _ => rfl

theorem magnitude?_eq_decimal? {t : Text}
    (h : ∀ c rest, t = 48 :: c :: rest → markedBase? c = none) : magnitude? t = decimal? t := by
  unfold magnitude?
  split
  · rename_i c rest
    rw [h c rest rfl]
  · rfl

theorem ofDigits_zeros {ds : List Nat} (h : ∀ d ∈ ds, d = 0) :
    Nat.ofDigits 10 (0 :: ds).reverse = 0 := by
  rw [Nat.ofDigits_reverse_zero_cons, List.eq_replicate_of_mem h, List.reverse_replicate,
    Nat.ofDigits_replicate_zero]

/-- What is read as decimal digits is a decimal numeral that starts with no zero, or zeros only. -/
theorem Magnitude.of_decimal? {t : Text} {n : Nat} (h : decimal? t = some n) : Magnitude t n := by
  obtain ⟨c, d, t', ds, rfl, hc, ht', hlength, hzeros, rfl⟩ := decimal?_eq_some_iff.1 h
  by_cases hd : d = 0
  · subst hd
    rw [ofDigits_zeros (hzeros rfl), (isDigit_zero_iff (by decide)).1 hc]
    exact .zeros ht' (hzeros rfl) hlength
  · exact .decimal hc hd ht' hlength

theorem magnitude?_eq_some_iff {t : Text} {n : Nat} : magnitude? t = some n ↔ Magnitude t n := by
  constructor
  · intro h
    unfold magnitude? at h
    split at h
    · split at h
      · rename_i hmark
        obtain ⟨ds, ht, hne, rfl⟩ := marked?_eq_some_iff.1 h
        exact .marked (markedBase?_eq_some_iff.1 hmark) ht hne
      · exact .of_decimal? h
    · exact .of_decimal? h
  · intro h
    cases h with
    | @decimal c d t ds hc hd ht hlength =>
      rw [magnitude?_eq_decimal?]
      · exact decimal?_eq_some_iff.2 ⟨c, d, t, ds, rfl, hc, ht, hlength, fun h => absurd h hd, rfl⟩
      · intro c' rest heq
        obtain ⟨rfl, -⟩ := List.cons.inj heq
        have := hc.cases
        omega
    | @zeros t ds ht hzeros hlength =>
      -- after the zero comes nothing, a digit or an underscore, hence no base mark
      rw [magnitude?_eq_decimal?]
      · exact decimal?_eq_some_iff.2 ⟨48, 0, t, ds, rfl, (isDigit_zero_iff (by decide)).2 rfl, ht,
          hlength, fun _ => hzeros, (ofDigits_zeros hzeros).symm⟩
      · intro c rest heq
        obtain ⟨-, rfl⟩ := List.cons.inj heq
        exact markedBase?_of_digits ht
    | @marked c base t ds hmark ht hne =>
      simp only [magnitude?, markedBase?_eq_some_iff.2 hmark]
      exact marked?_eq_some_iff.2 ⟨ds, ht, hne, rfl⟩

/-- A number without a sign starts with a digit. -/
theorem Magnitude.exists_cons {t : Text} {n : Nat} (h : Magnitude t n) :
    ∃ (c : Nat) (t' : Text), t = c :: t' ∧ 48 ≤ c := by
  cases h with
  | decimal hc _ _ _ =>
    refine ⟨_, _, rfl, ?_⟩
    have := hc.cases
    omega
  | zeros _ _ _ => exact ⟨_, _, rfl, Nat.le_refl 48⟩
  | marked _ _ _ => exact ⟨_, _, rfl, Nat.le_refl 48⟩

theorem signed?_eq_some_iff {t : Text} {n : Int} : signed? t = some n ↔ Signed t n := by
  constructor
  · intro h
    unfold signed? at h
    split at h
    all_goals
      obtain ⟨m, hm, rfl⟩ := Option.map_eq_some_iff.1 h
      have hmagnitude := magnitude?_eq_some_iff.1 hm
    · exact .plus hmagnitude
    · exact .minus hmagnitude
    · exact .bare hmagnitude
  · intro h
    cases h with
    | bare h =>
      obtain ⟨c, t', rfl, hc⟩ := h.exists_cons
      unfold signed?
      split
      · rename_i heq
        obtain ⟨rfl, -⟩ := List.cons.inj heq
        exact absurd hc (by decide)
      · rename_i heq
        obtain ⟨rfl, -⟩ := List.cons.inj heq
        exact absurd hc (by decide)
      · rw [magnitude?_eq_some_iff.2 h]
        rfl
    | @plus t m h =>
      show (magnitude? t).map Int.ofNat = _
      rw [magnitude?_eq_some_iff.2 h]
      rfl
    | @minus t m h =>
      show (magnitude? t).map (fun n => -Int.ofNat n) = _
      rw [magnitude?_eq_some_iff.2 h]
      rfl

/-! ## Blanks around numbers -/

/-- A number is read out of a trimmed text exactly when the text spells it, if trimming takes away
what counts as a blank. -/
theorem signed?_trimBy_eq_some_iff {p : CodePoint → Bool} {blanks t : Text} {n : Int}
    (hp : ∀ c ∈ t, (p c = true ↔ c ∈ blanks)) (hblanks : ∀ c ∈ blanks, ¬ Visible c) :
    signed? (Text.trimBy p t) = some n ↔ Spells blanks t n := by
  rw [signed?_eq_some_iff]
  constructor
  · intro h
    obtain ⟨before, after, ht, hbefore, hafter⟩ := Text.eq_append_trimBy p t
    refine ⟨before, _, after, ht, fun c hc => (hp c ?_).1 (hbefore c hc),
      fun c hc => (hp c ?_).1 (hafter c hc), h⟩
    · rw [ht]
      exact List.mem_append_left _ (List.mem_append_left _ hc)
    · rw [ht]
      exact List.mem_append_right _ hc
  · rintro ⟨before, numeral, after, rfl, hbefore, hafter, h⟩
    rw [Text.trimBy_append]
    · exact h
    · intro c hc
      exact (hp c (List.mem_append_left _ (List.mem_append_left _ hc))).2 (hbefore hc)
    · intro c hc
      rw [Bool.eq_false_iff, Ne, hp c (List.mem_append_left _ (List.mem_append_right _ hc))]
      exact fun hblank => hblanks c hblank (h.visible c hc)
    · intro c hc
      exact (hp c (List.mem_append_right _ hc)).2 (hafter hc)

theorem not_visible_of_mem_asciiBlanks : ∀ c ∈ asciiBlanks, ¬ Visible c := by decide

theorem isBlank_iff_of_ascii : ∀ c < 0x80,
    (Text.isLineBlank c = true ↔ c ∈ lineBlanks) ∧ (Text.isBlank c = true ↔ c ∈ asciiBlanks) := by
  decide

/-- The grammar sees a text of ASCII as it is. -/
theorem map_plain {t : Text} (h : ∀ c ∈ t, c < 0x80) : t.map plain = t := by
  have hplain (c : Nat) (hc : c < 0x80) : plain c = c := by
    by_cases hdelete : c = 127
    · subst hdelete
      rfl
    · exact if_pos (show c < 127 by omega)
  rw [List.map_congr_left (g := id) fun c hc => hplain c (h c hc), List.map_id]

/-- **The reader and the grammar**: of a text of ASCII, the number that it spells is read, and no
other. -/
theorem read?_eq_some_iff {t : Text} {n : Int} (h : ∀ c ∈ t, c < 0x80) :
    read? t = some n ↔ Spells lineBlanks t n := by
  rw [read?, map_plain h]
  exact signed?_trimBy_eq_some_iff (fun c hc => (isBlank_iff_of_ascii c (h c hc)).1)
    fun c hc => not_visible_of_mem_asciiBlanks c (List.mem_append_left _ hc)

/-- Where the information separators are taken away first, they are blanks as well. -/
theorem read?_trim_eq_some_iff {t : Text} {n : Int} (h : ∀ c ∈ t, c < 0x80) :
    read? (Text.trim t) = some n ↔ Spells asciiBlanks t n := by
  have hblank : ∀ c ∈ t, (Text.isBlank c = true ↔ c ∈ asciiBlanks) := fun c hc =>
    (isBlank_iff_of_ascii c (h c hc)).2
  obtain ⟨before, after, ht, hbefore, hafter⟩ := Text.eq_append_trimBy Text.isBlank t
  rw [← Text.trim] at ht
  have hmem {c : CodePoint} (hc : c ∈ before ∨ c ∈ Text.trim t ∨ c ∈ after) : c ∈ t := by
    rw [ht, List.mem_append, List.mem_append, or_assoc]
    exact hc
  rw [read?_eq_some_iff fun c hc => h c (hmem (.inr (.inl hc)))]
  constructor
  · rintro ⟨before', numeral, after', htrim, hbefore', hafter', hsigned⟩
    refine ⟨before ++ before', numeral, after' ++ after, ?_, ?_, ?_, hsigned⟩
    · rw [ht, htrim]
      simp only [List.append_assoc]
    · refine List.append_subset.2 ⟨fun c hc => ?_, fun c hc => ?_⟩
      · exact (hblank c (hmem (.inl hc))).1 (hbefore c hc)
      · exact List.mem_append_left _ (hbefore' hc)
    · refine List.append_subset.2 ⟨fun c hc => ?_, fun c hc => ?_⟩
      · exact List.mem_append_left _ (hafter' hc)
      · exact (hblank c (hmem (.inr (.inr hc)))).1 (hafter c hc)
  · intro hspells
    -- a number has no blanks, so it is all that the first trimming leaves
    have hsigned : signed? (Text.trim t) = some n :=
      (signed?_trimBy_eq_some_iff hblank not_visible_of_mem_asciiBlanks).2 hspells
    exact ⟨[], Text.trim t, [], (List.append_nil _).symm, List.nil_subset _, List.nil_subset _,
      signed?_eq_some_iff.1 hsigned⟩

end Literal

/-! ## Settings -/

namespace Setting

/-- A setting is what the one number that its text spells makes of it, or the default where the text
spells none. -/
def Follows (spelled : Int → Prop) (answer : Int → Int) (default setting : Int) : Prop :=
  (∀ n, spelled n → (∀ m, spelled m → m = n) ∧ setting = answer n) ∧
    ((∀ n, ¬ spelled n) → setting = default)

theorem follows_of_read {spelled : Int → Prop} {answer : Int → Int} {default setting : Int}
    {read : Option Int} (h : ∀ n, read = some n ↔ spelled n)
    (hsome : ∀ n, read = some n → setting = answer n) (hnone : read = none → setting = default) :
    Follows spelled answer default setting := by
  refine ⟨fun n hn => ⟨fun m hm => ?_, hsome n ((h n).2 hn)⟩, fun hspelled => hnone ?_⟩
  · exact Option.some.inj (((h m).2 hm).symm.trans ((h n).2 hn))
  · exact Option.eq_none_iff_forall_ne_some.2 fun n hn => hspelled n ((h n).1 hn)

theorem bounded_follows {default low high : Int} (hbounds : low ≤ high) {s : Text}
    (h : ∀ c ∈ s, c < 0x80) :
    Follows (Literal.Spells Literal.lineBlanks s) (fun n => max low (min high n)) default
      (bounded default low high (some s)) := by
  refine follows_of_read (fun n => Literal.read?_eq_some_iff h) (fun n hread => ?_) fun hread => ?_
  · simp only [bounded, hread]
    split
    · omega
    · split <;> omega
  · simp only [bounded, hread]

theorem modulus_follows (default : Int) {s : Text} (h : ∀ c ∈ s, c < 0x80) :
    Follows (Literal.Spells Literal.asciiBlanks s) (fun n => if 2 ≤ n then n else default) default
      (modulus default (some s)) := by
  refine follows_of_read (fun n => Literal.read?_trim_eq_some_iff h) (fun n hread => ?_)
    fun hread => ?_
  · simp only [modulus, hread]
    rfl
  · simp only [modulus, hread]

end Setting

/-- **Whole-number settings follow the grammar of literals.** Whatever the environment, where the
text of the indentation or of the limit on a document's size is ASCII and spells a number, it spells
no other, and the setting is the number moved to the nearer bound; where it spells none, the setting
is the default. The order of the field is the number that its text spells, with information
separators as blanks too, if that is at least two, and else the default. -/
theorem integer_settings_follow_grammar (env : Environment) {s : Text} (h : ∀ c ∈ s, c < 0x80) :
    (env.get? "ZKABI_INDENT" = some s →
      Setting.Follows (Literal.Spells Literal.lineBlanks s) (fun n => max 0 (min 8 n)) 2
        (Config.ofEnvironment env).indent) ∧
    (env.get? "ZKABI_MAX_DOC_BYTES" = some s →
      Setting.Follows (Literal.Spells Literal.lineBlanks s) (fun n => max 1024 (min (2 ^ 30) n))
        4194304 (Config.ofEnvironment env).maxDocumentBytes) ∧
    (env.get? "ZKABI_FIELD_MODULUS" = some s →
      Setting.Follows (Literal.Spells Literal.asciiBlanks s)
        (fun n => if 2 ≤ n then n else bn254Order) bn254Order
        (Config.ofEnvironment env).fieldModulus) := by
  refine ⟨fun hget => ?_, fun hget => ?_, fun hget => ?_⟩
  · rw [Config.ofEnvironment, hget]
    exact Setting.bounded_follows (by decide) h
  · rw [Config.ofEnvironment, hget]
    exact Setting.bounded_follows (by decide) h
  · rw [Config.ofEnvironment, hget]
    exact Setting.modulus_follows bn254Order h

/-- A sign before a base mark of the other case with underscores, a leading zero, and a separator
before decimal digits. -/
def oddEnvironment : Environment :=
  [("ZKABI_INDENT", "\t+0X_0_f\n"), ("ZKABI_MAX_DOC_BYTES", "0_2048"),
    ("ZKABI_FIELD_MODULUS", "\x1f1_01 ")]

theorem integer_settings_follow_grammar_odd :
    ((∀ c ∈ Text.ofString "\t+0X_0_f\n", c < 0x80) ∧
      oddEnvironment.get? "ZKABI_INDENT" = some "\t+0X_0_f\n" ∧
      Literal.Spells Literal.lineBlanks "\t+0X_0_f\n" 15 ∧
      (Config.ofEnvironment oddEnvironment).indent = 8) ∧
    ((∀ c ∈ Text.ofString "0_2048", c < 0x80) ∧
      oddEnvironment.get? "ZKABI_MAX_DOC_BYTES" = some "0_2048" ∧
      (∀ n, ¬ Literal.Spells Literal.lineBlanks "0_2048" n) ∧
      (Config.ofEnvironment oddEnvironment).maxDocumentBytes = 4194304) ∧
    ((∀ c ∈ Text.ofString "\x1f1_01 ", c < 0x80) ∧
      oddEnvironment.get? "ZKABI_FIELD_MODULUS" = some "\x1f1_01 " ∧
      Literal.Spells Literal.asciiBlanks "\x1f1_01 " 101 ∧
      (Config.ofEnvironment oddEnvironment).fieldModulus = 101) := by
  have hindent : ∀ c ∈ Text.ofString "\t+0X_0_f\n", c < 0x80 := by decide
  have hsize : ∀ c ∈ Text.ofString "0_2048", c < 0x80 := by decide
  have hmodulus : ∀ c ∈ Text.ofString "\x1f1_01 ", c < 0x80 := by decide
  have hfifteen : Literal.Spells Literal.lineBlanks "\t+0X_0_f\n" 15 :=
    ⟨"\t", "+0X_0_f", "\n", rfl, by decide, by decide,
      .plus (.marked (.inl ⟨by decide, rfl⟩)
        (.underscore (d := 0) ⟨⟨by decide, by decide⟩, by decide⟩
          (.underscore (d := 15) ⟨⟨by decide, by decide⟩, by decide⟩ .nil))
        (List.cons_ne_nil _ _))⟩
  have hnone : ∀ n, ¬ Literal.Spells Literal.lineBlanks "0_2048" n := by
    intro n h
    exact nomatch (Literal.read?_eq_some_iff hsize).2 h
  have hprime : Literal.Spells Literal.asciiBlanks "\x1f1_01 " 101 :=
    (Literal.read?_trim_eq_some_iff hmodulus).1 rfl
  refine ⟨⟨hindent, rfl, hfifteen, ?_⟩, ⟨hsize, rfl, hnone, ?_⟩, ⟨hmodulus, rfl, hprime, ?_⟩⟩
  · exact (((integer_settings_follow_grammar oddEnvironment hindent).1 rfl).1 15 hfifteen).2
  · exact ((integer_settings_follow_grammar oddEnvironment hsize).2.1 rfl).2 hnone
  · exact (((integer_settings_follow_grammar oddEnvironment hmodulus).2.2 rfl).1 101 hprime).2

end CircuitAbi

import CircuitAbi.Proofs.ArgumentNumeral
import CircuitAbi.Proofs.Document

/-!
# Spellings of arguments

How a value may spell an argument, said for each type without the checker (`SchemaType.Spells`), and
what the checker makes of it:

* `spelled_argument_accepted` — a value that spells an argument is accepted as that argument, as far
  as the limit on nesting goes (`deep_spelling_refused`).
* `scalar_text_accepted_iff` — the texts that are accepted as numbers: the numerals, and the
  numerals with a newline behind them (`final_newline_accepted`).
-/

set_option autoImplicit false

namespace CircuitAbi

/-! ## Spelling -/

namespace SchemaType

mutual

/-- A value spells an argument of a type. A field element is a number below the modulus or its
decimal numeral, an unsigned integer `0x` and a quarter of its width in hexadecimal digits, an array
a list of spellings, and a struct an object with the names of its members for keys, in any order. -/
def Spells (m : Int) : SchemaType → Value → Argument → Prop
  | .field => fun v a =>
    ∃ n : Nat, n < m ∧ a = .int n ∧
      (v = .int n ∨ v = .text (Decimal.ofNat n) ∧ (Decimal.ofNat n).length ≤ digitLimit)
  | .bool => fun v a => ∃ b, v = .bool b ∧ a = .bool b
  | .uint width _ => fun v a =>
    ∃ digits n, v = .text ("0x" ++ digits) ∧ digits.length = width.bits / 4 ∧
      Hexadecimal.Denotes digits n ∧ a = .int n
  | .array element size => fun v a =>
    ∃ vs as, v = .list vs ∧ a = .list as ∧ vs.length = size ∧
      List.Forall₂ (Spells m element) vs as
  | .struct _ ms => fun v a =>
    ∃ es as, v = .object es ∧ a = .struct as ∧ (Entries.keys es).Perm (ms.map (·.1.val)) ∧
      MembersSpell m es ms as
termination_by structural t => t

/-- The entries of an object spell the members of a struct, listed in the order of the members. -/
def MembersSpell (m : Int) (es : Entries) :
    List (Name × SchemaType) → List (Name × Argument) → Prop
  | [] => fun as => as = []
  | (name, t) :: rest => fun as =>
    ∃ v a later, es.get? name.val = some v ∧ t.Spells m v a ∧ MembersSpell m es rest later ∧
      as = (name, a) :: later
termination_by structural ms => ms

end

end SchemaType

namespace Checking

mutual

/-- A value that spells an argument is accepted as it, given room for the nesting of the value. -/
theorem argument_of_spells (m : Int) : ∀ (t : SchemaType) {v : Value} {a : Argument} {room : Nat},
    t.DistinctMembers → t.Spells m v a → v.nesting < room → argument m room v t = .ok a
  | t, v, a, 0, _, _, hnesting => absurd hnesting (Nat.not_lt_zero _)
  | .field, v, a, room + 1, _, hspells, _ => by
    obtain ⟨n, hn, rfl, hv⟩ := hspells
    refine argument_succ_eq_ok.2 (field_eq_ok_iff.2 ⟨n, hn, rfl, ?_⟩)
    rcases hv with rfl | ⟨rfl, hlength⟩
    · exact .inl rfl
    · exact .inr ⟨hlength, [], .inl rfl, by rw [List.append_nil]⟩
  | .bool, v, a, room + 1, _, hspells, _ => argument_succ_eq_ok.2 hspells
  | .uint width form, v, a, room + 1, _, hspells, _ => by
    obtain ⟨digits, n, rfl, hlength, hdenotes, rfl⟩ := hspells
    refine argument_succ_eq_ok.2 (uint_eq_ok_iff.2 ⟨digits, [], n, ?_, .inl rfl, hlength, hdenotes,
      rfl⟩)
    rw [List.append_nil]
  | .array element size, v, a, room + 1, hdistinct, hspells, hnesting => by
    obtain ⟨vs, as, rfl, rfl, hlength, hitems⟩ := hspells
    have hroom : ∀ v ∈ vs, v.nesting < room := fun v hv =>
      Nat.lt_of_le_of_lt (Value.nesting_le_itemsNesting hv) (Nat.lt_of_succ_lt_succ hnesting)
    refine argument_succ_eq_ok.2 ⟨vs, as, rfl, rfl, hlength, ?_⟩
    refine ((List.forall₂_and_left _ _).2 ⟨hroom, hitems⟩).imp fun v a h => ?_
    exact argument_of_spells m element (SchemaType.distinctMembers_array.1 hdistinct) h.2 h.1
  | .struct name ms, v, a, room + 1, hdistinct, hspells, hnesting => by
    obtain ⟨es, as, rfl, rfl, hkeys, hmembers⟩ := hspells
    obtain ⟨hnames, hdistinct⟩ := SchemaType.distinctMembers_struct.1 hdistinct
    have hchecked := members_of_spells m ms hdistinct hmembers (Nat.lt_of_succ_lt_succ hnesting)
    -- with different names nothing is written twice, so the result is in the order of the members
    have hwrite : Argument.write [] as = as := by
      refine Argument.write_of_nodup ?_
      rwa [← map_fst_of_forall₂ hchecked]
    refine argument_succ_eq_ok.2 ⟨es, as, rfl, ?_, fun k hk => hkeys.mem_iff.1 hk, hchecked⟩
    rw [hwrite]

theorem members_of_spells (m : Int) {es : Entries} : ∀ (ms : List (Name × SchemaType))
    {as : List (Name × Argument)} {room : Nat}, (∀ member ∈ ms, member.2.DistinctMembers) →
    SchemaType.MembersSpell m es ms as → Value.entriesNesting es < room →
    List.Forall₂ (MemberChecked (argument m room) es) ms as
  | [], as, room, _, hspell, _ => by
    obtain rfl : as = [] := hspell
    exact .nil
  | (name, t) :: ms, as, room, hdistinct, hspell, hnesting => by
    obtain ⟨v, a, later, hv, hspells, hlater, rfl⟩ := hspell
    obtain ⟨ht, hms⟩ := List.forall_mem_cons.1 hdistinct
    have hroom : v.nesting < room :=
      Nat.lt_of_le_of_lt (Value.nesting_le_entriesNesting (Entries.mem_of_get? hv)) hnesting
    exact .cons ⟨rfl, v, hv, argument_of_spells m t ht hspells hroom⟩
      (members_of_spells m ms hms hlater hnesting)

end

end Checking

/-- **Every spelling of an argument is accepted**, as the argument that it spells: for a type whose
structs have members of different names, below any modulus, and for a value that nests less deeply
than arguments may. -/
theorem spelled_argument_accepted (root : Text) (modulus : Option Int) (c : Config)
    {t : SchemaType} {v : Value} {a : Argument} (hdistinct : t.DistinctMembers)
    (hspells : t.Spells (modulus.getD c.fieldModulus) v a) (hnesting : v.nesting < argumentLimit) :
    (checkArgument v (.type t) root modulus).run.run c = .ok a := by
  rw [run_checkArgument]
  exact Checking.report_eq_ok.2 (Checking.argument_of_spells _ t hdistinct hspells hnesting)

/-- A struct of every kind of type, an empty array and an empty struct among them. -/
def recordType : SchemaType :=
  .struct "R" [("words", .array (.uint .w16 .whole) 2), ("low", .field), ("high", .field),
    ("none", .array .field 0), ("empty", .struct "E" []), ("flag", .bool)]

/-- A value of it: keys in another order, digits of both cases, the greatest numbers. -/
def recordValue : Value :=
  .object [("flag", .bool true), ("empty", .object []), ("none", .list []), ("high", .text "10"),
    ("low", .int 0), ("words", .list [.text "0xFFff", .text "0x00a0"])]

/-- What it spells, for a modulus of eleven. -/
def recordArgument : Argument :=
  .struct [("words", .list [.int 65535, .int 160]), ("low", .int 0), ("high", .int 10),
    ("none", .list []), ("empty", .struct []), ("flag", .bool true)]

theorem recordType_distinctMembers : recordType.DistinctMembers := by
  refine SchemaType.distinctMembers_struct.2 ⟨by decide, ?_⟩
  simp [SchemaType.DistinctMembers, SchemaType.Everywhere, SchemaType.MembersEverywhere]

theorem recordType_spells : recordType.Spells 11 recordValue recordArgument := by
  have hgreatest : Hexadecimal.Denotes "FFff" 65535 := Hexadecimal.denotes_iff.2 (by decide)
  have hsmall : Hexadecimal.Denotes "00a0" 160 := Hexadecimal.denotes_iff.2 (by decide)
  refine ⟨_, _, rfl, rfl, by decide, ?_⟩
  refine ⟨_, _, _, rfl, ⟨_, _, rfl, rfl, rfl, .cons ⟨_, _, rfl, rfl, hgreatest, rfl⟩
    (.cons ⟨_, _, rfl, rfl, hsmall, rfl⟩ .nil)⟩, ?_, rfl⟩
  refine ⟨_, _, _, rfl, ⟨0, by decide, rfl, .inl rfl⟩, ?_, rfl⟩
  refine ⟨_, _, _, rfl, ⟨10, by decide, rfl, .inr ⟨rfl, by decide⟩⟩, ?_, rfl⟩
  refine ⟨_, _, _, rfl, ⟨_, _, rfl, rfl, rfl, .nil⟩, ?_, rfl⟩
  refine ⟨_, _, _, rfl, ⟨_, _, rfl, rfl, .nil, rfl⟩, ?_, rfl⟩
  exact ⟨_, _, _, rfl, ⟨true, rfl, rfl⟩, rfl, rfl⟩

theorem spelled_argument_accepted_record :
    (recordType.DistinctMembers ∧ recordType.Spells 11 recordValue recordArgument ∧
      recordValue.nesting < argumentLimit) ∧
    (checkArgument recordValue (.type recordType) documentRoot (some 11)).run.run
      (Config.ofEnvironment []) = .ok recordArgument := by
  have hnesting : recordValue.nesting < argumentLimit := by decide
  exact ⟨⟨recordType_distinctMembers, recordType_spells, hnesting⟩,
    spelled_argument_accepted documentRoot (some 11) _ recordType_distinctMembers
      recordType_spells hnesting⟩

/-! ## Spellings that nest too deeply -/

/-- The argument that a tower of lists spells. -/
def Argument.tower : Nat → Argument
  | 0 => .bool true
  | n + 1 => .list [tower n]

theorem SchemaType.tower_spells (m : Int) (n : Nat) :
    (tower n).Spells m (Value.tower n) (Argument.tower n) := by
  induction n with
  | zero => exact ⟨true, rfl, rfl⟩
  | succ n ih => exact ⟨_, _, rfl, rfl, rfl, .cons ih .nil⟩

/-- Checking stops at the level for which there is no room. -/
theorem Checking.argument_tower (m : Int) {room n : Nat} (h : room ≤ n) :
    argument m room (Value.tower n) (SchemaType.tower n) = .error (.limit .nesting) := by
  induction room generalizing n with
  | zero => rfl
  | succ room ih =>
    cases n with
    | zero => exact absurd h (Nat.not_succ_le_zero room)
    | succ n =>
      have hitem := ih (Nat.le_of_succ_le_succ h)
      rw [Value.tower, SchemaType.tower, argument_list, if_pos List.length_singleton,
        List.zipIdx_singleton, List.mapM_cons]
      simp only [hitem]
      rfl

/-- A spelling that nests too deeply is not accepted. -/
theorem deep_spelling_refused :
    (SchemaType.tower 3000).DistinctMembers ∧
      (SchemaType.tower 3000).Spells 2 (Value.tower 3000) (Argument.tower 3000) ∧
      (checkArgument (Value.tower 3000) (.type (SchemaType.tower 3000)) documentRoot
        (some 2)).run.run (Config.ofEnvironment []) = .error (.limit .nesting) := by
  have hroom : argumentLimit ≤ 3000 := by decide
  refine ⟨SchemaType.tower_distinctMembers _, SchemaType.tower_spells 2 _, ?_⟩
  rw [run_checkArgument, Checking.argument_tower _ hroom]
  rfl

/-! ## Texts as scalars -/

/-- **The texts that are accepted as numbers**, and as which. As an unsigned integer: `0x` and
hexadecimal digits, which are up to case the padded print of the number. As a field element: the
decimal print of a number below the modulus. Behind either may stand one newline, which counts among
the digits of an unsigned integer; nothing else is accepted. -/
theorem scalar_text_accepted_iff (s root : Text) (modulus : Option Int) (c : Config)
    (a : Argument) :
    (∀ (w : Width) (form : NumberForm),
      (checkArgument (.text s) (.type (.uint w form)) root modulus).run.run c = .ok a ↔
        ∃ (digits ending : Text) (n : Nat), s = "0x" ++ digits ++ ending ∧
          (ending = [] ∨ ending = "\n") ∧ digits.length + ending.length = w.bits / 4 ∧
          (∀ d ∈ digits, ∃ k, Hexadecimal.IsDigit d k) ∧ n < 16 ^ digits.length ∧
          digits.map Text.asciiLower = Text.hexPadded digits.length n ∧ a = .int n) ∧
    ((checkArgument (.text s) (.type .field) root modulus).run.run c = .ok a ↔
      ∃ (digits ending : Text) (n : Nat), s = digits ++ ending ∧
        (ending = [] ∨ ending = "\n") ∧ Decimal.IsNumeral digits ∧ digits.length ≤ digitLimit ∧
        digits = Decimal.ofNat n ∧ n < modulus.getD c.fieldModulus ∧ a = .int n) := by
  refine ⟨fun w form => ?_, ?_⟩
  · rw [run_checkArgument, Checking.report_eq_ok]
    refine Iff.trans Checking.uint_eq_ok_iff ?_
    simp only [Value.text.injEq, Hexadecimal.denotes_iff, Numeral.Ending]
    constructor
    · rintro ⟨digits, ending, n, rfl, hending, hlength, ⟨hlt, hprint⟩, rfl⟩
      refine ⟨digits, ending, n, rfl, hending, hlength, ?_, hlt, hprint, rfl⟩
      exact (Hexadecimal.denotes_iff.2 ⟨hlt, hprint⟩).isDigit
    · rintro ⟨digits, ending, n, rfl, hending, hlength, -, hlt, hprint, rfl⟩
      exact ⟨digits, ending, n, rfl, hending, hlength, ⟨hlt, hprint⟩, rfl⟩
  · rw [run_checkArgument, Checking.report_eq_ok]
    refine Iff.trans Checking.field_eq_ok_iff ?_
    simp only [reduceCtorEq, false_or, Value.text.injEq, Numeral.Ending]
    constructor
    · rintro ⟨n, hn, rfl, hlength, ending, hending, rfl⟩
      exact ⟨_, ending, n, rfl, hending, Decimal.isNumeral_ofNat n, hlength, rfl, hn, rfl⟩
    · rintro ⟨_, ending, n, rfl, hending, -, hlength, rfl, hn, rfl⟩
      exact ⟨n, hn, rfl, hlength, ending, hending, rfl⟩

/-- A numeral with a newline behind it is accepted, though it is no numeral: as a field element, and
as an unsigned integer with one digit too few. -/
theorem final_newline_accepted :
    ((checkArgument (.text "7\n") (.type .field) documentRoot (some 11)).run.run
        (Config.ofEnvironment []) = .ok (.int 7) ∧ ¬ Decimal.IsNumeral "7\n") ∧
    (checkArgument (.text "0x7\n") (.type (.uint .w8 .whole)) documentRoot (some 11)).run.run
        (Config.ofEnvironment []) = .ok (.int 7) ∧
      ¬ ∃ digits : Text, "0x7\n" = "0x" ++ digits ∧ ∀ d ∈ digits, ∃ k, Hexadecimal.IsDigit d k := by
  refine ⟨⟨rfl, fun h => h.getLast?_ne rfl⟩, rfl, ?_⟩
  rintro ⟨digits, htext, hdigits⟩
  have hmem : 10 ∈ digits := by
    have hrest : ("7\n" : Text) = digits := congrArg (List.drop 2) htext
    rw [← hrest]
    decide
  obtain ⟨k, hk⟩ := hdigits 10 hmem
  exact Hexadecimal.not_isDigit_newline k hk

end CircuitAbi

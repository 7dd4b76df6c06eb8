import CircuitAbi.Json.Parser
import CircuitAbi.Proofs.Lexing
import Mathlib.Algebra.Ring.Nat

/-!
# What values weigh

The weight of a value is how many octets its text has in the shortest layout. It is counted without
printing: every octet of a string has a price, the number of octets that spell it inside quotes.

* `Value.weight` — the weight; numbers that are not whole, octets and types weigh nothing.
* `Json.length_print_compact` — a plain value printed on one line has as many octets as it weighs.
* `Entries.entriesWeight_ofList_le` — writing entries over each other adds no weight.
-/

set_option autoImplicit false

namespace CircuitAbi

/-! ## Prices of octets -/

/-- How many octets spell an octet inside a string: two where a backslash and a letter do, six where
a control character needs its number, and one for an octet that stands for itself. -/
def octetPrice (b : UInt8) : Nat :=
  if b ∈ ([34, 92, 8, 9, 10, 12, 13] : List UInt8) then 2 else if b.toNat < 32 then 6 else 1

/-- How many octets spell octets inside a string. -/
def octetsPrice (bytes : Bytes) : Nat := (bytes.map octetPrice).sum

@[simp] theorem octetsPrice_nil : octetsPrice [] = 0 := rfl

@[simp] theorem octetsPrice_cons (b : UInt8) (bytes : Bytes) :
    octetsPrice (b :: bytes) = octetPrice b + octetsPrice bytes := by
  rw [octetsPrice, List.map_cons, List.sum_cons, octetsPrice]

@[simp] theorem octetsPrice_append (bs cs : Bytes) :
    octetsPrice (bs ++ cs) = octetsPrice bs + octetsPrice cs := by
  rw [octetsPrice, List.map_append, List.sum_append, octetsPrice, octetsPrice]

@[simp] theorem octetsPrice_reverse (bytes : Bytes) :
    octetsPrice bytes.reverse = octetsPrice bytes := by
  rw [octetsPrice, List.map_reverse, List.sum_reverse, octetsPrice]

theorem octetPrice_le (b : UInt8) : octetPrice b ≤ 6 := by
  unfold octetPrice
  split
  · decide
  · split <;> decide

theorem octetPrice_of_isRaw {b : UInt8} (h : Json.IsRaw b) : octetPrice b = 1 := by
  obtain ⟨hquote, hbackslash, hlow⟩ := h
  have hmem : b ∉ ([34, 92, 8, 9, 10, 12, 13] : List UInt8) := by
    simp only [List.mem_cons, List.not_mem_nil, or_false, hquote, hbackslash, false_or]
    rintro (rfl | rfl | rfl | rfl | rfl) <;> simp at hlow
  rw [octetPrice, if_neg hmem, if_neg (Nat.not_lt.2 hlow)]

theorem octetsPrice_of_isRaw {bytes : Bytes} (h : ∀ b ∈ bytes, Json.IsRaw b) :
    octetsPrice bytes = bytes.length := by
  induction bytes with
  | nil => rfl
  | cons b bytes ih =>
    rw [octetsPrice_cons, octetPrice_of_isRaw (h b List.mem_cons_self),
      ih fun c hc => h c (List.mem_cons_of_mem _ hc), List.length_cons, Nat.add_comm]

theorem octetPrice_control :
    ∀ c < 32, c ∈ [8, 9, 10, 12, 13] ∨ octetPrice (UInt8.ofNat c) = 6 := by
  decide

/-- A character beyond ASCII has at most four octets, all of which stand for themselves. -/
theorem octetsPrice_encodeScalar_le {c : Nat} (hc : Text.isScalar c = true) :
    octetsPrice (Utf8.encodeScalar c) ≤ 6 := by
  by_cases h : c < 0x80
  · rw [Utf8.encodeScalar_one h, octetsPrice_cons, octetsPrice_nil]
    exact octetPrice_le _
  · have hlength := (Utf8.length_encodeScalar c).2
    rw [octetsPrice_of_isRaw (Json.isRaw_encodeScalar hc (by omega) (by omega) (by omega))]
    omega

namespace Json

theorem length_encode_unitEscape (u : Nat) : (Utf8.encode (unitEscape u)).length = 6 := by
  rw [encode_unitEscape, encode_hexPadded]
  rfl

/-- A printed character has as many octets as its own are priced. -/
theorem length_encode_printCodePoint {c : Nat} (hc : Text.isScalar c = true) :
    (Utf8.encode (printCodePoint false c)).length = octetsPrice (Utf8.encodeScalar c) := by
  unfold printCodePoint
  split
  · rename_i h
    rcases h with rfl | rfl <;> rfl
  rename_i hquote
  iterate 5
    split
    · rename_i h
      subst h
      rfl
  rename_i h10 h13 h9 h8 h12
  split
  · rename_i h
    have hlow : c < 32 := h
    have hprice := (octetPrice_control c hlow).resolve_left (by simp [h10, h13, h9, h8, h12])
    rw [length_encode_unitEscape, Utf8.encodeScalar_one (by omega), octetsPrice_cons, hprice,
      octetsPrice_nil]
  · rename_i h
    have hlow : ¬ c < 32 := h
    have hraw := isRaw_encodeScalar hc (by omega) (fun h => hquote (.inl h))
      fun h => hquote (.inr h)
    rw [if_neg (by simp), octetsPrice_of_isRaw hraw]
    exact congrArg List.length (List.append_nil _)

end Json

/-! ## Weights of values -/

/-- The weight of a string: its quotes, and what its octets are priced. -/
def Text.weight (t : Text) : Nat := 2 + octetsPrice (Utf8.encode t)

namespace Value

mutual

/-- The octets of a value's text in the shortest layout. -/
def weight : Value → Nat
  | .null => 4
  | .bool b => if b then 4 else 5
  | .int n => (Decimal.ofInt n).length
  | .text t => Text.weight t
  | .list [] => 2
  | .list (v :: rest) => 2 + v.weight + itemsWeight rest
  | .object [] => 2
  | .object ((k, v) :: rest) => 3 + Text.weight k + v.weight + entriesWeight rest
  | _ => 0
termination_by structural v => v

/-- The weight of items, each with a comma in front. -/
def itemsWeight : List Value → Nat
  | [] => 0
  | v :: rest => 1 + v.weight + itemsWeight rest
termination_by structural vs => vs

/-- The weight of entries, each with a comma in front and a colon after the key. -/
def entriesWeight : List (Text × Value) → Nat
  | [] => 0
  | (k, v) :: rest => 2 + Text.weight k + v.weight + entriesWeight rest
termination_by structural es => es

end

/-- A list weighs what its items do, one octet more for the second bracket; the empty list has no
comma that would count for the first. -/
theorem weight_list (vs : List Value) : (list vs).weight = max 1 (itemsWeight vs) + 1 := by
  cases vs with
  | nil => rfl
  | cons v vs =>
    simp only [weight, itemsWeight]
    omega

theorem weight_object (es : Entries) : (object es).weight = max 1 (entriesWeight es) + 1 := by
  cases es with
  | nil => rfl
  | cons e es =>
    obtain ⟨k, v⟩ := e
    simp only [weight, entriesWeight]
    omega

theorem itemsWeight_eq_sum (vs : List Value) :
    itemsWeight vs = (vs.map fun v => 1 + v.weight).sum := by
  induction vs with
  | nil => rfl
  | cons v vs ih => rw [itemsWeight, ih, List.map_cons, List.sum_cons]

theorem itemsWeight_reverse (vs : List Value) : itemsWeight vs.reverse = itemsWeight vs := by
  rw [itemsWeight_eq_sum, List.map_reverse, List.sum_reverse, itemsWeight_eq_sum]

theorem entriesWeight_eq_sum (es : Entries) :
    entriesWeight es = (es.map fun e => 2 + Text.weight e.1 + e.2.weight).sum := by
  induction es with
  | nil => rfl
  | cons e es ih => rw [entriesWeight, ih, List.map_cons, List.sum_cons]

theorem entriesWeight_append (es fs : Entries) :
    entriesWeight (es ++ fs) = entriesWeight es + entriesWeight fs := by
  rw [entriesWeight_eq_sum, List.map_append, List.sum_append, entriesWeight_eq_sum,
    entriesWeight_eq_sum]

theorem entriesWeight_reverse (es : Entries) : entriesWeight es.reverse = entriesWeight es := by
  rw [entriesWeight_eq_sum, List.map_reverse, List.sum_reverse, entriesWeight_eq_sum]

end Value

namespace Entries

open Value (entriesWeight)

theorem entriesWeight_insert_le (k : Text) (v : Value) (es : Entries) :
    entriesWeight (insert k v es) ≤ entriesWeight es + entriesWeight [(k, v)] := by
  induction es with
  | nil => exact Nat.le_add_left _ _
  | cons e es ih =>
    obtain ⟨k', v'⟩ := e
    rw [insert]
    split
    · rename_i hk
      subst hk
      simp only [entriesWeight]
      omega
    · simp only [entriesWeight] at ih ⊢
      omega

theorem entriesWeight_foldl_insert_le (es done : Entries) :
    entriesWeight (es.foldl (fun done (k, v) => insert k v done) done) ≤
      entriesWeight done + entriesWeight es := by
  induction es generalizing done with
  | nil => exact Nat.le_refl _
  | cons e es ih =>
    obtain ⟨k, v⟩ := e
    have hinsert := entriesWeight_insert_le k v done
    refine Nat.le_trans (ih (insert k v done)) ?_
    simp only [entriesWeight] at hinsert ⊢
    omega

/-- Writing entries one over the other adds no weight. -/
theorem entriesWeight_ofList_le (es : Entries) : entriesWeight (ofList es) ≤ entriesWeight es := by
  have hfold := entriesWeight_foldl_insert_le es []
  rwa [entriesWeight, Nat.zero_add] at hfold

end Entries

/-! ## The shortest layout -/

theorem Utf8.length_encode_of_ascii {t : Text} (h : ∀ c ∈ t, c < 0x80) :
    (Utf8.encode t).length = t.length := by
  induction t with
  | nil => rfl
  | cons c t ih =>
    rw [Utf8.encode_cons, Utf8.encodeScalar_one (h c List.mem_cons_self), List.length_append,
      List.length_singleton, ih fun d hd => h d (List.mem_cons_of_mem _ hd), List.length_cons,
      Nat.add_comm]

namespace Json

open Value (itemsWeight entriesWeight)

theorem length_encode_printText {t : Text} (ht : t.isUnicode = true) :
    (Utf8.encode (printText false t)).length = Text.weight t := by
  have hbody : (Utf8.encode (t.flatMap (printCodePoint false))).length =
      octetsPrice (Utf8.encode t) := by
    induction t with
    | nil => rfl
    | cons c t ih =>
      simp only [Text.isUnicode, List.all_cons, Bool.and_eq_true] at ht
      rw [List.flatMap_cons, Utf8.encode_append, List.length_append,
        length_encode_printCodePoint ht.1, ih ht.2, Utf8.encode_cons, octetsPrice_append]
  have hquote : (Utf8.encode (Text.ofString "\"")).length = 1 := rfl
  rw [printText, Utf8.encode_append, Utf8.encode_append, List.length_append, List.length_append,
    hbody, hquote, Text.weight]
  omega

theorem length_encode_compactLine (level : Nat) :
    (Utf8.encode (Style.compact.line level)).length = 0 := rfl

theorem length_encode_compactAfterKey : (Utf8.encode Style.compact.afterKey).length = 1 := rfl

mutual

theorem length_encode_printAt : ∀ (v : Value) (level : Nat), v.IsPlain →
    (Utf8.encode (printAt .compact level v)).length = v.weight
  | .null => fun _ _ => rfl
  | .bool true => fun _ _ => rfl
  | .bool false => fun _ _ => rfl
  | .int n => fun _ _ => Utf8.length_encode_of_ascii (Decimal.ofInt_ascii n)
  | .real _ => fun _ h => h.elim
  | .text _ => fun _ h => length_encode_printText h
  | .bytes _ => fun _ h => h.elim
  | .type _ => fun _ h => h.elim
  | .list [] => fun _ _ => rfl
  | .list (v :: vs) => by
    intro level h
    have hv := length_encode_printAt v (level + 1) h.1
    have hvs := length_encode_printItems vs level h.2
    have hopen : (Utf8.encode (Text.ofString "[")).length = 1 := rfl
    have hclose : (Utf8.encode (Text.ofString "]")).length = 1 := rfl
    simp only [printAt, Utf8.encode_append, List.length_append, length_encode_compactLine, hopen,
      hclose, hv, hvs, Value.weight]
    omega
  | .object [] => fun _ _ => rfl
  | .object ((k, v) :: es) => by
    intro level h
    have hk : (Utf8.encode (printText Style.compact.ascii k)).length = Text.weight k :=
      length_encode_printText h.2.1.1
    have hv := length_encode_printAt v (level + 1) h.2.1.2
    have hes := length_encode_printEntries es level h.2.2
    have hopen : (Utf8.encode (Text.ofString "\x7b")).length = 1 := rfl
    have hclose : (Utf8.encode (Text.ofString "\x7d")).length = 1 := rfl
    simp only [printAt, Utf8.encode_append, List.length_append, length_encode_compactLine,
      length_encode_compactAfterKey, hopen, hclose, hk, hv, hes, Value.weight]
    omega

theorem length_encode_printItems : ∀ (vs : List Value) (level : Nat), Value.ItemsPlain vs →
    (Utf8.encode (printItems .compact level vs)).length = itemsWeight vs
  | [] => fun _ _ => rfl
  | v :: vs => by
    intro level h
    have hv := length_encode_printAt v (level + 1) h.1
    have hvs := length_encode_printItems vs level h.2
    have hcomma : (Utf8.encode (Text.ofString ",")).length = 1 := rfl
    simp only [printItems, Utf8.encode_append, List.length_append, length_encode_compactLine,
      hcomma, hv, hvs, itemsWeight]

theorem length_encode_printEntries : ∀ (es : List (Text × Value)) (level : Nat),
    Value.EntriesPlain es →
      (Utf8.encode (printEntries .compact level es)).length = entriesWeight es
  | [] => fun _ _ => rfl
  | (k, v) :: es => by
    intro level h
    have hk : (Utf8.encode (printText Style.compact.ascii k)).length = Text.weight k :=
      length_encode_printText h.1.1
    have hv := length_encode_printAt v (level + 1) h.1.2
    have hes := length_encode_printEntries es level h.2
    have hcomma : (Utf8.encode (Text.ofString ",")).length = 1 := rfl
    simp only [printEntries, Utf8.encode_append, List.length_append, length_encode_compactLine,
      length_encode_compactAfterKey, hcomma, hk, hv, hes, entriesWeight]
    omega

end

/-- A plain value printed on one line has as many octets as it weighs. -/
theorem length_print_compact {v : Value} (h : v.IsPlain) :
    (Utf8.encode (print .compact v)).length = v.weight :=
  length_encode_printAt v 0 h

end Json

end CircuitAbi

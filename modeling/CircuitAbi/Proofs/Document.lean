import CircuitAbi.Codec.Encode
import CircuitAbi.Proofs.Embedding
import CircuitAbi.Proofs.Numeral
import CircuitAbi.Proofs.SchemaClass

/-!
# What the documents of interfaces are made of

* `Value.IsPlain` — a value of JSON without real numbers, all of its texts Unicode.
* `Abi.document_isPlain` — every document of an interface is plain, and so are those of types and
  inputs; in particular keys stand once in all of their objects.
* `Abi.numbersFit_document` — where array sizes have few enough digits, so has every number of the
  document.
* `Value.nesting` — how many containers of a value are open at once; `Abi.encodable_of_nesting`: an
  interface whose document nests within the limit can be encoded; `Abi.document_nesting_le`: it does
  where all types can be compared.
* `Json.limit?_eq_none_iff` — what can be printed.
-/

set_option autoImplicit false

namespace CircuitAbi

namespace Value

mutual

/-- A value of JSON without real numbers, all of its texts Unicode. -/
def IsPlain : Value → Prop
  | .null => True
  | .bool _ => True
  | .int _ => True
  | .text t => t.isUnicode = true
  | .list items => ItemsPlain items
  | .object entries => (Entries.keys entries).Nodup ∧ EntriesPlain entries
  | _ => False
termination_by structural v => v

/-- Every item is plain. -/
def ItemsPlain : List Value → Prop
  | [] => True
  | v :: rest => v.IsPlain ∧ ItemsPlain rest
termination_by structural vs => vs

/-- Every entry has a Unicode key and a plain value. -/
def EntriesPlain : List (Text × Value) → Prop
  | [] => True
  | (k, v) :: rest => (k.isUnicode = true ∧ v.IsPlain) ∧ EntriesPlain rest
termination_by structural es => es

end

mutual

theorem IsPlain.isJson : ∀ {v : Value}, v.IsPlain → v.IsJson
  | .null, _ => trivial
  | .bool _, _ => trivial
  | .int _, _ => trivial
  | .text _, _ => trivial
  | .list _, h => ItemsPlain.itemsJson h
  | .object _, h => ⟨h.1, EntriesPlain.entriesJson h.2⟩

theorem ItemsPlain.itemsJson : ∀ {vs : List Value}, ItemsPlain vs → ItemsJson vs
  | [], _ => trivial
  | _ :: _, h => ⟨h.1.isJson, ItemsPlain.itemsJson h.2⟩

theorem EntriesPlain.entriesJson : ∀ {es : List (Text × Value)}, EntriesPlain es → EntriesJson es
  | [], _ => trivial
  | _ :: _, h => ⟨h.1.2.isJson, EntriesPlain.entriesJson h.2⟩

end

theorem itemsPlain_map {α : Type} {document : α → Value} {xs : List α}
    (h : ∀ x ∈ xs, (document x).IsPlain) : ItemsPlain (xs.map document) := by
  induction xs with
  | nil => trivial
  | cons x xs ih =>
    exact ⟨h x List.mem_cons_self, ih fun y hy => h y (List.mem_cons_of_mem _ hy)⟩

end Value

/-! ## Types -/

namespace SchemaType

theorem keys_entries_sublist (t : SchemaType) :
    (Entries.keys t.entries).Sublist ["type", "components"] := by
  cases t with
  | array | struct => exact .refl _
  | _ => exact .cons_cons _ (.cons _ .slnil)

/-- Keys that clash neither with each other nor with `type` and `components` stand once beside the
entries of a type. -/
theorem nodup_front (front : List Text) (t : SchemaType)
    (h : (front ++ (["type", "components"] : List Text)).Nodup) :
    (front ++ Entries.keys t.entries).Nodup :=
  (t.keys_entries_sublist.append_left front).nodup h

theorem isUnicode_kind_uint (w : Width) (form : NumberForm) :
    Text.isUnicode (kind (.uint w form)) = true := by
  cases w <;> cases form <;> decide

mutual

theorem entries_plain : ∀ t : SchemaType, Value.EntriesPlain t.entries
  | .field => ⟨⟨by decide, by simp only [Value.IsPlain]; decide⟩, trivial⟩
  | .bool => ⟨⟨by decide, by simp only [Value.IsPlain]; decide⟩, trivial⟩
  | .uint w form => ⟨⟨by decide, isUnicode_kind_uint w form⟩, trivial⟩
  | .array element _ =>
    ⟨⟨by decide, by simp only [Value.IsPlain]; decide⟩,
      ⟨by decide, nodup_front ["size"] element (by decide), ⟨by decide, trivial⟩,
        entries_plain element⟩, trivial⟩
  | .struct name members =>
    ⟨⟨by decide, by simp only [Value.IsPlain]; decide⟩,
      ⟨by decide, (by decide : (["name", "members"] : List Text).Nodup), ⟨by decide, name.property⟩,
        ⟨by decide, memberDocuments_plain members⟩, trivial⟩, trivial⟩

theorem memberDocuments_plain :
    ∀ ms : List (Name × SchemaType), Value.ItemsPlain (memberDocuments ms)
  | [] => trivial
  | (name, t) :: ms =>
    ⟨⟨nodup_front ["name"] t (by decide), ⟨by decide, name.property⟩, entries_plain t⟩,
      memberDocuments_plain ms⟩

end

theorem document_isPlain (t : SchemaType) : t.document.IsPlain :=
  ⟨nodup_front [] t (by decide), t.entries_plain⟩

end SchemaType

theorem Input.document_isPlain (i : Input) : i.document.IsPlain :=
  ⟨SchemaType.nodup_front ["name", "public"] i.type (by decide), ⟨by decide, i.name.property⟩,
    ⟨by decide, trivial⟩, i.type.entries_plain⟩

/-- **The document of an interface is plain.** -/
theorem Abi.document_isPlain (a : Abi) : a.document.IsPlain :=
  ⟨(by decide : (["inputs", "outputs"] : List Text).Nodup),
    ⟨by decide, Value.itemsPlain_map fun i _ => i.document_isPlain⟩,
    ⟨by decide, Value.itemsPlain_map fun t _ => t.document_isPlain⟩, trivial⟩

theorem Abi.document?_eq_ok_iff {a : Abi} {d : Value} :
    a.document? = .ok d ↔ a.encodable = true ∧ d = a.document := by
  unfold Abi.document?
  split
  · rename_i hencodable
    simp only [hencodable, true_and, Except.ok.injEq]
    exact eq_comm
  · rename_i hencodable
    simp [hencodable]

theorem Abi.encodable_iff {a : Abi} :
    a.encodable = true ↔ a.All fun t => t.depth ≤ nestingLimit := by
  simp only [Abi.encodable, Abi.All, Bool.and_eq_true, List.all_eq_true, decide_eq_true_eq]

/-! ## Numbers -/

namespace Json

mutual

/-- Every whole number in a value has few enough digits to print. -/
def numbersFit : Value → Bool
  | .int n => Decimal.fits n
  | .list items => itemsFit items
  | .object entries => entriesFit entries
  | _ => true
termination_by structural v => v

/-- Every whole number in the items has few enough digits to print. -/
def itemsFit : List Value → Bool
  | [] => true
  | v :: rest => numbersFit v && itemsFit rest
termination_by structural vs => vs

/-- Every whole number in the entries has few enough digits to print. -/
def entriesFit : List (Text × Value) → Bool
  | [] => true
  | (_, v) :: rest => numbersFit v && entriesFit rest
termination_by structural es => es

end

end Json

theorem Json.itemsFit_map_iff {α : Type} {document : α → Value} {xs : List α} :
    Json.itemsFit (xs.map document) = true ↔ ∀ x ∈ xs, Json.numbersFit (document x) = true := by
  induction xs with
  | nil => simp [Json.itemsFit]
  | cons x xs ih =>
    rw [List.map_cons, Json.itemsFit, Bool.and_eq_true, ih, List.forall_mem_cons]

namespace SchemaType

mutual

/-- The only numbers in the document of a type are its array sizes. -/
theorem entriesFit_entries_iff : ∀ t : SchemaType,
    Json.entriesFit t.entries = true ↔ t.SizesBelow (10 ^ digitLimit)
  | .field => iff_of_true rfl nofun
  | .bool => iff_of_true rfl nofun
  | .uint _ _ => iff_of_true rfl nofun
  | .array element size => by
    simp only [entries, Json.entriesFit, Json.numbersFit, Bool.and_true, Bool.true_and,
      Bool.and_eq_true, entriesFit_entries_iff element, Decimal.fits_natCast_iff, sizesBelow_array]
  | .struct _ members => by
    simp only [entries, Json.entriesFit, Json.numbersFit, Bool.and_true, Bool.true_and,
      itemsFit_memberDocuments_iff members, sizesBelow_struct]

theorem itemsFit_memberDocuments_iff : ∀ ms : List (Name × SchemaType),
    Json.itemsFit (memberDocuments ms) = true ↔ ∀ m ∈ ms, m.2.SizesBelow (10 ^ digitLimit)
  | [] => iff_of_true rfl nofun
  | (_, t) :: ms => by
    simp only [memberDocuments, Json.itemsFit, Json.numbersFit, Json.entriesFit, Bool.true_and,
      Bool.and_eq_true, entriesFit_entries_iff t, itemsFit_memberDocuments_iff ms,
      List.forall_mem_cons]

end

end SchemaType

/-- The only numbers in the document of an interface are the array sizes of its types. -/
theorem Abi.numbersFit_document_iff {a : Abi} :
    Json.numbersFit a.document = true ↔ a.All (SchemaType.SizesBelow (10 ^ digitLimit)) := by
  simp only [Abi.document, Json.numbersFit, Json.entriesFit, Bool.and_true, Bool.and_eq_true,
    Json.itemsFit_map_iff, Input.document, Bool.true_and, SchemaType.document,
    SchemaType.entriesFit_entries_iff, Abi.All]

/-- Where array sizes have few enough digits, so has every number of the document. -/
theorem Abi.numbersFit_document {a : Abi} (h : a.All (SchemaType.SizesBelow (10 ^ digitLimit))) :
    Json.numbersFit a.document = true := Abi.numbersFit_document_iff.2 h

/-! ## Nesting -/

namespace Value

mutual

/-- How many containers of a value are open at once at most, the value itself included. -/
def nesting : Value → Nat
  | .list items => itemsNesting items + 1
  | .object entries => entriesNesting entries + 1
  | _ => 0
termination_by structural v => v

/-- The nesting of the deepest item. -/
def itemsNesting : List Value → Nat
  | [] => 0
  | v :: rest => max v.nesting (itemsNesting rest)
termination_by structural vs => vs

/-- The nesting of the deepest value of an entry. -/
def entriesNesting : List (Text × Value) → Nat
  | [] => 0
  | (_, v) :: rest => max v.nesting (entriesNesting rest)
termination_by structural es => es

end

theorem nesting_le_itemsNesting {v : Value} {vs : List Value} (h : v ∈ vs) :
    v.nesting ≤ itemsNesting vs := by
  induction vs with
  | nil => cases h
  | cons w vs ih =>
    rw [itemsNesting]
    rcases List.mem_cons.1 h with rfl | hv
    · exact Nat.le_max_left _ _
    · exact Nat.le_trans (ih hv) (Nat.le_max_right _ _)

theorem itemsNesting_le {vs : List Value} {n : Nat} (h : ∀ v ∈ vs, v.nesting ≤ n) :
    itemsNesting vs ≤ n := by
  induction vs with
  | nil => exact Nat.zero_le n
  | cons v vs ih =>
    obtain ⟨hv, hvs⟩ := List.forall_mem_cons.1 h
    exact Nat.max_le.2 ⟨hv, ih hvs⟩

theorem entriesNesting_eq (es : Entries) :
    entriesNesting es = itemsNesting (es.map Prod.snd) := by
  induction es with
  | nil => rfl
  | cons e es ih => rw [List.map_cons, itemsNesting, ← ih, entriesNesting]

theorem nesting_le_entriesNesting {k : Text} {v : Value} {es : Entries} (h : (k, v) ∈ es) :
    v.nesting ≤ entriesNesting es := by
  rw [entriesNesting_eq]
  exact nesting_le_itemsNesting (List.mem_map_of_mem h)

end Value

namespace Json

mutual

/-- Printing a value meets no limit if all its numbers fit and there is room for its containers. -/
theorem limit?_eq_none_iff : ∀ (v : Value) {room : Nat},
    limit? room v = none ↔ numbersFit v = true ∧ v.nesting ≤ room
  | .null, _ => by simp [limit?, numbersFit, Value.nesting]
  | .bool _, _ => by simp [limit?, numbersFit, Value.nesting]
  | .int n, _ => by simp [limit?, numbersFit, Value.nesting]
  | .real _, _ => by simp [limit?, numbersFit, Value.nesting]
  | .text _, _ => by simp [limit?, numbersFit, Value.nesting]
  | .bytes _, _ => by simp [limit?, numbersFit, Value.nesting]
  | .type _, _ => by simp [limit?, numbersFit, Value.nesting]
  | .list items, 0 => by simp [limit?, Value.nesting]
  | .object entries, 0 => by simp [limit?, Value.nesting]
  | .list items, room + 1 => by
    simp [limit?, numbersFit, Value.nesting, itemsLimit?_eq_none_iff items]
  | .object entries, room + 1 => by
    simp [limit?, numbersFit, Value.nesting, entriesLimit?_eq_none_iff entries]

theorem itemsLimit?_eq_none_iff : ∀ (vs : List Value) {room : Nat},
    itemsLimit? room vs = none ↔ itemsFit vs = true ∧ Value.itemsNesting vs ≤ room
  | [], _ => by simp [itemsLimit?, itemsFit, Value.itemsNesting]
  | v :: vs, _ => by
    simp only [itemsLimit?, itemsFit, Value.itemsNesting, Option.or_eq_none_iff,
      limit?_eq_none_iff v, itemsLimit?_eq_none_iff vs, Bool.and_eq_true, Nat.max_le]
    exact and_and_and_comm

theorem entriesLimit?_eq_none_iff : ∀ (es : List (Text × Value)) {room : Nat},
    entriesLimit? room es = none ↔ entriesFit es = true ∧ Value.entriesNesting es ≤ room
  | [], _ => by simp [entriesLimit?, entriesFit, Value.entriesNesting]
  | (_, v) :: es, _ => by
    simp only [entriesLimit?, entriesFit, Value.entriesNesting, Option.or_eq_none_iff,
      limit?_eq_none_iff v, entriesLimit?_eq_none_iff es, Bool.and_eq_true, Nat.max_le]
    exact and_and_and_comm

end

/-- A value whose numbers fit and that nests within the limit has a JSON text. -/
theorem print?_eq_ok (s : Style) {v : Value} (hfit : numbersFit v = true)
    (hnesting : v.nesting ≤ nestingLimit) : print? s v = .ok (print s v) := by
  rw [print?, (limit?_eq_none_iff v).2 ⟨hfit, hnesting⟩]

/-- No other value has one. -/
theorem exists_print?_iff (s : Style) (v : Value) :
    (∃ t, print? s v = .ok t) ↔ numbersFit v = true ∧ v.nesting ≤ nestingLimit := by
  constructor
  · rintro ⟨t, ht⟩
    refine (limit?_eq_none_iff v).1 ?_
    unfold print? at ht
    cases hlimit : limit? nestingLimit v with
    | none => rfl
    | some l =>
      rw [hlimit] at ht
      cases ht
  · rintro ⟨hfit, hnesting⟩
    exact ⟨_, print?_eq_ok s hfit hnesting⟩

end Json

namespace SchemaType

mutual

/-- The document of a type nests at least as far as the type. -/
theorem depth_le_nesting : ∀ t : SchemaType, t.depth ≤ Value.entriesNesting t.entries + 1
  | .field => Nat.le_add_left _ _
  | .bool => Nat.le_add_left _ _
  | .uint _ _ => Nat.le_add_left _ _
  | .array element _ => by
    have ih := depth_le_nesting element
    simp only [depth, entries, Value.entriesNesting, Value.nesting]
    omega
  | .struct _ members => by
    have ih := membersDepth_le_nesting members
    simp only [depth, entries, Value.entriesNesting, Value.nesting]
    omega

theorem membersDepth_le_nesting :
    ∀ ms : List (Name × SchemaType), membersDepth ms ≤ Value.itemsNesting (memberDocuments ms)
  | [] => Nat.le_refl _
  | (_, t) :: ms => by
    have ht := depth_le_nesting t
    have hms := membersDepth_le_nesting ms
    simp only [membersDepth, memberDocuments, Value.itemsNesting, Value.entriesNesting,
      Value.nesting]
    omega

end

mutual

/-- Comparing a type takes at least two calls for each container that its document opens. -/
theorem nesting_le_calls : ∀ t : SchemaType, 2 * (Value.entriesNesting t.entries + 1) ≤ t.calls + 1
  | .field => Nat.le_refl _
  | .bool => Nat.le_refl _
  | .uint _ _ => Nat.le_refl _
  | .array element _ => by
    have ih := nesting_le_calls element
    simp only [calls, entries, Value.entriesNesting, Value.nesting]
    omega
  | .struct _ members => by
    have ih := membersNesting_le_calls members
    simp only [calls, entries, Value.entriesNesting, Value.nesting]
    omega

theorem membersNesting_le_calls : ∀ ms : List (Name × SchemaType),
    2 * Value.itemsNesting (memberDocuments ms) ≤ membersCalls ms + 1
  | [] => Nat.zero_le _
  | (_, t) :: ms => by
    have ht := nesting_le_calls t
    have hms := membersNesting_le_calls ms
    simp only [membersCalls, memberDocuments, Value.itemsNesting, Value.entriesNesting,
      Value.nesting]
    omega

end

end SchemaType

/-- A type that can be compared has a document that nests within half of the limit. -/
theorem SchemaType.document_nesting_le {t : SchemaType} (h : t.calls ≤ callLimit) :
    t.document.nesting ≤ nestingLimit / 2 := by
  have hcalls := t.nesting_le_calls
  simp only [document, Value.nesting, nestingLimit, callLimit] at *
  omega

/-- An interface whose types can be compared has a document that nests within the limit. -/
theorem Abi.document_nesting_le {a : Abi} (h : a.All fun t => t.calls ≤ callLimit) :
    a.document.nesting ≤ nestingLimit := by
  have hinputs : Value.itemsNesting (a.inputs.map Input.document) ≤ nestingLimit / 2 := by
    refine Value.itemsNesting_le fun v hv => ?_
    obtain ⟨i, hi, rfl⟩ := List.mem_map.1 hv
    have hnesting := SchemaType.document_nesting_le (h.1 i hi)
    simp only [Input.document, SchemaType.document, Value.nesting, Value.entriesNesting]
      at hnesting ⊢
    omega
  have houtputs : Value.itemsNesting (a.outputs.map SchemaType.document) ≤ nestingLimit / 2 := by
    refine Value.itemsNesting_le fun v hv => ?_
    obtain ⟨t, ht, rfl⟩ := List.mem_map.1 hv
    exact SchemaType.document_nesting_le (h.2 t ht)
  simp only [Abi.document, Value.nesting, Value.entriesNesting, nestingLimit, callLimit] at *
  omega

/-- An interface whose document nests within the limit can be encoded. -/
theorem Abi.encodable_of_nesting {a : Abi} (h : a.document.nesting ≤ nestingLimit) :
    a.encodable = true := by
  simp only [Abi.document, Value.nesting, Value.entriesNesting] at h
  rw [Abi.encodable, Bool.and_eq_true, List.all_eq_true, List.all_eq_true]
  refine ⟨fun i hi => decide_eq_true ?_, fun t ht => decide_eq_true ?_⟩
  · have hdepth := i.type.depth_le_nesting
    have hmem := Value.nesting_le_itemsNesting (List.mem_map_of_mem (f := Input.document) hi)
    simp only [Input.document, Value.nesting, Value.entriesNesting] at hmem
    omega
  · have hdepth := t.depth_le_nesting
    have hmem := Value.nesting_le_itemsNesting (List.mem_map_of_mem (f := SchemaType.document) ht)
    simp only [SchemaType.document, Value.nesting] at hmem
    omega

end CircuitAbi

import CircuitAbi.Codec.Decode
import CircuitAbi.Codec.Encode
import CircuitAbi.Proofs.Embedding
import CircuitAbi.Proofs.Outcome
import CircuitAbi.Proofs.SchemaClass

/-!
# What decoding accepts

One lemma for each step of the decoder says when it succeeds and with what; together they give the
documents from which an interface is decoded:

* `Decoding.entries_eq_ok_iff` — a type lies in an object exactly when the object holds the entries
  of its document.
* `Value.decodeType_eq_ok_iff`, `Value.decodeInput_eq_ok_iff`, `Value.decodeAbi_eq_ok_iff` — the
  document of what was decoded is embedded in the document that was read, strictly in strict mode.
-/

set_option autoImplicit false

namespace CircuitAbi

namespace Decoding

variable {α : Type}

/-! ## The steps -/

theorem fail_ne_ok {fault : DecodeFault} {a : α} : (fail fault : Decoding α) ≠ .ok a := by
  simp [fail]

theorem within_eq_ok {step : Accessor} {x : Decoding α} {a : α} :
    within step x = .ok a ↔ x = .ok a := by
  cases x with
  | ok b => rfl
  | error stop => cases stop <;> simp [within]

theorem object_eq_ok {role : Text} {v : Value} {es : Entries} :
    object role v = .ok es ↔ v = .object es := by
  cases v <;> simp [object, fail]

theorem require_eq_ok {key : Text} {doc : Entries} {v : Value} :
    require key doc = .ok v ↔ doc.get? key = some v := by
  unfold require
  cases doc.get? key <;> simp [fail]

theorem text_eq_ok {key : Text} {doc : Entries} {t : Text} :
    text key doc = .ok t ↔ doc.get? key = some (.text t) := by
  simp only [text, bind_eq_ok, require_eq_ok]
  constructor
  · rintro ⟨v, hv, h⟩
    cases v with
    | text u => rw [hv, pure_eq_ok.1 h]
    | _ => exact absurd (within_eq_ok.1 h) fail_ne_ok
  · intro h
    exact ⟨_, h, rfl⟩

theorem list_eq_ok {key : Text} {doc : Entries} {items : List Value} :
    list key doc = .ok items ↔ doc.get? key = some (.list items) := by
  simp only [list, bind_eq_ok, require_eq_ok]
  constructor
  · rintro ⟨v, hv, h⟩
    cases v with
    | list vs => rw [hv, pure_eq_ok.1 h]
    | _ => exact absurd (within_eq_ok.1 h) fail_ne_ok
  · intro h
    exact ⟨_, h, rfl⟩

/-- In strict mode, no keys beside the allowed ones. -/
def OnlyKeys (strict : Bool) (allowed : List Text) (doc : Entries) : Prop :=
  strict = true → ∀ k ∈ doc.keys, k ∈ allowed

theorem checkKeys_eq_ok {strict : Bool} {allowed : List Text} {doc : Entries} :
    checkKeys strict allowed doc = .ok () ↔ OnlyKeys strict allowed doc := by
  unfold checkKeys OnlyKeys
  cases strict with
  | false => simp [pure, Except.pure]
  | true =>
    simp only [if_true, forall_const]
    split
    · rename_i key v hfind
      have hmem := List.mem_of_find?_eq_some hfind
      have hnot := List.find?_some hfind
      simp only [Bool.not_eq_true', List.contains_eq_mem, decide_eq_false_iff_not] at hnot
      simp only [fail, reduceCtorEq, false_iff]
      exact fun h => hnot (h key (Entries.mem_keys_of_mem hmem))
    · rename_i hfind
      simp only [pure, Except.pure, true_iff]
      intro k hk
      obtain ⟨v, hv⟩ := Entries.mem_keys_iff.1 hk
      simpa using List.find?_eq_none.1 hfind _ hv

theorem name_eq_ok {owner : NameOwner} {t : Text} {n : Name} :
    name owner t = .ok n ↔ t = n.val := by
  unfold name
  split
  · rename_i m hm
    rw [Name.ofText?_eq_some_iff] at hm
    subst hm
    simp [Subtype.ext_iff]
  · rename_i hm
    simp only [reduceCtorEq, false_iff]
    rintro rfl
    simp at hm

theorem size_eq_ok {v : Value} {n : Nat} : size v = .ok n ↔ v = .int n := by
  unfold size
  split
  · constructor
    · intro h
      cases h
      rfl
    · intro h
      cases h
      rfl
  · rename_i m hm
    have hneg : m ≠ n := by
      rintro rfl
      exact hm n rfl
    split <;> simp [fail, hneg]
  · rename_i hm _
    constructor
    · intro h
      exact absurd h fail_ne_ok
    · rintro rfl
      exact absurd rfl (hm _)

theorem items_eq_ok {decode : Value → Decoding α} {vs : List Value} {xs : List α} :
    items decode vs = .ok xs ↔ List.Forall₂ (fun v x => decode v = .ok x) vs xs :=
  mapM_zipIdx_eq_ok within_eq_ok

end Decoding

/-- The word that announces a kind. -/
def TypeKind.word : TypeKind → Text
  | field => "field"
  | bool => "bool"
  | uint w => SchemaType.kind (.uint w .whole)
  | array => "array"
  | struct => "struct"

theorem TypeKind.ofText?_word (k : TypeKind) : ofText? k.word = some k := by
  cases k with
  | uint w => cases w <;> decide
  | _ => decide

theorem TypeKind.ofText?_eq_some_iff {t : Text} {k : TypeKind} :
    ofText? t = some k ↔ t = k.word := by
  constructor
  · intro h
    unfold ofText? at h
    repeat' split at h
    all_goals cases h
    all_goals
      subst_vars
      decide
  · rintro rfl
    exact ofText?_word k

/-! ## Types -/

namespace Decoding

/-- What the decoder asks of an object for a type to lie in it, one level of the type at a time. -/
def Level (strict : Bool) (room : Nat) (own : List Text) (doc : Entries) : SchemaType → Prop
  | .array element n =>
    OnlyKeys strict ("type" :: "components" :: own) doc ∧
      ∃ parts, doc.get? "components" = some (.object parts) ∧
        Entries.get? "size" parts = some (.int n) ∧ entries strict room ["size"] parts = .ok element
  | .struct structName members =>
    OnlyKeys strict ("type" :: "components" :: own) doc ∧
      ∃ parts, doc.get? "components" = some (.object parts) ∧
        OnlyKeys strict ["name", "members"] parts ∧
        Entries.get? "name" parts = some (.text structName.val) ∧
        ∃ given, Entries.get? "members" parts = some (.list given) ∧
          List.Forall₂ (fun v (m : Name × SchemaType) =>
            ∃ doc, v = .object doc ∧ doc.get? "name" = some (.text m.1.val) ∧
              entries strict room ["name"] doc = .ok m.2) given members
  | .uint _ .real => False
  | _ => OnlyKeys strict ("type" :: own) doc

/-- The kind that announces a type. -/
def kindOf : SchemaType → TypeKind
  | .field => .field
  | .bool => .bool
  | .uint w _ => .uint w
  | .array _ _ => .array
  | .struct _ _ => .struct

theorem leaf_eq_ok {strict : Bool} {allowed : List Text} {doc : Entries} {s t : SchemaType} :
    (do checkKeys strict allowed doc; return s : Decoding SchemaType) = .ok t ↔
      s = t ∧ OnlyKeys strict allowed doc := by
  rw [bind_eq_ok]
  constructor
  · rintro ⟨⟨⟩, hkeys, h⟩
    exact ⟨pure_eq_ok.1 h, checkKeys_eq_ok.1 hkeys⟩
  · rintro ⟨h, hkeys⟩
    exact ⟨(), checkKeys_eq_ok.2 hkeys, pure_eq_ok.2 h⟩

/-- Below an object that announces a kind lies a type of that kind. -/
theorem entries_of_kind {strict : Bool} {room : Nat} {own : List Text} {doc : Entries}
    {kind : TypeKind} {t : SchemaType} (hkind : doc.get? "type" = some (.text kind.word)) :
    entries strict (room + 1) own doc = .ok t ↔ kindOf t = kind ∧ Level strict room own doc t := by
  rw [entries, require_eq_ok.2 hkind, ok_bind]
  simp only [TypeKind.ofText?_word]
  cases kind with
  | field =>
    simp only [leaf_eq_ok]
    cases t <;> simp [kindOf, Level]
  | bool =>
    simp only [leaf_eq_ok]
    cases t <;> simp [kindOf, Level]
  | uint w =>
    simp only [leaf_eq_ok]
    cases t with
    | uint w' form => cases form <;> simp [kindOf, Level, eq_comm]
    | _ => simp [kindOf]
  | array =>
    simp only [bind_eq_ok, within_eq_ok, object_eq_ok, require_eq_ok, size_eq_ok, pure_eq_ok]
    constructor
    · rintro ⟨⟨⟩, hkeys, _, hparts, parts, rfl, _, hsize, n, rfl, element, helement, rfl⟩
      exact ⟨rfl, checkKeys_eq_ok.1 hkeys, parts, hparts, hsize, helement⟩
    · rintro ⟨hk, h⟩
      cases t with
      | array element n =>
        obtain ⟨hkeys, parts, hparts, hsize, helement⟩ := h
        exact ⟨(), checkKeys_eq_ok.2 hkeys, _, hparts, parts, rfl, _, hsize, n, rfl, element,
          helement, rfl⟩
      | _ => cases hk
  | struct =>
    simp only [bind_eq_ok, within_eq_ok, object_eq_ok, require_eq_ok, text_eq_ok, list_eq_ok,
      items_eq_ok, name_eq_ok, pure_eq_ok]
    constructor
    · rintro ⟨⟨⟩, hkeys, _, hparts, parts, rfl, ⟨⟩, hpartKeys, _, hname, given, hgiven, members,
        hmembers, structName, rfl, rfl⟩
      refine ⟨rfl, checkKeys_eq_ok.1 hkeys, parts, hparts, checkKeys_eq_ok.1 hpartKeys, hname,
        given, hgiven, hmembers.imp ?_⟩
      rintro v m ⟨doc, rfl, _, hmemberName, mt, hmt, n, rfl, rfl⟩
      exact ⟨doc, rfl, hmemberName, hmt⟩
    · rintro ⟨hk, h⟩
      cases t with
      | struct structName members =>
        obtain ⟨hkeys, parts, hparts, hpartKeys, hname, given, hgiven, hmembers⟩ := h
        refine ⟨(), checkKeys_eq_ok.2 hkeys, _, hparts, parts, rfl, (),
          checkKeys_eq_ok.2 hpartKeys, _, hname, given, hgiven, members, hmembers.imp ?_,
          structName, rfl, rfl⟩
        rintro v m ⟨doc, rfl, hmemberName, hmt⟩
        exact ⟨doc, rfl, _, hmemberName, m.2, hmt, m.1, rfl, rfl⟩
      | _ => cases hk

/-- A type is decoded from an object that announces its kind and has its parts. -/
theorem entries_succ_eq_ok {strict : Bool} {room : Nat} {own : List Text} {doc : Entries}
    {t : SchemaType} :
    entries strict (room + 1) own doc = .ok t ↔
      doc.get? "type" = some (.text (kindOf t).word) ∧ Level strict room own doc t := by
  constructor
  · intro h
    have hstart := h
    rw [entries] at hstart
    obtain ⟨v, hv, hrest⟩ := bind_eq_ok.1 hstart
    rw [require_eq_ok] at hv
    cases v with
    | text word =>
      cases hk : TypeKind.ofText? word with
      | none =>
        simp only [hk] at hrest
        exact absurd (within_eq_ok.1 hrest) fail_ne_ok
      | some kind =>
        rw [TypeKind.ofText?_eq_some_iff] at hk
        subst hk
        obtain ⟨rfl, hlevel⟩ := (entries_of_kind hv).1 h
        exact ⟨hv, hlevel⟩
    | _ => exact absurd (within_eq_ok.1 hrest) fail_ne_ok
  · rintro ⟨hkind, h⟩
    exact (entries_of_kind hkind).2 ⟨rfl, h⟩

/-! ## Types and what is laid beside them -/

theorem entriesEmbedded_append {strict : Bool} {front es doc : Entries} :
    Value.EntriesEmbedded strict (front ++ es) doc ↔
      Value.EntriesEmbedded strict front doc ∧ Value.EntriesEmbedded strict es doc := by
  simp only [Value.entriesEmbedded_iff, List.mem_append]
  constructor
  · intro h
    exact ⟨fun k v hm => h k v (.inl hm), fun k v hm => h k v (.inr hm)⟩
  · rintro ⟨h, h'⟩ k v (hm | hm)
    · exact h k v hm
    · exact h' k v hm

/-- When a type lies in an object of a document: the type is within the limit and has whole widths,
and the object holds the entries of its document and, in strict mode, no others than these and the
object's own. -/
def Describes (strict : Bool) (room : Nat) (own : List Text) (doc : Entries) (t : SchemaType) :
    Prop :=
  t.depth ≤ room ∧ t.WholeWidths ∧ Value.EntriesEmbedded strict t.entries doc ∧
    OnlyKeys strict (Entries.keys t.entries ++ own) doc

/-- A type beside entries of the object that holds it, as one embedded object. -/
theorem describes_front_iff {strict : Bool} {room : Nat} {front : Entries} {t : SchemaType}
    {v : Value} :
    (∃ doc, v = .object doc ∧ Value.EntriesEmbedded strict front doc ∧
      Describes strict room (Entries.keys front) doc t) ↔
      t.depth ≤ room ∧ t.WholeWidths ∧
        (Value.object (front ++ t.entries)).Embedded strict v := by
  simp only [Value.Embedded, entriesEmbedded_append, Describes, OnlyKeys, Entries.keys,
    List.map_append, List.mem_append]
  constructor
  · rintro ⟨doc, rfl, hfront, hdepth, hwidths, hes, hkeys⟩
    exact ⟨hdepth, hwidths, doc, rfl, ⟨hfront, hes⟩, fun hs k hk => (hkeys hs k hk).symm⟩
  · rintro ⟨hdepth, hwidths, doc, rfl, ⟨hfront, hes⟩, hkeys⟩
    exact ⟨doc, rfl, hfront, hdepth, hwidths, hes, fun hs k hk => (hkeys hs k hk).symm⟩

mutual

/-- **The type that lies in an object**: the decoder finds it exactly when the object holds the
entries of its document. -/
theorem entries_eq_ok_iff (strict : Bool) : ∀ (t : SchemaType) {room : Nat} {own : List Text}
    {doc : Entries}, entries strict room own doc = .ok t ↔ Describes strict room own doc t
  | t, 0, own, doc => by
    have hdepth := t.depth_pos
    simp only [entries, reduceCtorEq, Describes, false_iff]
    omega
  | .field, room + 1, own, doc => by
    rw [entries_succ_eq_ok]
    simp [Describes, Level, SchemaType.depth, SchemaType.entries, Value.EntriesEmbedded,
      Value.Embedded, kindOf, TypeKind.word, OnlyKeys]
  | .bool, room + 1, own, doc => by
    rw [entries_succ_eq_ok]
    simp [Describes, Level, SchemaType.depth, SchemaType.entries, Value.EntriesEmbedded,
      Value.Embedded, kindOf, TypeKind.word, OnlyKeys]
  | .uint w .whole, room + 1, own, doc => by
    rw [entries_succ_eq_ok]
    simp [Describes, Level, SchemaType.depth, SchemaType.entries, Value.EntriesEmbedded,
      Value.Embedded, kindOf, TypeKind.word, OnlyKeys]
  | .uint w .real, room + 1, own, doc => by
    rw [entries_succ_eq_ok]
    simp [Describes, Level]
  | .array element n, room + 1, own, doc => by
    have hfront {v : Value} := @describes_front_iff strict room [("size", .int n)] element v
    rw [entries_succ_eq_ok]
    constructor
    · rintro ⟨htype, hkeys, parts, hparts, hsize, helement⟩
      rw [entries_eq_ok_iff strict element] at helement
      obtain ⟨hdepth, hwidths, hembedded⟩ :=
        hfront.1 ⟨parts, rfl, ⟨⟨_, hsize, rfl⟩, trivial⟩, helement⟩
      exact ⟨Nat.succ_le_succ hdepth, SchemaType.wholeWidths_array.2 hwidths,
        ⟨⟨_, htype, rfl⟩, ⟨_, hparts, hembedded⟩, trivial⟩, hkeys⟩
    · rintro ⟨hdepth, hwidths, ⟨⟨_, htype, rfl⟩, ⟨_, hparts, hembedded⟩, -⟩, hkeys⟩
      obtain ⟨parts, rfl, ⟨⟨_, hsize, rfl⟩, -⟩, helement⟩ := hfront.2
        ⟨Nat.le_of_succ_le_succ hdepth, SchemaType.wholeWidths_array.1 hwidths, hembedded⟩
      exact ⟨htype, hkeys, parts, hparts, hsize, (entries_eq_ok_iff strict element).2 helement⟩
  | .struct structName members, room + 1, own, doc => by
    rw [entries_succ_eq_ok]
    constructor
    · rintro ⟨htype, hkeys, parts, hparts, hpartKeys, hname, given, hgiven, hmembers⟩
      obtain ⟨hdepth, hwidths, hembedded⟩ := (members_eq_ok_iff strict members).1 hmembers
      exact ⟨Nat.succ_le_succ hdepth, ⟨(fun _ h => nomatch h), hwidths⟩,
        ⟨⟨_, htype, rfl⟩, ⟨_, hparts, parts, rfl,
          ⟨⟨_, hname, rfl⟩, ⟨_, hgiven, given, rfl, hembedded⟩, trivial⟩, hpartKeys⟩, trivial⟩,
        hkeys⟩
    · rintro ⟨hdepth, ⟨-, hwidths⟩, ⟨⟨_, htype, rfl⟩, ⟨_, hparts, parts, rfl,
        ⟨⟨_, hname, rfl⟩, ⟨_, hgiven, given, rfl, hembedded⟩, -⟩, hpartKeys⟩, -⟩, hkeys⟩
      exact ⟨htype, hkeys, parts, hparts, hpartKeys, hname, given, hgiven,
        (members_eq_ok_iff strict members).2
          ⟨Nat.le_of_succ_le_succ hdepth, hwidths, hembedded⟩⟩

/-- The members that documents describe, one each. -/
theorem members_eq_ok_iff (strict : Bool) : ∀ (ms : List (Name × SchemaType)) {room : Nat}
    {given : List Value},
    List.Forall₂ (fun v (m : Name × SchemaType) =>
      ∃ doc, v = .object doc ∧ doc.get? "name" = some (.text m.1.val) ∧
        entries strict room ["name"] doc = .ok m.2) given ms ↔
      SchemaType.membersDepth ms ≤ room ∧
        SchemaType.MembersEverywhere (fun t => ∀ w, t ≠ .uint w .real) ms ∧
        Value.ItemsEmbedded strict (SchemaType.memberDocuments ms) given
  | [], room, given => by
    simp [SchemaType.membersDepth, SchemaType.MembersEverywhere, SchemaType.memberDocuments,
      Value.ItemsEmbedded]
  | (memberName, t) :: ms, room, given => by
    have hfront {v : Value} :=
      @describes_front_iff strict room [("name", .text memberName.val)] t v
    rw [List.forall₂_cons_right_iff]
    simp only [members_eq_ok_iff strict ms, entries_eq_ok_iff strict t, SchemaType.membersDepth,
      Nat.max_le]
    constructor
    · rintro ⟨v, rest, ⟨doc, rfl, hname, ht⟩, ⟨hdepths, hwidths, hembedded⟩, rfl⟩
      obtain ⟨hdepth, hwidth, hv⟩ := hfront.1 ⟨doc, rfl, ⟨⟨_, hname, rfl⟩, trivial⟩, ht⟩
      exact ⟨⟨hdepth, hdepths⟩, ⟨hwidth, hwidths⟩, _, rest, rfl, hv, hembedded⟩
    · rintro ⟨⟨hdepth, hdepths⟩, ⟨hwidth, hwidths⟩, v, rest, rfl, hv, hembedded⟩
      obtain ⟨doc, rfl, ⟨⟨_, hname, rfl⟩, -⟩, ht⟩ := hfront.2 ⟨hdepth, hwidth, hv⟩
      exact ⟨_, rest, ⟨doc, rfl, hname, ht⟩, ⟨hdepths, hwidths, hembedded⟩, rfl⟩

end

/-! ## Documents -/

theorem type_eq_ok_iff {strict : Bool} {role : Text} {doc : Value} {t : SchemaType} :
    type strict role doc = .ok t ↔
      t.depth ≤ nestingLimit ∧ t.WholeWidths ∧ t.document.Embedded strict doc := by
  simp only [type, bind_eq_ok, object_eq_ok, entries_eq_ok_iff]
  refine Iff.trans ?_ (@describes_front_iff strict nestingLimit [] t doc)
  constructor
  · rintro ⟨es, rfl, h⟩
    exact ⟨es, rfl, trivial, h⟩
  · rintro ⟨es, rfl, -, h⟩
    exact ⟨es, rfl, h⟩

theorem input_eq_ok_iff {strict : Bool} {doc : Value} {i : Input} :
    input strict doc = .ok i ↔
      i.type.depth ≤ nestingLimit ∧ i.type.WholeWidths ∧ i.document.Embedded strict doc := by
  refine Iff.trans ?_ (@describes_front_iff strict nestingLimit
    [("name", .text i.name.val), ("public", .bool i.disclosed)] i.type doc)
  simp only [input, bind_eq_ok, object_eq_ok, text_eq_ok, require_eq_ok]
  constructor
  · rintro ⟨es, rfl, _, hname, v, hpublic, h⟩
    cases v with
    | bool b =>
      simp only [bind_eq_ok, entries_eq_ok_iff, name_eq_ok, pure_eq_ok] at h
      obtain ⟨_, rfl, t, ht, n, rfl, rfl⟩ := h
      exact ⟨es, rfl, ⟨⟨_, hname, rfl⟩, ⟨_, hpublic, rfl⟩, trivial⟩, ht⟩
    | _ =>
      obtain ⟨_, hfail, -⟩ := bind_eq_ok.1 h
      exact absurd (within_eq_ok.1 hfail) fail_ne_ok
  · rintro ⟨es, rfl, ⟨⟨_, hname, rfl⟩, ⟨_, hpublic, rfl⟩, -⟩, ht⟩
    refine ⟨es, rfl, _, hname, _, hpublic, ?_⟩
    simp only [bind_eq_ok, entries_eq_ok_iff, name_eq_ok, pure_eq_ok]
    exact ⟨_, rfl, i.type, ht, i.name, rfl, rfl⟩

/-- Items that are decoded one by one, each exactly when the document of the result is embedded in
it and the result is of a class. -/
theorem items_eq_ok_iff_embedded {α : Type} {strict : Bool} {decode : Value → Decoding α}
    {document : α → Value} {p : α → Prop}
    (h : ∀ {v x}, decode v = .ok x ↔ p x ∧ (document x).Embedded strict v)
    {vs : List Value} {xs : List α} :
    items decode vs = .ok xs ↔
      (∀ x ∈ xs, p x) ∧ Value.ItemsEmbedded strict (xs.map document) vs := by
  rw [items_eq_ok, Value.itemsEmbedded_iff, List.forall₂_map_left_iff]
  simp only [h]
  induction xs generalizing vs with
  | nil => simp
  | cons x xs ih =>
    simp only [List.forall₂_cons_left_iff, List.forall₂_cons_right_iff, List.forall_mem_cons, ih]
    constructor
    · rintro ⟨v, rest, ⟨hp, hv⟩, ⟨hps, hrest⟩, rfl⟩
      exact ⟨⟨hp, hps⟩, v, rest, hv, hrest, rfl⟩
    · rintro ⟨⟨hp, hps⟩, v, rest, hv, hrest, rfl⟩
      exact ⟨v, rest, ⟨hp, hv⟩, ⟨hps, hrest⟩, rfl⟩

theorem abi_eq_ok_iff {strict : Bool} {doc : Value} {a : Abi} :
    abi strict doc = .ok a ↔
      (a.encodable = true ∧ a.All SchemaType.WholeWidths) ∧ a.document.Embedded strict doc := by
  have hinputs {vs : List Value} {xs : List Input} := @items_eq_ok_iff_embedded Input strict
    (input strict) Input.document (fun i => i.type.depth ≤ nestingLimit ∧ i.type.WholeWidths)
    (by simp only [input_eq_ok_iff, and_assoc, implies_true]) vs xs
  have houtputs {vs : List Value} {xs : List SchemaType} := @items_eq_ok_iff_embedded SchemaType
    strict (type strict "output") SchemaType.document
    (fun t => t.depth ≤ nestingLimit ∧ t.WholeWidths)
    (by simp only [type_eq_ok_iff, and_assoc, implies_true]) vs xs
  simp only [abi, bind_eq_ok, object_eq_ok, list_eq_ok, within_eq_ok, hinputs, houtputs, pure_eq_ok,
    Abi.encodable, Abi.All, Bool.and_eq_true, List.all_eq_true, decide_eq_true_eq]
  constructor
  · rintro ⟨es, rfl, ⟨⟩, hkeys, givenInputs, hgivenInputs, givenOutputs, hgivenOutputs, ins,
      ⟨hins, hinsEmbedded⟩, outs, ⟨houts, houtsEmbedded⟩, rfl⟩
    exact ⟨⟨⟨fun i hi => (hins i hi).1, fun t ht => (houts t ht).1⟩,
      fun i hi => (hins i hi).2, fun t ht => (houts t ht).2⟩, es, rfl,
      ⟨⟨_, hgivenInputs, _, rfl, hinsEmbedded⟩, ⟨_, hgivenOutputs, _, rfl, houtsEmbedded⟩, trivial⟩,
      checkKeys_eq_ok.1 hkeys⟩
  · rintro ⟨⟨⟨hinsDepth, houtsDepth⟩, hinsWidths, houtsWidths⟩, es, rfl,
      ⟨⟨_, hgivenInputs, givenInputs, rfl, hinsEmbedded⟩,
        ⟨_, hgivenOutputs, givenOutputs, rfl, houtsEmbedded⟩, -⟩, hkeys⟩
    exact ⟨es, rfl, (), checkKeys_eq_ok.2 hkeys, givenInputs, hgivenInputs, givenOutputs,
      hgivenOutputs, a.inputs, ⟨fun i hi => ⟨hinsDepth i hi, hinsWidths i hi⟩, hinsEmbedded⟩,
      a.outputs, ⟨fun t ht => ⟨houtsDepth t ht, houtsWidths t ht⟩, houtsEmbedded⟩, rfl⟩

theorem report_eq_ok {α : Type} {part : DocumentPart} {root : Text} {x : Decoding α} {a : α} :
    report part root x = .ok a ↔ x = .ok a := by
  cases x with
  | ok b => simp [report]
  | error stop =>
    cases stop with
    | limit l => cases l <;> simp [report]
    | _ => simp [report]

end Decoding

namespace Value

variable {strict : Bool} {root : Text} {doc : Value}

/-- **The type of a type document**: the one whose own document is embedded in it. -/
theorem decodeType_eq_ok_iff {t : SchemaType} :
    doc.decodeType strict root = .ok t ↔
      t.WholeWidths ∧ ∃ d, (Value.type t).typeDocument = .ok d ∧ d.Embedded strict doc := by
  rw [decodeType, Decoding.report_eq_ok, Decoding.type_eq_ok_iff, typeDocument]
  by_cases hdepth : t.depth ≤ nestingLimit
  · rw [if_neg (Nat.not_lt.2 hdepth)]
    simp [hdepth]
  · rw [if_pos (Nat.lt_of_not_le hdepth)]
    simp [hdepth]

/-- **The input of an input document**: the one whose own document is embedded in it. -/
theorem decodeInput_eq_ok_iff {i : Input} :
    doc.decodeInput strict root = .ok i ↔
      i.type.WholeWidths ∧ ∃ d, i.document? = .ok d ∧ d.Embedded strict doc := by
  rw [decodeInput, Decoding.report_eq_ok, Decoding.input_eq_ok_iff, Input.document?]
  by_cases hdepth : i.type.depth ≤ nestingLimit
  · rw [if_neg (Nat.not_lt.2 hdepth)]
    simp [hdepth]
  · rw [if_pos (Nat.lt_of_not_le hdepth)]
    simp [hdepth]

/-- **The interface of a document**: the one whose own document is embedded in it. -/
theorem decodeAbi_eq_ok_iff {a : Abi} :
    doc.decodeAbi strict = .ok a ↔
      a.All SchemaType.WholeWidths ∧ ∃ d, a.document? = .ok d ∧ d.Embedded strict doc := by
  rw [decodeAbi, Decoding.report_eq_ok, Decoding.abi_eq_ok_iff, Abi.document?]
  cases a.encodable with
  | true => simp
  | false => simp

end Value

end CircuitAbi

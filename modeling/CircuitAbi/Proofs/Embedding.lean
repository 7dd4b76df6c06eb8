import CircuitAbi.Value.Basic
import Mathlib.Data.List.Forall2
import Mathlib.Data.List.Nodup
import Mathlib.Data.List.Perm.Basic

/-!
# Values inside values

How two values of JSON can agree:

* `Value.IsJson` — a value of JSON: no octets or types in it, and every key of an object stands
  once.
* `Value.Embedded` — the second value holds what the first does; in strict mode nothing else.
* `Value.Reordered` — the two differ only in the order of object entries, at any depth.

Principal results: between values of JSON, strict embedding is reordering (`embedded_true_iff`), and
reordering goes both ways (`Reordered.symm`).
-/

set_option autoImplicit false

namespace CircuitAbi

namespace Entries

/-- The keys in order. -/
def keys (es : Entries) : List Text := es.map Prod.fst

@[simp] theorem keys_nil : keys [] = [] := rfl

@[simp] theorem keys_cons (k : Text) (v : Value) (es : Entries) :
    keys ((k, v) :: es) = k :: keys es := rfl

theorem mem_keys_of_mem {k : Text} {v : Value} {es : Entries} (h : (k, v) ∈ es) : k ∈ keys es :=
  List.mem_map_of_mem h

theorem mem_keys_iff {k : Text} {es : Entries} : k ∈ keys es ↔ ∃ v, (k, v) ∈ es := by
  simp [keys]

theorem mem_of_get? {k : Text} {v : Value} {es : Entries} (h : get? k es = some v) :
    (k, v) ∈ es := by
  induction es with
  | nil => cases h
  | cons e es ih =>
    obtain ⟨k', v'⟩ := e
    rw [get?_cons] at h
    split at h
    · rename_i hk
      cases h
      rw [hk]
      exact List.mem_cons_self
    · exact List.mem_cons_of_mem _ (ih h)

/-- Where keys stand once, the value of a key is the one beside it. -/
theorem get?_of_mem {k : Text} {v : Value} {es : Entries} (hes : (keys es).Nodup)
    (h : (k, v) ∈ es) : get? k es = some v := by
  induction es with
  | nil => cases h
  | cons e es ih =>
    obtain ⟨k', v'⟩ := e
    rw [keys_cons, List.nodup_cons] at hes
    rw [get?_cons]
    rcases List.mem_cons.1 h with heq | hmem
    · cases heq
      rw [if_pos rfl]
    · have hk : k ≠ k' := by
        rintro rfl
        exact hes.1 (mem_keys_of_mem hmem)
      rw [if_neg hk, ih hes.2 hmem]

end Entries

namespace Value

/-! ## The relations -/

mutual

/-- A value of JSON: no octets, no types, and every key of an object stands once. -/
def IsJson : Value → Prop
  | .bytes _ => False
  | .type _ => False
  | .list items => ItemsJson items
  | .object entries => (Entries.keys entries).Nodup ∧ EntriesJson entries
  | _ => True
termination_by structural v => v

/-- Every item is a value of JSON. -/
def ItemsJson : List Value → Prop
  | [] => True
  | v :: rest => v.IsJson ∧ ItemsJson rest
termination_by structural vs => vs

/-- Every entry has a value of JSON. -/
def EntriesJson : List (Text × Value) → Prop
  | [] => True
  | (_, v) :: rest => v.IsJson ∧ EntriesJson rest
termination_by structural es => es

end

mutual

/-- The second value holds what the first does. A scalar is the same, of the same kind; lists agree
item by item; every entry of an object is there, with a value that holds the entry's. In strict mode
the object has no other keys. -/
def Embedded (strict : Bool) : Value → Value → Prop
  | .list items, w => ∃ others, w = .list others ∧ ItemsEmbedded strict items others
  | .object entries, w =>
    ∃ others, w = .object others ∧ EntriesEmbedded strict entries others ∧
      (strict = true → ∀ k ∈ Entries.keys others, k ∈ Entries.keys entries)
  | v, w => v = w
termination_by structural v => v

/-- Two lists of the same length, the items of the second holding those of the first. -/
def ItemsEmbedded (strict : Bool) : List Value → List Value → Prop
  | [], others => others = []
  | v :: rest, others => ∃ w tail, others = w :: tail ∧ v.Embedded strict w ∧
      ItemsEmbedded strict rest tail
termination_by structural vs => vs

/-- Every entry is there, with a value that holds the entry's. -/
def EntriesEmbedded (strict : Bool) : List (Text × Value) → Entries → Prop
  | [], _ => True
  | (k, v) :: rest, others => (∃ w, others.get? k = some w ∧ v.Embedded strict w) ∧
      EntriesEmbedded strict rest others
termination_by structural es => es

end

mutual

/-- The two values differ only in the order of object entries, at any depth. -/
inductive Reordered : Value → Value → Prop
  | same (v : Value) : Reordered v v
  | list {items others : List Value} :
    ItemsReordered items others → Reordered (.list items) (.list others)
  | object {entries changed others : Entries} :
    EntriesReordered entries changed → changed.Perm others →
      Reordered (.object entries) (.object others)

/-- Items that differ only in the order of object entries. -/
inductive ItemsReordered : List Value → List Value → Prop
  | nil : ItemsReordered [] []
  | cons {v w : Value} {rest tail : List Value} :
    Reordered v w → ItemsReordered rest tail → ItemsReordered (v :: rest) (w :: tail)

/-- Entries with the same keys, whose values differ only in the order of object entries. -/
inductive EntriesReordered : Entries → Entries → Prop
  | nil : EntriesReordered [] []
  | cons {k : Text} {v w : Value} {rest tail : Entries} :
    Reordered v w → EntriesReordered rest tail → EntriesReordered ((k, v) :: rest) ((k, w) :: tail)

end

/-- Lists of one item inside each other, around a boolean: a value for every depth. -/
def tower : Nat → Value
  | 0 => .bool true
  | n + 1 => .list [tower n]

theorem tower_isJson (n : Nat) : (tower n).IsJson := by
  induction n with
  | zero => trivial
  | succ n ih => exact ⟨ih, trivial⟩

/-! ## Item by item and entry by entry -/

theorem entriesJson_iff {es : Entries} : EntriesJson es ↔ ∀ k v, (k, v) ∈ es → v.IsJson := by
  induction es with
  | nil => simp [EntriesJson]
  | cons e es ih =>
    obtain ⟨k, v⟩ := e
    simp only [EntriesJson, ih, List.mem_cons, Prod.mk.injEq]
    constructor
    · rintro ⟨hv, hes⟩ k' v' (⟨rfl, rfl⟩ | h)
      · exact hv
      · exact hes k' v' h
    · intro h
      exact ⟨h k v (.inl ⟨rfl, rfl⟩), fun k' v' h' => h k' v' (.inr h')⟩

theorem itemsEmbedded_iff {strict : Bool} {vs ws : List Value} :
    ItemsEmbedded strict vs ws ↔ List.Forall₂ (Embedded strict) vs ws := by
  induction vs generalizing ws with
  | nil => simp [ItemsEmbedded]
  | cons v vs ih =>
    simp only [ItemsEmbedded, ih, List.forall₂_cons_left_iff]
    constructor
    · rintro ⟨w, tail, rfl, hw, ht⟩
      exact ⟨w, tail, hw, ht, rfl⟩
    · rintro ⟨w, tail, hw, ht, rfl⟩
      exact ⟨w, tail, rfl, hw, ht⟩

theorem entriesEmbedded_iff {strict : Bool} {es others : Entries} :
    EntriesEmbedded strict es others ↔
      ∀ k v, (k, v) ∈ es → ∃ w, others.get? k = some w ∧ v.Embedded strict w := by
  induction es with
  | nil => simp [EntriesEmbedded]
  | cons e es ih =>
    obtain ⟨k, v⟩ := e
    simp only [EntriesEmbedded, ih, List.mem_cons, Prod.mk.injEq]
    constructor
    · rintro ⟨hv, hes⟩ k' v' (⟨rfl, rfl⟩ | h)
      · exact hv
      · exact hes k' v' h
    · intro h
      exact ⟨h k v (.inl ⟨rfl, rfl⟩), fun k' v' h' => h k' v' (.inr h')⟩

mutual

/-- What is held strictly is held. -/
theorem Embedded.weaken (strict : Bool) :
    ∀ {v w : Value}, v.Embedded true w → v.Embedded strict w
  | .null, _, h => h
  | .bool _, _, h => h
  | .int _, _, h => h
  | .real _, _, h => h
  | .text _, _, h => h
  | .bytes _, _, h => h
  | .type _, _, h => h
  | .list _, _, ⟨others, hw, h⟩ => ⟨others, hw, ItemsEmbedded.weaken strict h⟩
  | .object _, _, ⟨others, hw, h, hkeys⟩ =>
    ⟨others, hw, EntriesEmbedded.weaken strict h, fun _ => hkeys rfl⟩

theorem ItemsEmbedded.weaken (strict : Bool) :
    ∀ {vs ws : List Value}, ItemsEmbedded true vs ws → ItemsEmbedded strict vs ws
  | [], _, h => h
  | _ :: _, _, ⟨w, tail, hws, h, ht⟩ =>
    ⟨w, tail, hws, h.weaken strict, ItemsEmbedded.weaken strict ht⟩

theorem EntriesEmbedded.weaken (strict : Bool) : ∀ {es : List (Text × Value)} {others : Entries},
    EntriesEmbedded true es others → EntriesEmbedded strict es others
  | [], _, _ => trivial
  | _ :: _, _, ⟨⟨w, hget, h⟩, ht⟩ =>
    ⟨⟨w, hget, h.weaken strict⟩, EntriesEmbedded.weaken strict ht⟩

end

/-! ## Strict embedding is reordering -/

mutual

/-- A value of JSON holds itself and nothing else. -/
theorem embedded_refl (strict : Bool) : ∀ {v : Value}, v.IsJson → v.Embedded strict v
  | .null, _ => rfl
  | .bool _, _ => rfl
  | .int _, _ => rfl
  | .real _, _ => rfl
  | .text _, _ => rfl
  | .list items, h => ⟨items, rfl, itemsEmbedded_refl strict h⟩
  | .object entries, h =>
    ⟨entries, rfl, entriesEmbedded_refl strict h.2 entries h.1 (fun _ he => he), fun _ _ hk => hk⟩

theorem itemsEmbedded_refl (strict : Bool) :
    ∀ {vs : List Value}, ItemsJson vs → ItemsEmbedded strict vs vs
  | [], _ => rfl
  | v :: vs, h => ⟨v, vs, rfl, embedded_refl strict h.1, itemsEmbedded_refl strict h.2⟩

theorem entriesEmbedded_refl (strict : Bool) :
    ∀ {es : List (Text × Value)}, EntriesJson es → ∀ (others : Entries),
      (Entries.keys others).Nodup → (∀ e ∈ es, e ∈ others) → EntriesEmbedded strict es others
  | [], _, _, _, _ => trivial
  | (_, v) :: _, h, others, hnd, hsub =>
    ⟨⟨v, Entries.get?_of_mem hnd (hsub _ List.mem_cons_self), embedded_refl strict h.1⟩,
      entriesEmbedded_refl strict h.2 others hnd fun e he => hsub e (List.mem_cons_of_mem _ he)⟩

end

theorem EntriesReordered.keys_eq {es changed : Entries} (h : EntriesReordered es changed) :
    Entries.keys changed = Entries.keys es := by
  induction es generalizing changed with
  | nil => cases h; rfl
  | cons _ _ ih =>
    cases h with
    | cons _ htail => rw [Entries.keys_cons, Entries.keys_cons, ih htail]

/-- Entries with keys that stand once, all of them among others with the same keys, are the others
in some order. -/
theorem perm_of_subset {es others : Entries} (hes : (Entries.keys es).Nodup)
    (hothers : (Entries.keys others).Nodup) (hsub : ∀ e ∈ es, e ∈ others)
    (hkeys : ∀ k ∈ Entries.keys others, k ∈ Entries.keys es) : es.Perm others := by
  rw [List.perm_ext_iff_of_nodup (List.Nodup.of_map _ hes) (List.Nodup.of_map _ hothers)]
  rintro ⟨k, w⟩
  refine ⟨hsub _, fun hmem => ?_⟩
  obtain ⟨w', hw'⟩ := Entries.mem_keys_iff.1 (hkeys k (Entries.mem_keys_of_mem hmem))
  have hsame := Entries.get?_of_mem hothers (hsub _ hw')
  rw [Entries.get?_of_mem hothers hmem] at hsame
  cases hsame
  exact hw'

mutual

theorem reordered_of_embedded :
    ∀ {v w : Value}, v.IsJson → w.IsJson → v.Embedded true w → Reordered v w
  | .null, _, _, _, h => h ▸ .same _
  | .bool _, _, _, _, h => h ▸ .same _
  | .int _, _, _, _, h => h ▸ .same _
  | .real _, _, _, _, h => h ▸ .same _
  | .text _, _, _, _, h => h ▸ .same _
  | .list _, _, hv, hw, h => by
    obtain ⟨others, rfl, h⟩ := h
    exact .list (itemsReordered_of_embedded hv hw h)
  | .object entries, _, hv, hw, h => by
    obtain ⟨others, rfl, h, hkeys⟩ := h
    obtain ⟨changed, hchanged, hsub⟩ := entriesReordered_of_embedded hv.2 hw.2 h
    have hnd : (Entries.keys changed).Nodup := by rw [hchanged.keys_eq]; exact hv.1
    refine .object hchanged (perm_of_subset hnd hw.1 hsub ?_)
    rw [hchanged.keys_eq]
    exact hkeys rfl

theorem itemsReordered_of_embedded : ∀ {vs ws : List Value}, ItemsJson vs → ItemsJson ws →
    ItemsEmbedded true vs ws → ItemsReordered vs ws
  | [], _, _, _, h => h ▸ .nil
  | _ :: _, _, hv, hw, h => by
    obtain ⟨w, tail, rfl, hvw, ht⟩ := h
    exact .cons (reordered_of_embedded hv.1 hw.1 hvw) (itemsReordered_of_embedded hv.2 hw.2 ht)

/-- The entries with the values that the others hold under their keys. -/
theorem entriesReordered_of_embedded : ∀ {es : List (Text × Value)} {others : Entries},
    EntriesJson es → EntriesJson others → EntriesEmbedded true es others →
      ∃ changed, EntriesReordered es changed ∧ ∀ e ∈ changed, e ∈ others
  | [], _, _, _, _ => ⟨[], .nil, by simp⟩
  | (k, _) :: _, _, hes, hothers, h => by
    obtain ⟨⟨w, hget, hvw⟩, hrest⟩ := h
    have hmem := Entries.mem_of_get? hget
    obtain ⟨changed, hchanged, hsub⟩ := entriesReordered_of_embedded hes.2 hothers hrest
    refine ⟨(k, w) :: changed,
      .cons (reordered_of_embedded hes.1 (entriesJson_iff.1 hothers k w hmem) hvw) hchanged, ?_⟩
    intro e he
    rcases List.mem_cons.1 he with rfl | he
    · exact hmem
    · exact hsub e he

end

mutual

theorem embedded_of_reordered :
    ∀ {v w : Value}, Reordered v w → v.IsJson → w.IsJson → v.Embedded true w
  | _, _, .same _, hv, _ => embedded_refl true hv
  | _, _, .list h, hv, hw => ⟨_, rfl, itemsEmbedded_of_reordered h hv hw⟩
  | _, _, .object h hperm, hv, hw => by
    have hmem : ∀ e ∈ _, e ∈ _ := fun e he => hperm.mem_iff.1 he
    refine ⟨_, rfl, entriesEmbedded_of_reordered h hv.2 hw.1 hw.2 hmem, ?_⟩
    intro _ k hk
    rw [← h.keys_eq]
    exact (hperm.map Prod.fst).mem_iff.2 hk

theorem itemsEmbedded_of_reordered : ∀ {vs ws : List Value}, ItemsReordered vs ws →
    ItemsJson vs → ItemsJson ws → ItemsEmbedded true vs ws
  | _, _, .nil, _, _ => rfl
  | _, _, .cons h ht, hv, hw =>
    ⟨_, _, rfl, embedded_of_reordered h hv.1 hw.1, itemsEmbedded_of_reordered ht hv.2 hw.2⟩

theorem entriesEmbedded_of_reordered : ∀ {es changed others : Entries},
    EntriesReordered es changed → EntriesJson es → (Entries.keys others).Nodup →
      EntriesJson others → (∀ e ∈ changed, e ∈ others) → EntriesEmbedded true es others
  | _, _, _, .nil, _, _, _, _ => trivial
  | _, _, _, .cons h ht, hes, hnd, hothers, hsub => by
    have hmem := hsub _ List.mem_cons_self
    exact ⟨⟨_, Entries.get?_of_mem hnd hmem,
      embedded_of_reordered h hes.1 (entriesJson_iff.1 hothers _ _ hmem)⟩,
      entriesEmbedded_of_reordered ht hes.2 hnd hothers
        fun e he => hsub e (List.mem_cons_of_mem _ he)⟩

end

/-- **Strict embedding is reordering**, between values of JSON. -/
theorem embedded_true_iff {v w : Value} (hv : v.IsJson) (hw : w.IsJson) :
    v.Embedded true w ↔ Reordered v w :=
  ⟨reordered_of_embedded hv hw, fun h => embedded_of_reordered h hv hw⟩

/-! ## Reordering goes both ways -/

theorem entriesReordered_iff {es changed : Entries} : EntriesReordered es changed ↔
    List.Forall₂ (fun e f => e.1 = f.1 ∧ Reordered e.2 f.2) es changed := by
  constructor
  · intro h
    induction es generalizing changed with
    | nil => cases h; exact .nil
    | cons e es ih =>
      cases h with
      | cons hvw htail => exact .cons ⟨rfl, hvw⟩ (ih htail)
  · intro h
    induction h with
    | nil => exact .nil
    | @cons e f _ _ hef _ ih =>
      obtain ⟨k, v⟩ := e
      obtain ⟨k', w⟩ := f
      obtain ⟨rfl, hvw⟩ := hef
      exact .cons hvw ih

mutual

theorem Reordered.symm : ∀ {v w : Value}, Reordered v w → Reordered w v
  | _, _, .same v => .same v
  | _, _, .list h => .list h.symm
  | _, _, .object h hperm => by
    -- The order of the others is taken over to the entries before their values are changed back.
    obtain ⟨_, hback, hperm'⟩ := List.perm_comp_forall₂ hperm.symm (entriesReordered_iff.1 h.symm)
    exact .object (entriesReordered_iff.2 hback) hperm'

theorem ItemsReordered.symm : ∀ {vs ws : List Value}, ItemsReordered vs ws → ItemsReordered ws vs
  | _, _, .nil => .nil
  | _, _, .cons h ht => .cons h.symm ht.symm

theorem EntriesReordered.symm :
    ∀ {es changed : Entries}, EntriesReordered es changed → EntriesReordered changed es
  | _, _, .nil => .nil
  | _, _, .cons h ht => .cons h.symm ht.symm

end

end Value

end CircuitAbi

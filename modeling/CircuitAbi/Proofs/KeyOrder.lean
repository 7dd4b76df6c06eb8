import CircuitAbi.Proofs.Checking
import CircuitAbi.Proofs.Decoding
import CircuitAbi.Proofs.Limits

/-!
# The order of keys

Two values of JSON that differ only in the order of object entries, at any depth, are decoded and
checked alike. Both traversals look keys up, and where they go through the entries of an object to
find one that does not belong, which one they find depends on the order but not that they find one.

* `Value.Shuffled`, `Value.SameLevel` — two such values, and their outermost level.
* `Decoding.entries_agrees`, `Decoding.abi_agrees` — the decoders step by step.
* `Checking.argument_agrees` — the checker, one level of the type at a time.
* `SameOutcome` — the same result, or refusals at the same place.

Principal result: `key_order_irrelevant`. Where a message has to show a value that is too large in
two ways, the order of its entries decides which limit is met first (`key_order_decides_limit`);
this takes a whole number of more digits than JSON text can hold.
-/

set_option autoImplicit false

namespace CircuitAbi

/-! ## Two values -/

theorem Entries.mem_keys_iff_get? {k : Text} {es : Entries} :
    k ∈ keys es ↔ ∃ v, get? k es = some v := by
  constructor
  · intro h
    by_contra hnone
    obtain ⟨v, hv⟩ := mem_keys_iff.1 h
    have hlookup : es.lookup k = none := Option.eq_none_iff_forall_ne_some.2 fun v hv =>
      hnone ⟨v, hv⟩
    have hne := List.lookup_eq_none_iff.1 hlookup (k, v) hv
    simp at hne
  · rintro ⟨v, hv⟩
    exact mem_keys_of_mem (mem_of_get? hv)

namespace Value

/-- Two values of JSON that differ only in the order of object entries. Where `fits` holds, their
whole numbers have few enough digits to print. -/
structure Shuffled (fits : Prop) (v w : Value) : Prop where
  left : v.IsJson
  right : w.IsJson
  reordered : Reordered v w
  numbers : fits → Json.numbersFit v = true

/-- Entries that have, key by key, values of this kind. -/
def EntriesShuffled (fits : Prop) (es fs : Entries) : Prop :=
  ∀ k, Option.Rel (Shuffled fits) (es.get? k) (fs.get? k)

/-- The outermost level of two values that differ only in the order of object entries. -/
inductive SameLevel (fits : Prop) : Value → Value → Prop
  | null : SameLevel fits .null .null
  | bool (b : Bool) : SameLevel fits (.bool b) (.bool b)
  | int (n : Int) : (fits → Decimal.fits n = true) → SameLevel fits (.int n) (.int n)
  | real (x : Binary64) : SameLevel fits (.real x) (.real x)
  | text (t : Text) : SameLevel fits (.text t) (.text t)
  | list {vs ws : List Value} :
    List.Forall₂ (Shuffled fits) vs ws → SameLevel fits (.list vs) (.list ws)
  | object {es fs : Entries} : EntriesShuffled fits es fs → SameLevel fits (.object es) (.object fs)

variable {fits : Prop}

theorem forall₂_shuffled : ∀ {vs ws : List Value}, ItemsJson vs → ItemsJson ws →
    ItemsEmbedded true vs ws → (fits → ∀ v ∈ vs, Json.numbersFit v = true) →
      List.Forall₂ (Shuffled fits) vs ws
  | [], _, _, _, h, _ => by
    cases h
    exact .nil
  | v :: vs, _, hv, hw, h, hfit => by
    obtain ⟨w, tail, rfl, hvw, htail⟩ := h
    have hhead (hf : fits) := hfit hf v List.mem_cons_self
    have hrest (hf : fits) (x : Value) (hx : x ∈ vs) := hfit hf x (List.mem_cons_of_mem _ hx)
    exact .cons ⟨hv.1, hw.1, reordered_of_embedded hv.1 hw.1 hvw, hhead⟩
      (forall₂_shuffled hv.2 hw.2 htail hrest)

theorem entriesShuffled_of_embedded {es fs : Entries} (hes : EntriesJson es)
    (hfs : EntriesJson fs) (h : EntriesEmbedded true es fs)
    (hkeys : ∀ k ∈ Entries.keys fs, k ∈ Entries.keys es)
    (hfit : fits → ∀ e ∈ es, Json.numbersFit e.2 = true) : EntriesShuffled fits es fs := by
  intro k
  cases hes' : es.get? k with
  | some v =>
    have hv := Entries.mem_of_get? hes'
    obtain ⟨w, hget, hvw⟩ := entriesEmbedded_iff.1 h k v hv
    have hw := Entries.mem_of_get? hget
    have hvjson := entriesJson_iff.1 hes k v hv
    have hwjson := entriesJson_iff.1 hfs k w hw
    rw [hget]
    exact .some ⟨hvjson, hwjson, reordered_of_embedded hvjson hwjson hvw,
      fun hf => hfit hf (k, v) hv⟩
  | none =>
    cases hfs' : fs.get? k with
    | none => exact .none
    | some w =>
      have hmem := hkeys k (Entries.mem_keys_iff_get?.2 ⟨w, hfs'⟩)
      obtain ⟨v, hv⟩ := Entries.mem_keys_iff_get?.1 hmem
      rw [hes'] at hv
      cases hv

theorem EntriesShuffled.mem_keys_iff {es fs : Entries} (h : EntriesShuffled fits es fs) (k : Text) :
    k ∈ Entries.keys es ↔ k ∈ Entries.keys fs := by
  rw [Entries.mem_keys_iff_get?, Entries.mem_keys_iff_get?]
  have hk := h k
  generalize es.get? k = x, fs.get? k = y at hk
  cases hk <;> simp

namespace Shuffled

variable {v w : Value}

theorem refl (hjson : v.IsJson) (hfit : fits → Json.numbersFit v = true) : Shuffled fits v v :=
  ⟨hjson, hjson, .same v, hfit⟩

theorem symm (h : Shuffled fits v w) : Shuffled fits w v where
  left := h.right
  right := h.left
  reordered := h.reordered.symm
  numbers hf := by
    have hembedded := embedded_of_reordered h.reordered.symm h.right h.left
    have hwithin : v.Within v.nesting := ⟨Nat.le_refl _, h.numbers hf⟩
    exact (Within.of_embedded hembedded hwithin).numbers

theorem level (h : Shuffled fits v w) : SameLevel fits v w := by
  have hembedded := embedded_of_reordered h.reordered h.left h.right
  obtain ⟨hleft, hright, -, hfit⟩ := h
  cases v with
  | null => cases hembedded; exact .null
  | bool b => cases hembedded; exact .bool b
  | int n => cases hembedded; exact .int n hfit
  | real x => cases hembedded; exact .real x
  | text t => cases hembedded; exact .text t
  | bytes b => exact hleft.elim
  | type t => exact hleft.elim
  | list vs =>
    obtain ⟨ws, rfl, hitems⟩ := hembedded
    exact .list (forall₂_shuffled hleft hright hitems fun hf v hv => numbersFit_item (hfit hf) hv)
  | object es =>
    obtain ⟨fs, rfl, hentries, hkeys⟩ := hembedded
    exact .object (entriesShuffled_of_embedded hleft.2 hright.2 hentries (hkeys rfl)
      fun hf e he => numbersFit_entry (hfit hf) he)

/-- What can be shown of a value can be shown of the other. -/
theorem exists_displayWithin {room : Nat} (h : Shuffled fits v w)
    (hshown : ∃ t, v.displayWithin room = .ok t) : ∃ t, w.displayWithin room = .ok t := by
  induction room generalizing v w with
  | zero =>
    obtain ⟨t, ht⟩ := hshown
    cases ht
  | succ room ih =>
    have hright := h.right
    cases h.level with
    | @list vs ws hitems =>
      rw [exists_displayWithin_list_iff] at hshown ⊢
      clear h hright
      induction hitems with
      | nil => exact List.forall_mem_nil _
      | cons hvw _ ihitems =>
        rw [List.forall_mem_cons] at hshown ⊢
        exact ⟨ih hvw hshown.1, ihitems hshown.2⟩
    | @object es fs hentries =>
      rw [exists_displayWithin_object_iff] at hshown ⊢
      rintro ⟨k, y⟩ hy
      have hget := Entries.get?_of_mem hright.1 hy
      have hk := hentries k
      rw [hget] at hk
      generalize hx : es.get? k = x at hk
      cases hk with
      | some hxy => exact ih hxy (hshown _ (Entries.mem_of_get? hx))
    | _ => exact hshown

end Shuffled

/-- A value of JSON whose numbers can be printed fails to be shown only where it nests too far. -/
theorem eq_nesting_of_displayWithin {room : Nat} {v : Value} {l : Limit} (hjson : v.IsJson)
    (hfit : Json.numbersFit v = true) (h : v.displayWithin room = .error l) : l = .nesting := by
  induction room generalizing v with
  | zero =>
    cases h
    rfl
  | succ room ih =>
    cases v with
    | int n =>
      have hprint : Decimal.print n = .error l := h
      rw [print_of_fits hfit] at hprint
      cases hprint
    | list vs =>
      rw [displayWithin_list] at h
      rcases bind_eq_error.1 h with hitems | ⟨_, _, h⟩
      · obtain ⟨v, hv, herror⟩ := mapM_eq_error hitems
        exact ih (itemsJson_iff.1 hjson v hv) (numbersFit_item hfit hv) herror
      · cases h
    | object es =>
      rw [displayWithin_object] at h
      rcases bind_eq_error.1 h with hentries | ⟨_, _, h⟩
      · obtain ⟨e, he, herror⟩ := mapM_eq_error hentries
        rcases bind_eq_error.1 herror with hshown | ⟨_, _, herror⟩
        · exact ih (entriesJson_iff.1 hjson.2 e.1 e.2 he) (numbersFit_entry hfit he) hshown
        · cases herror
      · cases h
    | bytes b => exact hjson.elim
    | type t => exact hjson.elim
    | _ => cases h

end Value

open Value (Shuffled EntriesShuffled SameLevel)

/-! ## Decoding -/

/-- Decoding stopped at the same place: at the same node, over a name, or at the same limit, which
is that on nesting where `fits` holds. -/
inductive DecodeStop.SamePlace (fits : Prop) : DecodeStop → DecodeStop → Prop
  | fault {path : List Accessor} {f g : DecodeFault} :
    SamePlace fits (.fault path f) (.fault path g)
  | name {owner : NameOwner} : SamePlace fits (.name owner) (.name owner)
  | limit {l : Limit} : (fits → l = .nesting) → SamePlace fits (.limit l) (.limit l)

namespace Decoding

variable {α β : Type} {fits : Prop} {v w : Value}

/-- Two parts are decoded to related results, or decoding stops at the same place. -/
abbrev Agrees (fits : Prop) (R : α → β → Prop) (x : Decoding α) (y : Decoding β) : Prop :=
  Agree (DecodeStop.SamePlace fits) R x y

theorem within_agrees {R : α → β → Prop} {x : Decoding α} {y : Decoding β}
    (h : Agrees fits R x y) (step : Accessor) :
    Agrees fits R (within step x) (within step y) := by
  cases h with
  | ok hab => exact .ok hab
  | error hstop =>
    cases hstop with
    | fault => exact .error .fault
    | name => exact .error .name
    | limit hl => exact .error (.limit hl)

theorem object_agrees (h : Shuffled fits v w) (role : Text) :
    Agrees fits (EntriesShuffled fits) (object role v) (object role w) := by
  cases h.level with
  | object hentries => exact .ok hentries
  | _ => exact .error .fault

section Entries

variable {es fs : Entries}

theorem require_agrees (h : EntriesShuffled fits es fs) (key : Text) :
    Agrees fits (Shuffled fits) (require key es) (require key fs) := by
  have hkey := h key
  unfold require
  generalize es.get? key = x, fs.get? key = y at hkey
  cases hkey with
  | some hvw => exact .ok hvw
  | none => exact .error .fault

theorem text_agrees (h : EntriesShuffled fits es fs) (key : Text) :
    Agrees fits Eq (text key es) (text key fs) := by
  refine (require_agrees h key).bind fun v w hvw => ?_
  cases hvw.level with
  | text t => exact .ok rfl
  | _ => exact .error .fault

theorem list_agrees (h : EntriesShuffled fits es fs) (key : Text) :
    Agrees fits (List.Forall₂ (Shuffled fits)) (list key es) (list key fs) := by
  refine (require_agrees h key).bind fun v w hvw => ?_
  cases hvw.level with
  | list hitems => exact .ok hitems
  | _ => exact .error .fault

/-- Either no key is left over or one is, which is a fault at the object itself. -/
theorem checkKeys_cases (strict : Bool) (allowed : List Text) (doc : Entries) :
    checkKeys strict allowed doc = .ok () ∨
      ∃ key, checkKeys strict allowed doc = fail (.unexpected key) := by
  unfold checkKeys
  split
  · split
    · exact .inr ⟨_, rfl⟩
    · exact .inl rfl
  · exact .inl rfl

theorem checkKeys_agrees (h : EntriesShuffled fits es fs) (strict : Bool) (allowed : List Text) :
    Agrees fits Eq (checkKeys strict allowed es) (checkKeys strict allowed fs) := by
  have hiff : checkKeys strict allowed es = .ok () ↔ checkKeys strict allowed fs = .ok () := by
    simp only [checkKeys_eq_ok, OnlyKeys, h.mem_keys_iff]
  rcases checkKeys_cases strict allowed es with hes | ⟨key, hes⟩
  · rw [hiff.1 hes, hes]
    exact .ok rfl
  · rcases checkKeys_cases strict allowed fs with hfs | ⟨other, hfs⟩
    · rw [hiff.2 hfs] at hes
      cases hes
    · rw [hes, hfs]
      exact .error .fault

end Entries

theorem name_agrees (owner : NameOwner) (t : Text) :
    Agrees fits Eq (name owner t) (name owner t) := by
  unfold name
  split
  · exact .ok rfl
  · exact .error .name

theorem size_agrees (h : Shuffled fits v w) : Agrees fits Eq (size v) (size w) := by
  cases h.level with
  | int n hn =>
    unfold size
    split
    · exact .ok rfl
    · rename_i m _ hm
      cases hm
      split
      · exact .error .fault
      · rename_i hlong
        exact .error (.limit fun hf => absurd (hn hf) hlong)
    · exact .error .fault
  | _ => exact .error .fault

theorem items_agrees {decode : Value → Decoding α} {vs ws : List Value}
    (h : List.Forall₂ (Shuffled fits) vs ws)
    (hdecode : ∀ v w, Shuffled fits v w → Agrees fits Eq (decode v) (decode w)) :
    Agrees fits Eq (items decode vs) (items decode ws) :=
  .mapM_zipIdx h fun v w i hvw => within_agrees (hdecode v w hvw) (.index i)

/-- The type laid flat in two objects. A step looks up keys in a fixed order, so that both objects
take the same branch. -/
theorem entries_agrees {strict : Bool} {room : Nat} {own : List Text} {es fs : Entries}
    (h : EntriesShuffled fits es fs) :
    Agrees fits Eq (entries strict room own es) (entries strict room own fs) := by
  induction room generalizing own es fs with
  | zero => exact .error (.limit fun _ => rfl)
  | succ room ih =>
    unfold entries
    refine (require_agrees h "type").bind fun v w hvw => ?_
    cases hvw.level with
    | text word =>
      dsimp only
      cases TypeKind.ofText? word with
      | none => exact .error .fault
      | some kind =>
        cases kind with
        | array =>
          refine (checkKeys_agrees h strict _).bind fun _ _ _ => ?_
          refine (require_agrees h "components").bind fun v w hvw => within_agrees ?_ _
          refine (object_agrees hvw _).bind fun es fs h => ?_
          refine (require_agrees h "size").bind fun v w hvw => ?_
          refine (within_agrees (size_agrees hvw) _).bind ?_
          rintro n _ rfl
          refine (ih h).bind ?_
          rintro element _ rfl
          exact .ok rfl
        | struct =>
          refine (checkKeys_agrees h strict _).bind fun _ _ _ => ?_
          refine (require_agrees h "components").bind fun v w hvw => within_agrees ?_ _
          refine (object_agrees hvw _).bind fun es fs h => ?_
          refine (checkKeys_agrees h strict _).bind fun _ _ _ => ?_
          refine (text_agrees h "name").bind ?_
          rintro structName _ rfl
          refine (list_agrees h "members").bind fun vs ws hitems => ?_
          refine (within_agrees (items_agrees hitems fun v w hvw => ?_) _).bind ?_
          · refine (object_agrees hvw _).bind fun es fs h => ?_
            refine (text_agrees h "name").bind ?_
            rintro memberName _ rfl
            refine (ih h).bind ?_
            rintro t _ rfl
            refine (name_agrees .member memberName).bind ?_
            rintro n _ rfl
            exact .ok rfl
          · rintro members _ rfl
            refine (name_agrees .struct structName).bind ?_
            rintro n _ rfl
            exact .ok rfl
        | _ => exact (checkKeys_agrees h strict _).bind fun _ _ _ => .ok rfl
    | _ => exact .error .fault

theorem type_agrees (h : Shuffled fits v w) (strict : Bool) (role : Text) :
    Agrees fits Eq (type strict role v) (type strict role w) :=
  (object_agrees h role).bind fun _ _ hentries => entries_agrees hentries

theorem input_agrees (h : Shuffled fits v w) (strict : Bool) :
    Agrees fits Eq (input strict v) (input strict w) := by
  refine (object_agrees h _).bind fun es fs h => ?_
  refine (text_agrees h "name").bind ?_
  rintro inputName _ rfl
  refine (require_agrees h "public").bind fun v w hvw => ?_
  cases hvw.level with
  | bool disclosed =>
    refine (entries_agrees h).bind ?_
    rintro t _ rfl
    refine (name_agrees .input inputName).bind ?_
    rintro n _ rfl
    exact .ok rfl
  | _ => exact .error .fault

theorem abi_agrees (h : Shuffled fits v w) (strict : Bool) :
    Agrees fits Eq (abi strict v) (abi strict w) := by
  refine (object_agrees h _).bind fun es fs h => ?_
  refine (checkKeys_agrees h strict _).bind fun _ _ _ => ?_
  refine (list_agrees h "inputs").bind fun vs ws hinputs => ?_
  refine (list_agrees h "outputs").bind fun vs' ws' houtputs => ?_
  refine (within_agrees (items_agrees hinputs fun v w hvw => input_agrees hvw strict) _).bind ?_
  rintro inputs _ rfl
  refine (within_agrees (items_agrees houtputs fun v w hvw => type_agrees hvw strict _) _).bind ?_
  rintro outputs _ rfl
  exact .ok rfl

end Decoding

/-! ## Checking -/

/-- Checking stopped at the same node, or at a limit, which is the same one where `fits` holds. -/
inductive CheckStop.SamePlace (fits : Prop) : CheckStop → CheckStop → Prop
  | fault {path : List Accessor} {f g : ArgumentFault} :
    SamePlace fits (.fault path f) (.fault path g)
  | limit {l l' : Limit} : (fits → l = l') → SamePlace fits (.limit l) (.limit l')

theorem CheckStop.SamePlace.refl {fits : Prop} (stop : CheckStop) : SamePlace fits stop stop := by
  cases stop with
  | fault path f => exact .fault
  | limit l => exact .limit fun _ => rfl

namespace Checking

variable {α : Type} {fits : Prop} {v w : Value}

/-- Two values have the same result, or checking stops at the same place. -/
abbrev Agrees (fits : Prop) (x y : Checking α) : Prop := Agree (CheckStop.SamePlace fits) Eq x y

theorem within_agrees {x y : Checking α} (h : Agrees fits x y) (step : Accessor) :
    Agrees fits (within step x) (within step y) := by
  cases h with
  | ok hab => exact .ok hab
  | error hstop =>
    cases hstop with
    | fault => exact .error .fault
    | limit hl => exact .error (.limit hl)

/-- Whether a value can be shown does not depend on the order of keys; which limit it meets first
does not where only nesting can be in the way. -/
theorem failShowing_agrees (h : Shuffled fits v w) (fault : Text → ArgumentFault) :
    Agrees fits (failShowing v fault : Checking α) (failShowing w fault) := by
  unfold failShowing Value.display
  cases hv : v.displayWithin nestingLimit with
  | ok shown =>
    obtain ⟨other, hw⟩ := h.exists_displayWithin ⟨shown, hv⟩
    rw [hw]
    exact .error .fault
  | error l =>
    cases hw : w.displayWithin nestingLimit with
    | ok other =>
      obtain ⟨shown, hshown⟩ := h.symm.exists_displayWithin ⟨other, hw⟩
      rw [hv] at hshown
      cases hshown
    | error l' =>
      refine .error (.limit fun hf => ?_)
      rw [Value.eq_nesting_of_displayWithin h.left (h.numbers hf) hv,
        Value.eq_nesting_of_displayWithin h.right (h.symm.numbers hf) hw]

theorem field_agrees (h : Shuffled fits v w) (m : Int) : Agrees fits (field m v) (field m w) := by
  cases h.level with
  | list _ => exact .error .fault
  | object _ => exact .error .fault
  | _ => exact .refl .refl _

theorem bool_agrees (h : Shuffled fits v w) : Agrees fits (bool v) (bool w) := by
  cases h.level with
  | bool b => exact .ok rfl
  | _ => exact failShowing_agrees h .notBoolean

theorem uint_agrees (h : Shuffled fits v w) (width : Width) (form : NumberForm) :
    Agrees fits (uint width form v) (uint width form w) := by
  cases h.level with
  | text t => exact .refl .refl _
  | _ => exact failShowing_agrees h (.notHexadecimal (SchemaType.kind (.uint width form)))

theorem members_agrees {check : Value → SchemaType → Checking Argument} {es fs : Entries}
    (h : EntriesShuffled fits es fs)
    (hcheck : ∀ v w t, Shuffled fits v w → Agrees fits (check v t) (check w t))
    (struct : Name) (done : List (Name × Argument)) (ms : List (Name × SchemaType)) :
    Agrees fits (members check struct es done ms) (members check struct fs done ms) := by
  induction ms generalizing done with
  | nil => exact .ok rfl
  | cons member ms ih =>
    obtain ⟨name, t⟩ := member
    unfold members
    have hname := h name.val
    generalize es.get? name.val = x, fs.get? name.val = y at hname
    cases hname with
    | none => exact .error .fault
    | @some v w hvw =>
      refine (within_agrees (hcheck v w t hvw) _).bind ?_
      rintro a _ rfl
      exact ih _

/-- No key is left over of both objects, or one is of each. -/
theorem extra_agrees {es fs : Entries} (h : EntriesShuffled fits es fs)
    (ms : List (Name × SchemaType)) :
    (es.find? fun e => !ms.any (·.1.val == e.1)) = none ↔
      (fs.find? fun e => !ms.any (·.1.val == e.1)) = none := by
  simp only [find?_extra_eq_none_iff, h.mem_keys_iff]

/-- One type for two values. The members of a struct are looked up in the order of the type. -/
theorem argument_agrees {m : Int} {room : Nat} {t : SchemaType} (h : Shuffled fits v w) :
    Agrees fits (argument m room v t) (argument m room w t) := by
  induction room generalizing v w t with
  | zero => exact .error (.limit fun _ => rfl)
  | succ room ih =>
    cases t with
    | field => exact field_agrees h m
    | bool => exact bool_agrees h
    | uint width form => exact uint_agrees h width form
    | array element size =>
      cases h.level with
      | list hitems =>
        rw [argument_list, argument_list, hitems.length_eq]
        split
        · refine Agree.bind (.mapM_zipIdx hitems fun v w i hvw => within_agrees (ih hvw) _) ?_
          rintro items _ rfl
          exact .ok rfl
        · exact .refl .refl _
      | _ => exact .refl .refl (failSized size _)
    | struct name ms =>
      cases h.level with
      | @object es fs hentries =>
        rw [argument_object, argument_object]
        have hextra := extra_agrees hentries ms
        generalize (es.find? fun e => !ms.any (·.1.val == e.1)) = x,
          (fs.find? fun e => !ms.any (·.1.val == e.1)) = y at hextra
        cases x with
        | some extra =>
          cases y with
          | some other => exact .error .fault
          | none => cases hextra.2 rfl
        | none =>
          rw [hextra.1 rfl]
          refine Agree.bind (members_agrees hentries (fun v w t => @ih v w t) name [] ms) ?_
          rintro written _ rfl
          exact .ok rfl
      | _ => exact .error .fault

theorem value_agrees {m : Int} (h : Shuffled fits v w) (type : Value) :
    Agrees fits (value m v type) (value m w type) := by
  cases type with
  | type t => exact argument_agrees h
  | _ => exact .refl .refl _

end Checking

/-! ## Outcomes -/

/-- Two runs end alike: with the same result, or refused at the same place, or at a limit, which is
the same one where `fits` holds. -/
inductive SameOutcome (fits : Prop) {α : Type} : Except Failure α → Except Failure α → Prop
  | ok (a : α) : SameOutcome fits (.ok a) (.ok a)
  | decode {e e' : DecodeError} :
    e.place = e'.place → SameOutcome fits (.error (.decode e)) (.error (.decode e'))
  | argument {e e' : ArgumentError} :
    e.place = e'.place → SameOutcome fits (.error (.argument e)) (.error (.argument e'))
  | limit {l l' : Limit} :
    (fits → l = l') → SameOutcome fits (.error (.limit l)) (.error (.limit l'))

theorem Decoding.Agrees.sameOutcome {α : Type} {fits : Prop} {x y : Decoding α}
    (h : Agrees fits Eq x y) (part : DocumentPart) (root : Text) :
    SameOutcome True (report part root x) (report part root y) := by
  cases h with
  | ok hab =>
    cases hab
    exact .ok _
  | error hstop =>
    cases hstop with
    | fault => exact .decode rfl
    | name => exact .decode rfl
    | @limit l _ =>
      cases l with
      | nesting => exact .decode rfl
      | printing => exact .limit fun _ => rfl
      | reading digits => exact .limit fun _ => rfl

theorem Checking.Agrees.sameOutcome {α : Type} {fits : Prop} {x y : Checking α}
    (h : Agrees fits x y) (root : Text) : SameOutcome fits (report root x) (report root y) := by
  cases h with
  | ok hab =>
    cases hab
    exact .ok _
  | error hstop =>
    cases hstop with
    | fault => exact .argument rfl
    | limit hl => exact .limit hl

/-- **The order of keys does not matter.** Two values of JSON that differ only in the order of
object entries, at any depth, are decoded to the same type, input or interface, or refused at the
same place. As arguments they have the same result against a type, or are refused at the same place,
or both meet a limit, the same one if their whole numbers have no more digits than JSON text can
hold. -/
theorem key_order_irrelevant {v w : Value} (hv : v.IsJson) (hw : w.IsJson) (h : v.Reordered w) :
    (∀ (strict : Bool) (root : Text),
      SameOutcome True (v.decodeType strict root) (w.decodeType strict root)) ∧
    (∀ (strict : Bool) (root : Text),
      SameOutcome True (v.decodeInput strict root) (w.decodeInput strict root)) ∧
    (∀ strict : Bool, SameOutcome True (v.decodeAbi strict) (w.decodeAbi strict)) ∧
    ∀ (type : Value) (root : Text) (modulus : Option Int) (c : Config),
      SameOutcome (Json.numbersFit v = true)
        ((checkArgument v type root modulus).run.run c)
        ((checkArgument w type root modulus).run.run c) := by
  have hshuffled : Shuffled (Json.numbersFit v = true) v w := ⟨hv, hw, h, id⟩
  refine ⟨fun strict root => ?_, fun strict root => ?_, fun strict => ?_,
    fun type root modulus c => ?_⟩
  · exact (Decoding.type_agrees hshuffled strict _).sameOutcome _ root
  · exact (Decoding.input_agrees hshuffled strict).sameOutcome _ root
  · exact (Decoding.abi_agrees hshuffled strict).sameOutcome _ documentRoot
  · rw [run_checkArgument_value, run_checkArgument_value]
    exact (Checking.value_agrees hshuffled type).sameOutcome root

/-- The components of an array with two keys too many beside the size. -/
def overfullComponents : Value :=
  .object
    [("size", .int 2), ("type", .text "field"), ("note", .null),
      ("origin", .object [("file", .text "a"), ("line", .int 1)])]

/-- The same components with the entries of every object backwards. -/
def overfullComponentsBackwards : Value :=
  .object
    [("origin", .object [("line", .int 1), ("file", .text "a")]), ("note", .null),
      ("type", .text "field"), ("size", .int 2)]

/-- The document of the array, its entries in either order. -/
def overfullDocument (backwards : Bool) : Value :=
  if backwards then
    .object [("components", overfullComponentsBackwards), ("type", .text "array")]
  else .object [("type", .text "array"), ("components", overfullComponents)]

theorem overfullDocument_isJson (backwards : Bool) : (overfullDocument backwards).IsJson := by
  cases backwards <;>
    simp only [overfullDocument, overfullComponents, overfullComponentsBackwards, Value.IsJson,
      Value.EntriesJson, if_true, Bool.false_eq_true, if_false] <;>
    decide

theorem overfullDocument_reordered :
    (overfullDocument false).Reordered (overfullDocument true) := by
  have horigin : Value.Reordered (.object [("file", .text "a"), ("line", .int 1)])
      (.object [("line", .int 1), ("file", .text "a")]) :=
    .object (.cons (.same _) (.cons (.same _) .nil)) (.swap _ _ _)
  have hcomponents : overfullComponents.Reordered overfullComponentsBackwards :=
    .object (.cons (.same _) (.cons (.same _) (.cons (.same _) (.cons horigin .nil))))
      (List.reverse_perm _).symm
  exact .object (.cons (.same _) (.cons hcomponents .nil)) (.swap _ _ _)

theorem key_order_irrelevant_overfull :
    ((overfullDocument false).IsJson ∧ (overfullDocument true).IsJson ∧
      (overfullDocument false).Reordered (overfullDocument true)) ∧
    (∃ e e', (overfullDocument false).decodeType true documentRoot = .error (.decode e) ∧
      (overfullDocument true).decodeType true documentRoot = .error (.decode e') ∧
      e.fault = .unexpected "note" ∧ e'.fault = .unexpected "origin" ∧ e.place = e'.place) ∧
    (overfullDocument true).decodeType false documentRoot = .ok (.array .field 2) := by
  have halike := key_order_irrelevant (overfullDocument_isJson false)
    (overfullDocument_isJson true) overfullDocument_reordered
  refine ⟨⟨overfullDocument_isJson false, overfullDocument_isJson true,
    overfullDocument_reordered⟩, ⟨_, _, rfl, rfl, rfl, rfl, ?_⟩, ?_⟩
  · cases halike.1 true documentRoot with
    | decode hplace => exact hplace
  · have hlenient := halike.1 false documentRoot
    generalize (overfullDocument true).decodeType false documentRoot = y at hlenient ⊢
    cases hlenient
    rfl

/-! ## A value that is too large in two ways -/

theorem Value.displayWithin_tower {room n : Nat} (h : room ≤ n) :
    (tower n).displayWithin room = .error .nesting := by
  induction room generalizing n with
  | zero => rfl
  | succ room ih =>
    cases n with
    | zero => exact absurd h (Nat.not_succ_le_zero room)
    | succ n =>
      rw [tower, displayWithin_list, List.mapM_cons, ih (Nat.le_of_succ_le_succ h)]
      rfl

/-- An object with a number of too many digits and lists that nest too far, in either order. -/
def overlargeObject (backwards : Bool) : Value :=
  let number : Text × Value := ("a", .int (10 ^ digitLimit : Nat))
  let lists : Text × Value := ("b", .tower 20000)
  .object (if backwards then [lists, number] else [number, lists])

theorem overlargeObject_isJson (backwards : Bool) : (overlargeObject backwards).IsJson := by
  have hlists := Value.tower_isJson 20000
  cases backwards
  · exact ⟨by decide, trivial, hlists, trivial⟩
  · exact ⟨by decide, hlists, trivial, trivial⟩

theorem overlargeObject_display (backwards : Bool) :
    (overlargeObject backwards).display = .error (if backwards then .nesting else .printing) := by
  obtain ⟨room, hroom, hfew⟩ : ∃ room, nestingLimit = room + 2 ∧ room + 1 ≤ 20000 :=
    ⟨_, rfl, by decide⟩
  have hlists := Value.displayWithin_tower hfew
  have hwide : Decimal.fits (10 ^ digitLimit : Nat) ≠ true := fun hfits =>
    Nat.lt_irrefl _ (Decimal.fits_natCast_iff.1 hfits)
  have hnumber : (Value.int (10 ^ digitLimit : Nat)).displayWithin (room + 1) =
      .error .printing := by
    rw [Value.displayWithin, Decimal.print, if_neg hwide]
  rw [Value.display, hroom]
  cases backwards
  · rw [overlargeObject, if_neg Bool.false_ne_true, Value.displayWithin_object, List.mapM_cons,
      Value.displayEntry, hnumber]
    rfl
  · rw [overlargeObject, if_pos rfl, Value.displayWithin_object, List.mapM_cons,
      Value.displayEntry, hlists]
    rfl

/-- The entries of an object decide by their order which limit a message meets that has to show
it. -/
theorem key_order_decides_limit :
    ((overlargeObject false).IsJson ∧ (overlargeObject true).IsJson ∧
      (overlargeObject false).Reordered (overlargeObject true)) ∧
    (checkArgument (overlargeObject false) (.type .bool) documentRoot (some 11)).run.run
      (Config.ofEnvironment []) = .error (.limit .printing) ∧
    (checkArgument (overlargeObject true) (.type .bool) documentRoot (some 11)).run.run
      (Config.ofEnvironment []) = .error (.limit .nesting) := by
  have hrun (backwards : Bool) : (checkArgument (overlargeObject backwards) (.type .bool)
      documentRoot (some 11)).run.run (Config.ofEnvironment []) =
        .error (.limit (if backwards then .nesting else .printing)) := by
    have hbool : Checking.bool (overlargeObject backwards) =
        .error (.limit (if backwards then .nesting else .printing)) := by
      show Checking.failShowing (overlargeObject backwards) .notBoolean = _
      rw [Checking.failShowing, overlargeObject_display]
    rw [run_checkArgument]
    show Checking.report documentRoot (Checking.bool (overlargeObject backwards)) = _
    rw [hbool]
    rfl
  refine ⟨⟨overlargeObject_isJson false, overlargeObject_isJson true, ?_⟩, hrun false, hrun true⟩
  exact .object (.cons (.same _) (.cons (.same _) .nil)) (.swap _ _ _)

end CircuitAbi

import CircuitAbi.Proofs.Consumption
import CircuitAbi.Proofs.Outcome
import CircuitAbi.Proofs.ParserSteps
import CircuitAbi.Proofs.Parsing
import CircuitAbi.Value.Display

/-!
# Values within the limits

A value is within the limits when its whole numbers have few enough digits to print and it nests no
further than allowed. The parser yields only such values, and what is embedded in one is one; so
what has been read can be written and read again.

* `Value.Readable.exists_displayWithin` — messages can show what has been read.
* `Json.readable_of_parse` — a value that was parsed is one of JSON and within the limits.
* `Value.Within.of_embedded` — so is every value embedded in it.
* `Value.weight_le_of_embedded` — which also weighs no more.
-/

set_option autoImplicit false

namespace CircuitAbi

namespace Value

/-- Whole numbers have few enough digits, and at most so many containers are open at once. -/
structure Within (room : Nat) (v : Value) : Prop where
  nesting : v.nesting ≤ room
  numbers : Json.numbersFit v = true

/-! ## Items and entries -/

theorem within_list_iff {room : Nat} {vs : List Value} :
    (list vs).Within room ↔ 0 < room ∧ ∀ v ∈ vs, v.Within (room - 1) := by
  have hitems : (itemsNesting vs ≤ room - 1 ∧ Json.itemsFit vs = true) ↔
      ∀ v ∈ vs, v.Within (room - 1) := by
    induction vs with
    | nil => simp [itemsNesting, Json.itemsFit]
    | cons v vs ih =>
      rw [List.forall_mem_cons, ← ih, itemsNesting, Json.itemsFit, Nat.max_le, Bool.and_eq_true]
      constructor
      · rintro ⟨⟨hv, hvs⟩, hfit, hfits⟩
        exact ⟨⟨hv, hfit⟩, hvs, hfits⟩
      · rintro ⟨⟨hv, hfit⟩, hvs, hfits⟩
        exact ⟨⟨hv, hvs⟩, hfit, hfits⟩
  rw [← hitems]
  constructor
  · rintro ⟨hnesting, hnumbers⟩
    simp only [nesting] at hnesting
    exact ⟨by omega, by omega, hnumbers⟩
  · rintro ⟨hroom, hnesting, hnumbers⟩
    exact ⟨by simp only [nesting]; omega, hnumbers⟩

theorem entriesFit_eq (es : Entries) : Json.entriesFit es = Json.itemsFit (es.map Prod.snd) := by
  induction es with
  | nil => rfl
  | cons e es ih => rw [List.map_cons, Json.itemsFit, ← ih, Json.entriesFit]

theorem within_object_iff {room : Nat} {es : Entries} :
    (object es).Within room ↔ 0 < room ∧ ∀ v ∈ es.map Prod.snd, v.Within (room - 1) := by
  rw [← within_list_iff]
  constructor
  · rintro ⟨hroom, hfit⟩
    rw [nesting, entriesNesting_eq] at hroom
    rw [Json.numbersFit, entriesFit_eq] at hfit
    exact ⟨hroom, hfit⟩
  · rintro ⟨hroom, hfit⟩
    rw [nesting, ← entriesNesting_eq] at hroom
    rw [Json.numbersFit, ← entriesFit_eq] at hfit
    exact ⟨hroom, hfit⟩

theorem numbersFit_item {v : Value} {vs : List Value} (h : Json.numbersFit (.list vs) = true)
    (hv : v ∈ vs) : Json.numbersFit v = true :=
  ((within_list_iff.1 ⟨Nat.le_refl _, h⟩).2 v hv).numbers

theorem numbersFit_entry {e : Text × Value} {es : Entries}
    (h : Json.numbersFit (.object es) = true) (he : e ∈ es) : Json.numbersFit e.2 = true :=
  ((within_object_iff.1 ⟨Nat.le_refl _, h⟩).2 e.2 (List.mem_map_of_mem he)).numbers

/-! ## Readable values -/

theorem itemsJson_iff {vs : List Value} : ItemsJson vs ↔ ∀ v ∈ vs, v.IsJson := by
  induction vs with
  | nil => simp [ItemsJson]
  | cons v vs ih => rw [ItemsJson, ih, List.forall_mem_cons]

/-- What reading yields: a value of JSON, within what the limits leave it. -/
structure Readable (room : Nat) (v : Value) : Prop where
  json : v.IsJson
  within : v.Within room

theorem readable_list_iff {room : Nat} {vs : List Value} :
    (list vs).Readable room ↔ 0 < room ∧ ∀ v ∈ vs, v.Readable (room - 1) := by
  constructor
  · rintro ⟨hjson, hwithin⟩
    obtain ⟨hroom, hitems⟩ := within_list_iff.1 hwithin
    exact ⟨hroom, fun v hv => ⟨itemsJson_iff.1 hjson v hv, hitems v hv⟩⟩
  · rintro ⟨hroom, hitems⟩
    exact ⟨itemsJson_iff.2 fun v hv => (hitems v hv).json,
      within_list_iff.2 ⟨hroom, fun v hv => (hitems v hv).within⟩⟩

theorem readable_object_iff {room : Nat} {es : Entries} :
    (object es).Readable room ↔
      (Entries.keys es).Nodup ∧ 0 < room ∧ ∀ v ∈ es.map Prod.snd, v.Readable (room - 1) := by
  constructor
  · rintro ⟨hjson, hwithin⟩
    obtain ⟨hroom, hvalues⟩ := within_object_iff.1 hwithin
    refine ⟨hjson.1, hroom, fun v hv => ⟨?_, hvalues v hv⟩⟩
    obtain ⟨e, he, rfl⟩ := List.mem_map.1 hv
    exact entriesJson_iff.1 hjson.2 e.1 e.2 he
  · rintro ⟨hkeys, hroom, hvalues⟩
    refine ⟨⟨hkeys, entriesJson_iff.2 fun k v he => ?_⟩, within_object_iff.2 ⟨hroom, ?_⟩⟩
    · exact (hvalues v (List.mem_map_of_mem he)).json
    · exact fun v hv => (hvalues v hv).within

/-! ## Showing -/

/-- One entry of an object as messages show it, down to a number of levels. -/
def displayEntry (room : Nat) (e : Text × Value) : Except Limit Text := do
  let shown ← e.2.displayWithin room
  return Text.quoted e.1 ++ ": " ++ shown

theorem displayWithin_list (room : Nat) (vs : List Value) : (list vs).displayWithin (room + 1) = do
    let shown ← vs.mapM (displayWithin room)
    return "[" ++ Text.join ", " shown ++ "]" := rfl

theorem displayWithin_object (room : Nat) (es : Entries) :
    (object es).displayWithin (room + 1) = do
      let shown ← es.mapM (displayEntry room)
      return "\x7b" ++ Text.join ", " shown ++ "\x7d" := rfl

/-- What is shown by a rule from the parts of it that are shown. -/
theorem exists_shown_iff {α : Type} {x : Except Limit α} {rule : α → Text} :
    (∃ t, (do return rule (← x)) = Except.ok t) ↔ ∃ a, x = .ok a := by
  simp only [bind_eq_ok, pure_eq_ok]
  exact ⟨fun ⟨_, a, ha, _⟩ => ⟨a, ha⟩, fun ⟨a, ha⟩ => ⟨_, a, ha, rfl⟩⟩

theorem exists_displayWithin_list_iff {room : Nat} {vs : List Value} :
    (∃ t, (list vs).displayWithin (room + 1) = .ok t) ↔
      ∀ v ∈ vs, ∃ t, v.displayWithin room = .ok t := by
  rw [displayWithin_list, exists_shown_iff, exists_mapM_eq_ok_iff]

theorem exists_displayWithin_object_iff {room : Nat} {es : Entries} :
    (∃ t, (object es).displayWithin (room + 1) = .ok t) ↔
      ∀ e ∈ es, ∃ t, e.2.displayWithin room = .ok t := by
  simp only [displayWithin_object, exists_shown_iff, exists_mapM_eq_ok_iff, displayEntry]

theorem print_of_fits {n : Int} (h : Decimal.fits n = true) :
    Decimal.print n = .ok (Decimal.ofInt n) := if_pos h

/-- A value that was read can be shown with one level to spare. -/
theorem Readable.exists_displayWithin {room : Nat} {v : Value} (h : v.Readable room) :
    ∃ t, v.displayWithin (room + 1) = .ok t := by
  induction room using Nat.strongRecOn generalizing v with
  | ind room ih =>
  cases v with
  | int n => exact ⟨_, print_of_fits h.within.numbers⟩
  | list vs =>
    obtain ⟨hroom, hitems⟩ := readable_list_iff.1 h
    obtain ⟨below, rfl⟩ := Nat.exists_eq_add_one.2 hroom
    refine exists_displayWithin_list_iff.2 fun v hv => ?_
    exact ih below (Nat.lt_succ_self below) (hitems v hv)
  | object es =>
    obtain ⟨-, hroom, hvalues⟩ := readable_object_iff.1 h
    obtain ⟨below, rfl⟩ := Nat.exists_eq_add_one.2 hroom
    refine exists_displayWithin_object_iff.2 fun e he => ?_
    exact ih below (Nat.lt_succ_self below) (hvalues e.2 (List.mem_map_of_mem he))
  | bytes b => exact h.json.elim
  | type t => exact h.json.elim
  | _ => exact ⟨_, rfl⟩

end Value

/-! ## The parser -/

namespace Entries

theorem mem_insert {key : Text} {value : Value} {es : Entries} {e : Text × Value}
    (h : e ∈ insert key value es) : e = (key, value) ∨ e ∈ es := by
  induction es with
  | nil => exact .inl (List.mem_singleton.1 h)
  | cons e' es ih =>
    obtain ⟨k, v⟩ := e'
    rw [insert] at h
    split at h
    · rename_i hk
      rcases List.mem_cons.1 h with rfl | h
      · exact .inl (by rw [hk])
      · exact .inr (List.mem_cons_of_mem _ h)
    · rcases List.mem_cons.1 h with rfl | h
      · exact .inr List.mem_cons_self
      · exact (ih h).imp_right (List.mem_cons_of_mem _)

theorem mem_foldl_insert {es done : Entries} {e : Text × Value}
    (h : e ∈ es.foldl (fun done (k, v) => insert k v done) done) : e ∈ done ∨ e ∈ es := by
  induction es generalizing done with
  | nil => exact .inl h
  | cons e' es ih =>
    obtain ⟨k, v⟩ := e'
    rcases ih h with h | h
    · rcases mem_insert h with rfl | h
      · exact .inr List.mem_cons_self
      · exact .inl h
    · exact .inr (List.mem_cons_of_mem _ h)

/-- Every entry of an object was written. -/
theorem mem_of_mem_ofList {es : Entries} {e : Text × Value} (h : e ∈ ofList es) : e ∈ es :=
  (mem_foldl_insert h).resolve_left List.not_mem_nil

theorem nodup_keys_insert {key : Text} {value : Value} {es : Entries} (h : (keys es).Nodup) :
    (keys (insert key value es)).Nodup := by
  induction es with
  | nil => exact List.nodup_singleton key
  | cons e es ih =>
    obtain ⟨k, v⟩ := e
    rw [keys_cons, List.nodup_cons] at h
    rw [insert]
    split
    · exact List.nodup_cons.2 h
    · rename_i hk
      refine List.nodup_cons.2 ⟨fun hmem => ?_, ih h.2⟩
      obtain ⟨v', hv'⟩ := mem_keys_iff.1 hmem
      rcases mem_insert hv' with heq | hold
      · cases heq
        exact hk rfl
      · exact h.1 (mem_keys_of_mem hold)

/-- Every key of an object stands once, however often it was written. -/
theorem nodup_keys_ofList (es : Entries) : (keys (ofList es)).Nodup := by
  have hfold : ∀ done : Entries, (keys done).Nodup →
      (keys (es.foldl (fun done (k, v) => insert k v done) done)).Nodup := by
    induction es with
    | nil => exact fun done h => h
    | cons e es ih => exact fun done h => ih _ (nodup_keys_insert h)
  exact hfold [] List.nodup_nil

end Entries

namespace Value

theorem readable_scalar {room : Nat} {token : Json.Token} {v : Value} (hfits : token.Fits)
    (h : token.scalar? = some v) : v.Readable room := by
  cases token with
  | int n =>
    cases h
    exact ⟨trivial, Nat.zero_le _, hfits⟩
  | null | bool | real =>
    cases h
    exact ⟨trivial, Nat.zero_le _, rfl⟩
  | text t =>
    cases t with
    | ok t =>
      cases h
      exact ⟨trivial, Nat.zero_le _, rfl⟩
    | error fault => cases h
  | _ => cases h

end Value

namespace Json

/-- The values in open containers are such as reading yields, within what their height leaves. -/
def StackReadable : List (List Value) → Prop
  | [] => True
  | values :: outer =>
    (outer.length < nestingLimit ∧
      ∀ v ∈ values, v.Readable (nestingLimit - outer.length - 1)) ∧ StackReadable outer

namespace Reader

/-- What has been read so far is such as reading yields. -/
def Readable : Reader → Prop
  | .reading stack _ => StackReadable (stack.map Frame.values)
  | .finished v => v.Readable nestingLimit
  | .failed _ => True

theorem readable_complete {v : Value} {stack : List Frame}
    (hstack : StackReadable (stack.map Frame.values))
    (hv : v.Readable (nestingLimit - stack.length)) : (complete v stack).Readable := by
  rw [← List.length_map (f := Frame.values)] at hv
  match stack with
  | [] => exact hv
  | .array items :: stack =>
    obtain ⟨⟨hroom, hitems⟩, hrest⟩ := hstack
    exact ⟨⟨hroom, List.forall_mem_cons.2 ⟨hv, hitems⟩⟩, hrest⟩
  | .object entries key :: stack =>
    obtain ⟨⟨hroom, hentries⟩, hrest⟩ := hstack
    exact ⟨⟨hroom, List.forall_mem_cons.2 ⟨hv, hentries⟩⟩, hrest⟩

/-- A token that fits leaves what can be read. A container that closes takes one level more than
its values. -/
theorem Effect.readable {stack : List Frame} {token : Token} {r : Reader}
    (h : Effect stack token r) (hstack : StackReadable (stack.map Frame.values))
    (htoken : token.Fits) : r.Readable := by
  cases h with
  | keep expect hvalues _ =>
    rw [← hvalues] at hstack
    exact hstack
  | scalar hscalar => exact readable_complete hstack (Value.readable_scalar htoken hscalar)
  | enter expect hvalues _ =>
    unfold Reader.enter
    split
    · trivial
    · rename_i hroom
      rw [← List.length_map (f := Frame.values)] at hroom
      refine ⟨⟨Nat.not_le.1 hroom, ?_⟩, hstack⟩
      rw [hvalues]
      exact nofun
  | closeArray =>
    obtain ⟨⟨hroom, hitems⟩, hrest⟩ := hstack
    rw [List.length_map] at hroom hitems
    refine readable_complete hrest (Value.readable_list_iff.2 ⟨Nat.sub_pos_of_lt hroom, ?_⟩)
    exact fun v hv => hitems v (List.mem_reverse.1 hv)
  | closeObject =>
    obtain ⟨⟨hroom, hentries⟩, hrest⟩ := hstack
    rw [List.length_map] at hroom hentries
    refine readable_complete hrest (Value.readable_object_iff.2
      ⟨Entries.nodup_keys_ofList _, Nat.sub_pos_of_lt hroom, ?_⟩)
    intro v hv
    obtain ⟨e, he, rfl⟩ := List.mem_map.1 hv
    exact hentries _ (List.mem_map_of_mem (List.mem_reverse.1 (Entries.mem_of_mem_ofList he)))
  | refuse _ => trivial

theorem readable_foldl {r : Reader} (h : r.Readable) {tokens : List Token}
    (htokens : ∀ token ∈ tokens, token.Fits) : (tokens.foldl step r).Readable := by
  induction tokens generalizing r with
  | nil => exact h
  | cons token tokens ih =>
    obtain ⟨htoken, hrest⟩ := List.forall_mem_cons.1 htokens
    refine ih ?_ hrest
    match r with
    | .reading stack expect => exact (effect_step stack expect token).readable h htoken
    | .finished _ => trivial
    | .failed _ => trivial

end Reader

/-- A value that was parsed is one of JSON, within the limits. -/
theorem readable_of_parse {bytes : Bytes} {v : Value} (h : parse bytes = .ok v) :
    v.Readable nestingLimit := by
  have hrun := Reader.readable_foldl (r := .reading [] .value) trivial (lex_bounds bytes).2
  rw [finished_of_parse h] at hrun
  exact hrun

theorem within_of_parse {bytes : Bytes} {v : Value} (h : parse bytes = .ok v) :
    v.Within nestingLimit := (readable_of_parse h).within

end Json

/-! ## What is embedded -/

namespace Value

mutual

/-- What is embedded in a value within the limits is within them. -/
theorem Within.of_embedded {strict : Bool} : ∀ {v w : Value} {room : Nat},
    v.Embedded strict w → w.Within room → v.Within room
  | .null, _, _, h, hw => h ▸ hw
  | .bool _, _, _, h, hw => h ▸ hw
  | .int _, _, _, h, hw => h ▸ hw
  | .real _, _, _, h, hw => h ▸ hw
  | .text _, _, _, h, hw => h ▸ hw
  | .bytes _, _, _, h, hw => h ▸ hw
  | .type _, _, _, h, hw => h ▸ hw
  | .list vs, _, _, h, hw => by
    obtain ⟨ws, rfl, hitems⟩ := h
    rw [within_list_iff] at hw ⊢
    exact ⟨hw.1, itemsWithin_of_embedded hitems hw.2⟩
  | .object es, _, _, h, hw => by
    obtain ⟨others, rfl, hentries, -⟩ := h
    rw [within_object_iff] at hw ⊢
    exact ⟨hw.1, entriesWithin_of_embedded hentries hw.2⟩

theorem itemsWithin_of_embedded {strict : Bool} : ∀ {vs ws : List Value} {room : Nat},
    ItemsEmbedded strict vs ws → (∀ w ∈ ws, w.Within room) → ∀ v ∈ vs, v.Within room
  | [], _, _, _, _ => nofun
  | v :: vs, _, _, h, hw => by
    obtain ⟨w, ws, rfl, hv, hvs⟩ := h
    obtain ⟨hhead, htail⟩ := List.forall_mem_cons.1 hw
    exact List.forall_mem_cons.2 ⟨.of_embedded hv hhead, itemsWithin_of_embedded hvs htail⟩

theorem entriesWithin_of_embedded {strict : Bool} :
    ∀ {es : List (Text × Value)} {others : Entries} {room : Nat}, EntriesEmbedded strict es others →
      (∀ w ∈ others.map Prod.snd, w.Within room) → ∀ v ∈ es.map Prod.snd, v.Within room
  | [], _, _, _, _ => nofun
  | (k, v) :: es, others, _, h, hw => by
    obtain ⟨⟨w, hget, hv⟩, hes⟩ := h
    have hwithin := hw w (List.mem_map_of_mem (Entries.mem_of_get? hget))
    exact List.forall_mem_cons.2 ⟨.of_embedded hv hwithin, entriesWithin_of_embedded hes hw⟩

end

end Value

/-- The entry of a key can be taken out, and the values of other keys stay. -/
theorem Entries.split_of_get? {k : Text} {w : Value} {es : Entries} (h : get? k es = some w) :
    ∃ front back, es = front ++ (k, w) :: back ∧
      ∀ k', k' ≠ k → get? k' (front ++ back) = get? k' es := by
  induction es with
  | nil => cases h
  | cons e es ih =>
    obtain ⟨k₀, v₀⟩ := e
    rw [get?_cons] at h
    split at h
    · rename_i hk
      subst hk
      cases h
      refine ⟨[], es, rfl, fun k' hk' => ?_⟩
      rw [get?_cons, if_neg hk', List.nil_append]
    · obtain ⟨front, back, rfl, hget⟩ := ih h
      refine ⟨(k₀, v₀) :: front, back, rfl, fun k' hk' => ?_⟩
      rw [List.cons_append, get?_cons, get?_cons, hget k' hk']

namespace Value

mutual

/-- What is embedded in a value weighs no more. -/
theorem weight_le_of_embedded {strict : Bool} : ∀ {v w : Value}, v.IsJson →
    v.Embedded strict w → v.weight ≤ w.weight
  | .null, _, _, h => Nat.le_of_eq (congrArg weight h)
  | .bool _, _, _, h => Nat.le_of_eq (congrArg weight h)
  | .int _, _, _, h => Nat.le_of_eq (congrArg weight h)
  | .real _, _, _, h => Nat.le_of_eq (congrArg weight h)
  | .text _, _, _, h => Nat.le_of_eq (congrArg weight h)
  | .bytes _, _, hjson, _ => hjson.elim
  | .type _, _, hjson, _ => hjson.elim
  | .list vs, _, hjson, h => by
    obtain ⟨ws, rfl, hitems⟩ := h
    have hweight := itemsWeight_le_of_embedded hjson hitems
    rw [weight_list, weight_list]
    omega
  | .object es, _, hjson, h => by
    obtain ⟨others, rfl, hentries, -⟩ := h
    have hweight := entriesWeight_le_of_embedded hjson.1 hjson.2 hentries
    rw [weight_object, weight_object]
    omega

theorem itemsWeight_le_of_embedded {strict : Bool} : ∀ {vs ws : List Value}, ItemsJson vs →
    ItemsEmbedded strict vs ws → itemsWeight vs ≤ itemsWeight ws
  | [], _, _, _ => Nat.zero_le _
  | v :: vs, _, hjson, h => by
    obtain ⟨w, ws, rfl, hv, hvs⟩ := h
    have hhead := weight_le_of_embedded hjson.1 hv
    have htail := itemsWeight_le_of_embedded hjson.2 hvs
    simp only [itemsWeight]
    omega

-- keys stand once, so each entry can be charged to one of its own among the others
theorem entriesWeight_le_of_embedded {strict : Bool} :
    ∀ {es : List (Text × Value)} {others : Entries}, (Entries.keys es).Nodup → EntriesJson es →
      EntriesEmbedded strict es others → entriesWeight es ≤ entriesWeight others
  | [], _, _, _, _ => Nat.zero_le _
  | (k, v) :: es, others, hnodup, hjson, h => by
    obtain ⟨⟨w, hget, hv⟩, hes⟩ := h
    obtain ⟨front, back, rfl, hothers⟩ := Entries.split_of_get? hget
    rw [Entries.keys_cons, List.nodup_cons] at hnodup
    have hrest : EntriesEmbedded strict es (front ++ back) := by
      rw [entriesEmbedded_iff] at hes ⊢
      intro k' v' hmem
      have hk' : k' ≠ k := by
        rintro rfl
        exact hnodup.1 (Entries.mem_keys_of_mem hmem)
      obtain ⟨w', hget', hv'⟩ := hes k' v' hmem
      exact ⟨w', (hothers k' hk').trans hget', hv'⟩
    have hhead := weight_le_of_embedded hjson.1 hv
    have htail := entriesWeight_le_of_embedded hnodup.2 hjson.2 hrest
    rw [entriesWeight_append] at htail ⊢
    simp only [entriesWeight]
    omega

end

end Value

end CircuitAbi

import CircuitAbi.Proofs.Inhabitant

/-!
# What the modulus decides

Of two moduli, the smaller accepts what the greater does, with the same result, but for arguments in
which a field element is too large for it. Nothing else is read off the modulus.

* `SchemaType.fieldNumbers` — the numbers of an argument at the field positions of its type.
* `SchemaType.FieldFree` — no type inside is the one of field elements.
* `Checking.argument_raise`, `Checking.argument_lower` — from one modulus to the other.
* `Checking.argument_of_fieldFree` — a type without field elements.

Principal result: `modulus_filters_field_numbers`.
-/

set_option autoImplicit false

namespace CircuitAbi

namespace SchemaType

/-! ## Field positions -/

mutual

/-- The numbers of an argument that stand at the field positions of a type. -/
def fieldNumbers : SchemaType → Argument → List Int
  | .field => fun
    | .int n => [n]
    | _ => []
  | .bool => fun _ => []
  | .uint _ _ => fun _ => []
  | .array element _ => fun
    | .list items => items.flatMap element.fieldNumbers
    | _ => []
  | .struct _ ms => fun
    | .struct es => membersFieldNumbers es ms
    | _ => []
termination_by structural t => t

/-- Those that stand under the names of members. -/
def membersFieldNumbers (es : List (Name × Argument)) : List (Name × SchemaType) → List Int
  | [] => []
  | (name, t) :: rest =>
    (es.lookup name).toList.flatMap t.fieldNumbers ++ membersFieldNumbers es rest
termination_by structural ms => ms

end

theorem mem_membersFieldNumbers {es : List (Name × Argument)} {ms : List (Name × SchemaType)}
    {n : Int} : n ∈ membersFieldNumbers es ms ↔
      ∃ member ∈ ms, ∃ a, es.lookup member.1 = some a ∧ n ∈ member.2.fieldNumbers a := by
  induction ms with
  | nil => simp [membersFieldNumbers]
  | cons member ms ih => simp [membersFieldNumbers, ih]

mutual

/-- The field elements of an inhabitant are below the modulus. -/
theorem fieldNumbers_lt (m : Int) : ∀ (t : SchemaType) {a : Argument}, t.DistinctMembers →
    t.Inhabits m a → ∀ n ∈ t.fieldNumbers a, n < m
  | .field, _, _, ⟨k, rfl, _, hk⟩, n, hn => by
    rw [List.mem_singleton.1 hn]
    exact hk
  | .bool, _, _, _, _, hn => nomatch hn
  | .uint _ _, _, _, _, _, hn => nomatch hn
  | .array element _, _, hdistinct, ⟨items, rfl, _, hitems⟩, n, hn => by
    obtain ⟨item, hitem, hn⟩ := List.mem_flatMap.1 hn
    exact fieldNumbers_lt m element (distinctMembers_array.1 hdistinct) (hitems item hitem) n hn
  | .struct _ ms, _, hdistinct, ⟨es, rfl, _, hmembers⟩, n, hn => by
    obtain ⟨hnames, hdistinct⟩ := distinctMembers_struct.1 hdistinct
    exact membersFieldNumbers_lt m ms hnames hdistinct hmembers n hn

theorem membersFieldNumbers_lt (m : Int) : ∀ (ms : List (Name × SchemaType))
    {es : List (Name × Argument)}, (ms.map Prod.fst).Nodup →
    (∀ member ∈ ms, member.2.DistinctMembers) → MembersInhabit m es ms →
    ∀ n ∈ membersFieldNumbers es ms, n < m
  | [], _, _, _, _, _, hn => nomatch hn
  | (name, t) :: ms, es, hnames, hdistinct, ⟨hlast, hrest⟩, n, hn => by
    obtain ⟨hnew, hnames⟩ := List.nodup_cons.1 hnames
    obtain ⟨ht, hdistinct⟩ := List.forall_mem_cons.1 hdistinct
    rw [membersFieldNumbers, List.mem_append] at hn
    rcases hn with hn | hn
    · obtain ⟨a, ha, hinhabits⟩ := hlast hnew
      rw [ha, Option.toList_some, List.flatMap_singleton] at hn
      exact fieldNumbers_lt m t ht hinhabits n hn
    · exact membersFieldNumbers_lt m ms hnames hdistinct hrest n hn

end

/-- No type inside is the one of field elements. -/
def FieldFree : SchemaType → Prop := Everywhere (· ≠ field)

theorem fieldFree_array {element : SchemaType} {size : Nat} :
    FieldFree (array element size) ↔ element.FieldFree := by
  simp [FieldFree, Everywhere]

theorem fieldFree_struct {name : Name} {ms : List (Name × SchemaType)} :
    FieldFree (struct name ms) ↔ ∀ member ∈ ms, member.2.FieldFree := by
  simp [FieldFree, Everywhere, membersEverywhere_iff]

end SchemaType

/-! ## Two moduli -/

namespace Checking

variable {m m' : Int} {room : Nat} {v : Value} {t : SchemaType} {a : Argument}

theorem field_raise (hle : m ≤ m') (h : field m v = .ok a) : field m' v = .ok a := by
  obtain ⟨n, hn, hv⟩ := field_eq_ok_iff.1 h
  exact field_eq_ok_iff.2 ⟨n, Int.lt_of_lt_of_le hn hle, hv⟩

/-- What is accepted below a modulus is accepted below a greater one, with the same result. -/
theorem argument_raise (hle : m ≤ m') (h : argument m room v t = .ok a) :
    argument m' room v t = .ok a := by
  induction room generalizing v t a with
  | zero => exact absurd h argument_zero_ne_ok
  | succ room ih =>
    rw [argument_succ_eq_ok] at h ⊢
    exact h.imp (fun a => field_raise hle) fun v t a => ih

/-- What is accepted below a modulus is accepted below another one, with the same result, when its
field elements are below that one too. -/
theorem argument_lower (hdistinct : t.DistinctMembers) (h : argument m' room v t = .ok a)
    (hbelow : ∀ n ∈ t.fieldNumbers a, n < m) : argument m room v t = .ok a := by
  induction room generalizing v t a with
  | zero => exact absurd h argument_zero_ne_ok
  | succ room ih =>
    rw [argument_succ_eq_ok] at h ⊢
    cases t with
    | field =>
      obtain ⟨n, -, rfl, hv⟩ := field_eq_ok_iff.1 h
      exact field_eq_ok_iff.2 ⟨n, hbelow n List.mem_cons_self, rfl, hv⟩
    | bool => exact h
    | uint width form => exact h
    | array element size =>
      obtain ⟨vs, as, rfl, rfl, hlength, hitems⟩ := h
      refine ⟨vs, as, rfl, rfl, hlength, ?_⟩
      rw [List.forall₂_iff_zip] at hitems ⊢
      refine ⟨hitems.1, fun {w b} hmem => ?_⟩
      refine ih (SchemaType.distinctMembers_array.1 hdistinct) (hitems.2 hmem) fun n hn => ?_
      exact hbelow n (List.mem_flatMap.2 ⟨b, (List.of_mem_zip hmem).2, hn⟩)
    | struct name ms =>
      obtain ⟨es, written, rfl, rfl, hkeys, hmembers⟩ := h
      obtain ⟨hnodup, hdistinct⟩ := SchemaType.distinctMembers_struct.1 hdistinct
      have hnames : (written.map Prod.fst).Nodup := map_fst_of_forall₂ hmembers ▸ hnodup
      rw [Argument.write_of_nodup hnames] at hbelow
      refine ⟨es, written, rfl, rfl, hkeys, ?_⟩
      rw [List.forall₂_iff_zip] at hmembers ⊢
      refine ⟨hmembers.1, fun {member entry} hmem => ?_⟩
      obtain ⟨hname, w, hw, hchecked⟩ := hmembers.2 hmem
      obtain ⟨hmember, hentry⟩ := List.of_mem_zip hmem
      -- no later member has its name, so the entry is the one that is found under it
      have hlookup : written.lookup member.1 = some entry.2 :=
        hname ▸ Argument.lookup_of_mem hnames hentry
      refine ⟨hname, w, hw, ih (hdistinct member hmember) hchecked fun n hn => ?_⟩
      exact hbelow n (SchemaType.mem_membersFieldNumbers.2 ⟨member, hmember, _, hlookup, hn⟩)

theorem members_congr {check check' : Value → SchemaType → Checking Argument} {struct : Name}
    {es : Entries} {done : List (Name × Argument)} {ms : List (Name × SchemaType)}
    (h : ∀ member ∈ ms, ∀ v, check v member.2 = check' v member.2) :
    members check struct es done ms = members check' struct es done ms := by
  induction ms generalizing done with
  | nil => rfl
  | cons member ms ih =>
    obtain ⟨name, t⟩ := member
    obtain ⟨hfirst, hrest⟩ := List.forall_mem_cons.1 h
    unfold members
    simp only [hfirst, ih hrest]

/-- A type without field elements is checked alike below all moduli, faults included. -/
theorem argument_of_fieldFree (h : t.FieldFree) : argument m room v t = argument m' room v t := by
  induction room generalizing v t with
  | zero => rfl
  | succ room ih =>
    cases t with
    | field => exact absurd rfl h
    | bool => rfl
    | uint width form => rfl
    | array element size =>
      have hitem (w : Value) : argument m room w element = argument m' room w element :=
        ih (SchemaType.fieldFree_array.1 h)
      cases v with
      | list vs => simp only [argument_list, hitem]
      | _ => rfl
    | struct name ms =>
      have hmember : ∀ member ∈ ms, ∀ w, argument m room w member.2 = argument m' room w member.2 :=
        fun member hmember w => ih (SchemaType.fieldFree_struct.1 h member hmember)
      cases v with
      | object es => rw [argument_object, argument_object, members_congr hmember]
      | _ => rfl

end Checking

/-- **The modulus only filters field elements.** What is accepted below a modulus is what is
accepted below a greater one, with the same result, and has no field element that reaches it.
Raising the modulus changes no result, and where there are no field elements it decides nothing. -/
theorem modulus_filters_field_numbers (v : Value) (t : SchemaType) (root : Text) (c : Config) :
    (∀ modulus₁ modulus₂ : Option Int,
      modulus₁.getD c.fieldModulus ≤ modulus₂.getD c.fieldModulus →
        (t.DistinctMembers → ∀ a,
          (checkArgument v (.type t) root modulus₁).run.run c = .ok a ↔
            (checkArgument v (.type t) root modulus₂).run.run c = .ok a ∧
              ∀ n ∈ t.fieldNumbers a, n < modulus₁.getD c.fieldModulus) ∧
        ∀ a, (checkArgument v (.type t) root modulus₁).run.run c = .ok a →
          (checkArgument v (.type t) root modulus₂).run.run c = .ok a) ∧
    (t.FieldFree → ∀ modulus₁ modulus₂ : Option Int,
      (checkArgument v (.type t) root modulus₁).run.run c =
        (checkArgument v (.type t) root modulus₂).run.run c) := by
  simp only [run_checkArgument, Checking.report_eq_ok]
  refine ⟨fun modulus₁ modulus₂ hle => ⟨fun hdistinct a => ⟨fun h => ?_, fun h => ?_⟩, ?_⟩,
    fun hfree modulus₁ modulus₂ => ?_⟩
  · have hinhabits := Checking.inhabits_of_argument _ t h
    exact ⟨Checking.argument_raise hle h, SchemaType.fieldNumbers_lt _ t hdistinct hinhabits⟩
  · exact Checking.argument_lower hdistinct h.1 h.2
  · intro a h
    exact Checking.argument_raise hle h
  · rw [Checking.argument_of_fieldFree hfree]

/-- A struct of a field element and an octet. -/
def keyedType : SchemaType := .struct "Keyed" [("key", .field), ("octet", .uint .w8 .whole)]

def keyedValue : Value := .object [("octet", .text "0xff"), ("key", .int 7)]

def keyedArgument : Argument := .struct [("key", .int 7), ("octet", .int 255)]

theorem keyedType_distinctMembers : keyedType.DistinctMembers := by
  refine SchemaType.distinctMembers_struct.2 ⟨by decide, ?_⟩
  simp [SchemaType.DistinctMembers, SchemaType.Everywhere]

/-- The octet may well exceed the modulus; the key may not reach it. -/
theorem modulus_filters_field_numbers_keyed :
    keyedType.DistinctMembers ∧
    (checkArgument keyedValue (.type keyedType) documentRoot (some 8)).run.run
      (Config.ofEnvironment []) = .ok keyedArgument ∧
    (checkArgument keyedValue (.type keyedType) documentRoot (some 7)).run.run
      (Config.ofEnvironment []) ≠ .ok keyedArgument ∧
    (SchemaType.array (.uint .w8 .whole) 1).FieldFree ∧
    (checkArgument (.list [.int 7]) (.type (.array (.uint .w8 .whole) 1)) documentRoot
      (some (-1))).run.run (Config.ofEnvironment []) =
        (checkArgument (.list [.int 7]) (.type (.array (.uint .w8 .whole) 1)) documentRoot
          none).run.run (Config.ofEnvironment []) := by
  have hfree : (SchemaType.array (.uint .w8 .whole) 1).FieldFree := by
    simp [SchemaType.FieldFree, SchemaType.Everywhere]
  have hgreater : (checkArgument keyedValue (.type keyedType) documentRoot (some 11)).run.run
      (Config.ofEnvironment []) = .ok keyedArgument := rfl
  have hfilter {m : Int} (hle : m ≤ 11) :=
    ((modulus_filters_field_numbers keyedValue keyedType documentRoot
      (Config.ofEnvironment [])).1 (some m) (some 11) hle).1 keyedType_distinctMembers keyedArgument
  refine ⟨keyedType_distinctMembers, (hfilter (by decide)).2 ⟨hgreater, by decide⟩, fun h => ?_,
    hfree, (modulus_filters_field_numbers _ _ _ _).2 hfree _ _⟩
  have hkey := ((hfilter (by decide)).1 h).2 7 (by decide)
  exact absurd hkey (by decide)

end CircuitAbi

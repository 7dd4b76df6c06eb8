import CircuitAbi.Proofs.ArgumentNumeral
import CircuitAbi.Proofs.SchemaClass

/-!
# Inhabitants of types

What the arguments of a type are (`SchemaType.Inhabits`), and how many scalars they hold.

* `accepted_arguments_inhabit` — accepted arguments are inhabitants of the inputs' types.
* `scalars_eq_primitives` — where no struct has two members of one name, they hold as many scalars
  as the signature counts, as far as it can count (`deep_count_refused`).
-/

set_option autoImplicit false

namespace CircuitAbi

namespace SchemaType

mutual

/-- An argument inhabits a type. A struct lists each name among its members once, in the order of
first occurrence. -/
def Inhabits (m : Int) : SchemaType → Argument → Prop
  | .field => fun a => ∃ n : Int, a = .int n ∧ 0 ≤ n ∧ n < m
  | .bool => fun a => ∃ b, a = .bool b
  | .uint width _ => fun a => ∃ n : Int, a = .int n ∧ 0 ≤ n ∧ n < 2 ^ width.bits
  | .array element size => fun a =>
    ∃ items, a = .list items ∧ items.length = size ∧ ∀ item ∈ items, element.Inhabits m item
  | .struct _ ms => fun a =>
    ∃ es, a = .struct es ∧ es.map Prod.fst = (ms.map Prod.fst).eraseDups ∧ MembersInhabit m es ms
termination_by structural t => t

/-- The last member of each name has an inhabitant of its type under the name. -/
def MembersInhabit (m : Int) (es : List (Name × Argument)) : List (Name × SchemaType) → Prop
  | [] => True
  | (name, t) :: rest =>
    (name ∉ rest.map Prod.fst → ∃ a, es.lookup name = some a ∧ t.Inhabits m a) ∧
      MembersInhabit m es rest
termination_by structural ms => ms

end

end SchemaType

/-! ## Accepted arguments -/

namespace Checking

theorem inhabits_of_uint {m : Int} {w : Width} {form : NumberForm} {v : Value} {a : Argument}
    (h : uint w form v = .ok a) : (SchemaType.uint w form).Inhabits m a := by
  obtain ⟨digits, e, n, -, -, hlength, hdenotes, rfl⟩ := uint_eq_ok_iff.1 h
  refine ⟨n, rfl, Int.natCast_nonneg n, ?_⟩
  -- the number is never compared with a bound: there are four bits to a digit, and too few digits
  have hbound : n < 2 ^ w.bits :=
    calc n < 16 ^ digits.length := hdenotes.lt
      _ ≤ 16 ^ (w.bits / 4) := Nat.pow_le_pow_right (by decide) (by omega)
      _ = 2 ^ w.bits := by cases w <;> rfl
  exact_mod_cast hbound

mutual

theorem inhabits_of_argument (m : Int) : ∀ (t : SchemaType) {room : Nat} {v : Value} {a : Argument},
    argument m room v t = .ok a → t.Inhabits m a
  | .field, room, v, a, h => by
    obtain ⟨_, rfl, hlevel⟩ := argument_eq_ok.1 h
    obtain ⟨n, hn, rfl, -⟩ := field_eq_ok_iff.1 hlevel
    exact ⟨n, rfl, Int.natCast_nonneg n, hn⟩
  | .bool, room, v, a, h => by
    obtain ⟨_, rfl, b, -, rfl⟩ := argument_eq_ok.1 h
    exact ⟨b, rfl⟩
  | .uint width form, room, v, a, h => by
    obtain ⟨_, rfl, hlevel⟩ := argument_eq_ok.1 h
    exact inhabits_of_uint hlevel
  | .array element size, room, v, a, h => by
    obtain ⟨_, rfl, vs, as, rfl, rfl, hlength, hitems⟩ := argument_eq_ok.1 h
    refine ⟨as, rfl, hitems.length_eq ▸ hlength, ?_⟩
    have hboth := hitems.flip.imp fun a v h => And.intro (inhabits_of_argument m element h) h
    exact ((List.forall₂_and_left _ _).1 hboth).1
  | .struct name ms, room, v, a, h => by
    obtain ⟨_, rfl, es, written, rfl, rfl, -, hmembers⟩ := argument_eq_ok.1 h
    refine ⟨_, rfl, ?_, membersInhabit_write m ms hmembers []⟩
    rw [Argument.map_fst_write, map_fst_of_forall₂ hmembers]

/-- The last member of a name decides what stands under the name: later members have other names, so
that they leave it there. -/
theorem membersInhabit_write (m : Int) : ∀ (ms : List (Name × SchemaType)) {es : Entries}
    {written : List (Name × Argument)} {room : Nat},
    List.Forall₂ (MemberChecked (argument m room) es) ms written →
    ∀ done, SchemaType.MembersInhabit m (Argument.write done written) ms
  | [], _, _, _, _, _ => trivial
  | (name, t) :: ms, es, _, room, h, done => by
    obtain ⟨⟨_, a⟩, written, ⟨rfl, v, -, ha⟩, hwritten, rfl⟩ := List.forall₂_cons_left_iff.1 h
    refine ⟨fun hlast => ⟨a, ?_, inhabits_of_argument m t ha⟩, membersInhabit_write m ms hwritten _⟩
    show (Argument.write (Argument.insert _ a done) written).lookup _ = some a
    rw [map_fst_of_forall₂ hwritten] at hlast
    rw [Argument.lookup_write_of_not_mem hlast, Argument.lookup_insert, if_pos rfl]

end

/-- The results for a list of values inhabit the types that they are checked for. -/
theorem inhabit_of_arguments {m : Int} {types : List SchemaType} {values : Value}
    {results : List Argument} (h : arguments m types values = .ok results) :
    List.Forall₂ (SchemaType.Inhabits m) types results := by
  obtain ⟨vs, -, hlength, hresults⟩ := arguments_eq_ok.1 h
  have htypes : (vs.zip types).map Prod.snd = types :=
    List.map_snd_zip (Nat.le_of_eq hlength.symm)
  rw [← htypes, List.forall₂_map_left_iff]
  exact hresults.imp fun p a hp => inhabits_of_argument m p.2 hp

end Checking

/-- **Accepted arguments are well typed**: there is one for each input of the signature, in order,
and each inhabits the type of its input. -/
theorem accepted_arguments_inhabit {s : Signature} {values : Value} {modulus : Option Int}
    {c : Config} {results : List Argument}
    (h : (checkArguments s values modulus).run.run c = .ok results) :
    List.Forall₂ (SchemaType.Inhabits (modulus.getD c.fieldModulus)) s.inputs results := by
  rw [run_checkArguments, Checking.report_eq_ok] at h
  exact Checking.inhabit_of_arguments h

/-- A struct with two members of one name, of which the first one's values are written over. -/
def overwritten : SchemaType :=
  .struct "S" [("a", .array .field 0), ("b", .uint .w8 .whole), ("a", .array .bool 0)]

theorem accepted_arguments_inhabit_overwritten :
    (checkArguments ⟨[overwritten, .field], []⟩
      (.list [.object [("b", .text "0xfF"), ("a", .list [])], .text "10"]) (some 11)).run.run
        (Config.ofEnvironment []) =
        .ok [.struct [("a", .list []), ("b", .int 255)], .int 10] ∧
    List.Forall₂ (SchemaType.Inhabits 11) [overwritten, .field]
      [.struct [("a", .list []), ("b", .int 255)], .int 10] := by
  have haccepted : (checkArguments ⟨[overwritten, .field], []⟩
      (.list [.object [("b", .text "0xfF"), ("a", .list [])], .text "10"]) (some 11)).run.run
        (Config.ofEnvironment []) =
        .ok [.struct [("a", .list []), ("b", .int 255)], .int 10] := rfl
  exact ⟨haccepted, accepted_arguments_inhabit haccepted⟩

/-! ## Scalars -/

namespace Argument

mutual

/-- How many scalars an argument holds. -/
def scalars : Argument → Nat
  | .bool _ => 1
  | .int _ => 1
  | .list items => itemsScalars items
  | .struct es => entriesScalars es
termination_by structural a => a

/-- The scalars of all items together. -/
def itemsScalars : List Argument → Nat
  | [] => 0
  | a :: rest => a.scalars + itemsScalars rest
termination_by structural as => as

/-- The scalars of all entries together. -/
def entriesScalars : List (Name × Argument) → Nat
  | [] => 0
  | (_, a) :: rest => a.scalars + entriesScalars rest
termination_by structural es => es

end

theorem itemsScalars_eq {items : List Argument} {n : Nat} (h : ∀ item ∈ items, item.scalars = n) :
    itemsScalars items = items.length * n := by
  induction items with
  | nil => simp [itemsScalars]
  | cons item items ih =>
    obtain ⟨hitem, hitems⟩ := List.forall_mem_cons.1 h
    rw [itemsScalars, hitem, ih hitems, List.length_cons, Nat.succ_mul, Nat.add_comm]

end Argument

theorem eraseDups_of_nodup {names : List Name} (h : names.Nodup) : names.eraseDups = names := by
  induction names with
  | nil => rfl
  | cons name names ih =>
    obtain ⟨hname, hnames⟩ := List.nodup_cons.1 h
    have hfilter : names.filter (fun other => !other == name) = names := by
      refine List.filter_eq_self.2 fun other hother => ?_
      have hne : other ≠ name := fun heq => hname (heq ▸ hother)
      rw [beq_eq_false_iff_ne.2 hne, Bool.not_false]
    rw [List.eraseDups_cons, hfilter, ih hnames]

namespace SchemaType

/-- An entry under a name that no member has says nothing about the members. -/
theorem membersInhabit_tail {m : Int} {name : Name} {a : Argument} {es : List (Name × Argument)}
    {ms : List (Name × SchemaType)} (hname : name ∉ ms.map Prod.fst)
    (h : MembersInhabit m ((name, a) :: es) ms) : MembersInhabit m es ms := by
  induction ms with
  | nil => trivial
  | cons member ms ih =>
    rw [List.map_cons, List.mem_cons, not_or] at hname
    refine ⟨fun hlast => ?_, ih hname.2 h.2⟩
    obtain ⟨b, hb, hinhabits⟩ := h.1 hlast
    rw [Argument.lookup_cons, if_neg (Ne.symm hname.1)] at hb
    exact ⟨b, hb, hinhabits⟩

mutual

/-- An inhabitant holds as many scalars as its type counts. -/
theorem scalars_of_inhabits (m : Int) : ∀ (t : SchemaType) {a : Argument},
    t.DistinctMembers → t.Inhabits m a → a.scalars = t.count
  | .field, a, _, h => by
    obtain ⟨n, rfl, -⟩ := h
    rfl
  | .bool, a, _, h => by
    obtain ⟨b, rfl⟩ := h
    rfl
  | .uint _ _, a, _, h => by
    obtain ⟨n, rfl, -⟩ := h
    rfl
  | .array element size, a, hdistinct, h => by
    obtain ⟨items, rfl, rfl, hitems⟩ := h
    rw [Argument.scalars, count]
    refine Argument.itemsScalars_eq fun item hitem => ?_
    exact scalars_of_inhabits m element (distinctMembers_array.1 hdistinct) (hitems item hitem)
  | .struct name ms, a, hdistinct, h => by
    obtain ⟨es, rfl, hnames, hmembers⟩ := h
    obtain ⟨hnodup, hdistinct⟩ := distinctMembers_struct.1 hdistinct
    -- with different names nothing is written over, so there is an entry for each member
    rw [eraseDups_of_nodup hnodup] at hnames
    rw [Argument.scalars, count]
    exact entriesScalars_of_inhabit m ms hnodup hdistinct hnames hmembers

theorem entriesScalars_of_inhabit (m : Int) : ∀ (ms : List (Name × SchemaType))
    {es : List (Name × Argument)}, (ms.map Prod.fst).Nodup →
    (∀ member ∈ ms, member.2.DistinctMembers) → es.map Prod.fst = ms.map Prod.fst →
    MembersInhabit m es ms → Argument.entriesScalars es = membersCount ms
  | [], es, _, _, hnames, _ => by
    rw [List.map_eq_nil_iff.1 hnames]
    rfl
  | (name, t) :: ms, es, hnodup, hdistinct, hnames, hmembers => by
    obtain ⟨⟨_, a⟩, rest, rfl, rfl, hrest⟩ := List.map_eq_cons_iff.1 hnames
    rw [List.map_cons, List.nodup_cons] at hnodup
    obtain ⟨ht, hms⟩ := List.forall_mem_cons.1 hdistinct
    obtain ⟨b, hb, hinhabits⟩ := hmembers.1 hnodup.1
    rw [Argument.lookup_cons, if_pos rfl] at hb
    cases hb
    rw [Argument.entriesScalars, membersCount, scalars_of_inhabits m t ht hinhabits,
      entriesScalars_of_inhabit m ms hnodup.2 hms hrest (membersInhabit_tail hnodup.1 hmembers.2)]

end

end SchemaType

theorem Argument.itemsScalars_of_inhabit {m : Int} {types : List SchemaType}
    {results : List Argument} (hdistinct : ∀ t ∈ types, t.DistinctMembers)
    (h : List.Forall₂ (SchemaType.Inhabits m) types results) :
    itemsScalars results = Signature.primitives types := by
  induction h with
  | nil => rfl
  | cons ha _ ih =>
    obtain ⟨ht, hts⟩ := List.forall_mem_cons.1 hdistinct
    rw [itemsScalars, SchemaType.scalars_of_inhabits m _ ht ha, ih hts]
    rfl

namespace Signature

/-- The count within the limits is the count, where no type nests too deeply. -/
theorem primitives?_of_depth_le {types : List SchemaType}
    (h : ∀ t ∈ types, t.depth ≤ countLimit) : primitives? types = .ok (primitives types) := by
  induction types with
  | nil => rfl
  | cons t types ih =>
    obtain ⟨ht, htypes⟩ := List.forall_mem_cons.1 h
    have hcount : t.count? = .ok t.count := if_neg (Nat.not_lt.2 ht)
    rw [primitives?, hcount, ok_bind, ih htypes, ok_bind]
    rfl

/-- One type that nests too deeply is enough to have no count. -/
theorem primitives?_of_depth_gt {t : SchemaType} {types : List SchemaType}
    (h : countLimit < t.depth) : primitives? (t :: types) = .error .nesting := by
  have hcount : t.count? = .error .nesting := if_pos h
  rw [primitives?, hcount]
  rfl

end Signature

/-- **Accepted arguments hold as many scalars as the signature counts**, where the members of each
struct have different names: as the count is defined, and as it is computed for types that nest
within the limit. -/
theorem scalars_eq_primitives {s : Signature} {values : Value} {modulus : Option Int}
    {c : Config} {results : List Argument} (hdistinct : ∀ t ∈ s.inputs, t.DistinctMembers)
    (h : (checkArguments s values modulus).run.run c = .ok results) :
    Argument.itemsScalars results = Signature.primitives s.inputs ∧
      ((∀ t ∈ s.inputs, t.depth ≤ countLimit) →
        Signature.primitives? s.inputs = .ok (Argument.itemsScalars results)) := by
  rw [run_checkArguments, Checking.report_eq_ok] at h
  have hscalars := Argument.itemsScalars_of_inhabit hdistinct (Checking.inhabit_of_arguments h)
  exact ⟨hscalars, fun hdepth => hscalars ▸ Signature.primitives?_of_depth_le hdepth⟩

/-- Two pairs of a field element and two bytes, three empty structs, and a boolean. -/
def pairsSignature : Signature where
  inputs := [.array (.struct "Pair" [("x", .field), ("bytes", .array (.uint .w8 .whole) 2)]) 2,
    .array (.struct "Unit" []) 3, .array (.array .field 5) 0, .bool]
  outputs := []

def pairsValues : Value :=
  .list [.list [.object [("bytes", .list [.text "0x00", .text "0xFf"]), ("x", .text "10")],
      .object [("x", .int 0), ("bytes", .list [.text "0x07", .text "0x7\n"])]],
    .list [.object [], .object [], .object []], .list [], .bool false]

def pairsArguments : List Argument :=
  [.list [.struct [("x", .int 10), ("bytes", .list [.int 0, .int 255])],
      .struct [("x", .int 0), ("bytes", .list [.int 7, .int 7])]],
    .list [.struct [], .struct [], .struct []], .list [], .bool false]

theorem pairsSignature_distinctMembers : ∀ t ∈ pairsSignature.inputs, t.DistinctMembers := by
  have hnames : ("x" : Name) ≠ "bytes" := by decide
  simp only [pairsSignature, List.forall_mem_cons, SchemaType.distinctMembers_array,
    SchemaType.distinctMembers_struct]
  simp [hnames, SchemaType.DistinctMembers, SchemaType.Everywhere]

theorem scalars_eq_primitives_pairs :
    (∀ t ∈ pairsSignature.inputs, t.DistinctMembers) ∧
      (∀ t ∈ pairsSignature.inputs, t.depth ≤ countLimit) ∧
      (checkArguments pairsSignature pairsValues (some 11)).run.run (Config.ofEnvironment []) =
        .ok pairsArguments ∧
      Argument.itemsScalars pairsArguments = 7 ∧
      Signature.primitives? pairsSignature.inputs = .ok 7 := by
  have hdepth : ∀ t ∈ pairsSignature.inputs, t.depth ≤ countLimit := by decide
  have haccepted : (checkArguments pairsSignature pairsValues (some 11)).run.run
      (Config.ofEnvironment []) = .ok pairsArguments := rfl
  have hcount := scalars_eq_primitives pairsSignature_distinctMembers haccepted
  exact ⟨pairsSignature_distinctMembers, hdepth, haccepted, hcount.1, hcount.2 hdepth⟩

/-- Nothing has to be checked for an array of no items, and its items nest too deeply to be
counted. -/
theorem deep_count_refused :
    (∀ t ∈ [SchemaType.array (SchemaType.tower 3000) 0], t.DistinctMembers) ∧
      (checkArguments ⟨[.array (SchemaType.tower 3000) 0], []⟩ (.list [.list []])
        (some 11)).run.run (Config.ofEnvironment []) = .ok [.list []] ∧
      Argument.itemsScalars [.list []] = 0 ∧
      Signature.primitives? [.array (SchemaType.tower 3000) 0] = .error .nesting := by
  refine ⟨List.forall_mem_singleton.2 ?_, rfl, rfl, Signature.primitives?_of_depth_gt ?_⟩
  · exact SchemaType.distinctMembers_array.2 (SchemaType.tower_distinctMembers _)
  · rw [SchemaType.depth, SchemaType.depth_tower]
    decide

end CircuitAbi

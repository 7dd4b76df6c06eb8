import CircuitAbi.Proofs.Decoding

/-!
# The layout of documents

A document as a grammar of nodes, said without the decoder: what each node stands for, what lies
below it, and which faults it can have. Whatever stops the decoder is then found in the document.

* `Role`, `Role.Leads` — what a node stands for, and how accessors lead from node to node.
* `Role.keys` — the keys that an object has to have, which are also those it may have.
* `Role.Faulty` — the faults of a node.
* `Role.Explains` — why decoding stopped, as something that is there in the document.

Principal results: `Decoding.explained_entries`, one level of a type at a time, and from it
`explained_type`, `explained_input` and `explained_abi` for the three kinds of documents.
-/

set_option autoImplicit false

namespace CircuitAbi

/-! ## The layout of documents -/

/-- What a node of a document stands for. -/
inductive Role
  | abi
  | inputs
  | input
  | outputs
  | output
  | type
  | arrayComponents
  | structComponents
  | members
  | member
  | name (owner : NameOwner)
  | disclosed
  | kind
  | size

/-- The form that a node has to have, with the word that messages have for it. -/
inductive Shape
  | object (role : Text)
  | list (key : Text)
  | text (key : Text)
  | boolean (key : Text)
  | word
  | whole

namespace Shape

/-- Whether a value has the form. -/
def admits : Shape → Value → Bool
  | object _, .object _ => true
  | list _, .list _ => true
  | text _, .text _ => true
  | boolean _, .bool _ => true
  | word, .text _ => true
  | whole, .int _ => true
  | _, _ => false

/-- What is said of a value that is of a kind without the form. -/
def fault (kind : Text) : Shape → DecodeFault
  | object role => .notObject role kind
  | list key => .notList key kind
  | text key => .notText key kind
  | boolean key => .notBoolean key kind
  | word => .discriminant kind
  | whole => .sizeNotWhole kind

end Shape

/-- The word for a value's kind. Types and octets, which no JSON text holds, go by other names. -/
inductive Value.HasKind : Value → Text → Prop
  | null : HasKind .null "null"
  | bool {b : Bool} : HasKind (.bool b) "boolean"
  | int {n : Int} : HasKind (.int n) "number"
  | real {x : Binary64} : HasKind (.real x) "number"
  | text {t : Text} : HasKind (.text t) "string"
  | list {vs : List Value} : HasKind (.list vs) "array"
  | object {es : Entries} : HasKind (.object es) "object"
  | bytes {b : Bytes} : HasKind (.bytes b) "bytes"
  | type {t : SchemaType} : HasKind (.type t) (Value.type t).kind

theorem Value.hasKind (v : Value) : v.HasKind v.kind := by cases v <;> constructor

/-- Arrays and structs have components. -/
def TypeKind.hasComponents : TypeKind → Bool
  | array => true
  | struct => true
  | _ => false

/-- The kind of type that an object announces. -/
def Entries.announced? (es : Entries) : Option TypeKind :=
  match es.get? "type" with
  | some (.text word) => TypeKind.ofText? word
  | _ => none

namespace Role

/-- The form of a node. -/
def shape : Role → Shape
  | abi => .object "ABI document"
  | inputs => .list "inputs"
  | input => .object "input"
  | outputs => .list "outputs"
  | output => .object "output"
  | type => .object "type document"
  | arrayComponents => .object "array components"
  | structComponents => .object "struct components"
  | members => .list "members"
  | member => .object "struct member"
  | name _ => .text "name"
  | disclosed => .boolean "public"
  | kind => .word
  | size => .whole

/-- Whether a type is laid flat in the object. -/
def holdsType : Role → Bool
  | input => true
  | output => true
  | type => true
  | arrayComponents => true
  | member => true
  | _ => false

/-- The keys of an object beside those of the type in it. -/
def own : Role → List Text
  | abi => ["inputs", "outputs"]
  | input => ["name", "public"]
  | arrayComponents => ["size"]
  | structComponents => ["name", "members"]
  | member => ["name"]
  | _ => []

/-- The keys that an object has to have, and that in strict mode are all it may have. -/
def keys (r : Role) (es : Entries) : List Text :=
  if r.holdsType then
    if es.announced?.any TypeKind.hasComponents then "type" :: "components" :: r.own
    else "type" :: r.own
  else r.own

/-- What lies one step below a node. -/
inductive Step : Role → Value → Accessor → Role → Prop
  | inputs {es : Entries} : Step abi (.object es) (.key "inputs") inputs
  | outputs {es : Entries} : Step abi (.object es) (.key "outputs") outputs
  | input {vs : List Value} {i : Nat} : Step inputs (.list vs) (.index i) input
  | output {vs : List Value} {i : Nat} : Step outputs (.list vs) (.index i) output
  | inputName {es : Entries} : Step input (.object es) (.key "name") (name .input)
  | disclosed {es : Entries} : Step input (.object es) (.key "public") disclosed
  | kind {r : Role} {es : Entries} :
    r.holdsType = true → Step r (.object es) (.key "type") kind
  | arrayComponents {r : Role} {es : Entries} : r.holdsType = true →
    es.announced? = some .array → Step r (.object es) (.key "components") arrayComponents
  | structComponents {r : Role} {es : Entries} : r.holdsType = true →
    es.announced? = some .struct → Step r (.object es) (.key "components") structComponents
  | size {es : Entries} : Step arrayComponents (.object es) (.key "size") size
  | structName {es : Entries} : Step structComponents (.object es) (.key "name") (name .struct)
  | members {es : Entries} : Step structComponents (.object es) (.key "members") members
  | member {vs : List Value} {i : Nat} : Step members (.list vs) (.index i) member
  | memberName {es : Entries} : Step member (.object es) (.key "name") (name .member)

/-- Accessors lead from a node that is there to a node that is there. -/
inductive Leads : Role → Value → List Accessor → Role → Value → Prop
  | here {r : Role} {v : Value} : Leads r v [] r v
  | step {r below last : Role} {v part node : Value} {a : Accessor} {path : List Accessor} :
    Step r v a below → a.follow? v = some part → Leads below part path last node →
      Leads r v (a :: path) last node

/-- The faults of a node: it is of another kind than its role asks for, it is an object without a
key that it has to have or, in strict mode, with one that it may not have, it announces no kind of
type, or it is a negative size. -/
inductive Faulty (strict : Bool) : Role → Value → DecodeFault → Prop
  | wrongKind {r : Role} {v : Value} {kind : Text} :
    r.shape.admits v = false → v.HasKind kind → Faulty strict r v (r.shape.fault kind)
  | missing {r : Role} {es : Entries} {key : Text} :
    key ∈ r.keys es → es.get? key = none → Faulty strict r (.object es) (.missing key)
  | unexpected {r : Role} {es : Entries} {key : Text} : strict = true →
    r.shape.admits (.object es) = true → key ∈ Entries.keys es → key ∉ r.keys es →
      Faulty strict r (.object es) (.unexpected key)
  | unknownKind {word : Text} :
    (∀ k : TypeKind, word ≠ k.word) → Faulty strict kind (.text word) (.unknownKind word)
  | negative {n : Int} : n < 0 → Faulty strict size (.int n) (.sizeNegative n)

theorem Faulty.of_shape {strict : Bool} {r : Role} {s : Shape} {v : Value} (hshape : r.shape = s)
    (h : s.admits v = false) : Faulty strict r v (s.fault v.kind) := by
  subst hshape
  exact .wrongKind h v.hasKind

theorem Leads.resolve? {r last : Role} {v node : Value} {path : List Accessor}
    (h : Leads r v path last node) : v.resolve? path = some node := by
  induction h with
  | here => rfl
  | step _ hfollow _ ih =>
    rw [Value.resolve?, hfollow]
    exact ih

end Role

/-- The keys that paths inside types and inputs are made of. -/
def partKeys : List Text := ["type", "components", "size", "name", "public", "members"]

/-- An index, or one of these keys. -/
def Accessor.Among (keys : List Text) : Accessor → Prop
  | key name => name ∈ keys
  | index _ => True

namespace Role

theorem keys_of_announced {r : Role} {es : Entries} {k : TypeKind} (hr : r.holdsType = true)
    (hk : es.announced? = some k) :
    r.keys es = (if k.hasComponents then "type" :: "components" :: r.own
      else "type" :: r.own : List Text) := by
  rw [keys, if_pos hr, hk]
  rfl

theorem type_mem_keys {r : Role} (es : Entries) (hr : r.holdsType = true) :
    ("type" : Text) ∈ r.keys es := by
  rw [keys, if_pos hr]
  split <;> exact List.mem_cons_self

theorem components_mem_keys {r : Role} {es : Entries} {k : TypeKind} (hr : r.holdsType = true)
    (hk : es.announced? = some k) (hcomponents : k.hasComponents = true) :
    ("components" : Text) ∈ r.keys es := by
  rw [keys_of_announced hr hk, if_pos hcomponents]
  exact List.mem_cons_of_mem _ List.mem_cons_self

theorem own_subset_keys (r : Role) (es : Entries) : r.own ⊆ r.keys es := by
  intro key hkey
  unfold keys
  split
  · split
    · exact List.mem_cons_of_mem _ (List.mem_cons_of_mem _ hkey)
    · exact List.mem_cons_of_mem _ hkey
  · exact hkey

/-- A whole document has two keys that no other node has. -/
theorem Step.among {r below : Role} {v : Value} {a : Accessor} (h : Step r v a below) :
    a.Among ("inputs" :: "outputs" :: partKeys) ∧ (r ≠ abi → a.Among partKeys) ∧ below ≠ abi := by
  cases h <;> simp [Accessor.Among, partKeys]

theorem Leads.among {r last : Role} {v node : Value} {path : List Accessor}
    (h : Leads r v path last node) :
    (∀ a ∈ path, a.Among ("inputs" :: "outputs" :: partKeys)) ∧
      (r ≠ abi → ∀ a ∈ path, a.Among partKeys) := by
  induction h with
  | here => simp
  | step hstep _ _ ih =>
    obtain ⟨hall, hpart, hbelow⟩ := hstep.among
    simp only [List.forall_mem_cons]
    exact ⟨⟨hall, ih.1⟩, fun hr => ⟨hpart hr, ih.2 hbelow⟩⟩

/-! ## What stops the decoder -/

/-- Why decoding stopped is there in the document: a fault at the node that the path leads to, a
name that is not Unicode, as many levels of types as there was room for, or a negative size with too
many digits to be printed. -/
inductive Explains (strict : Bool) (r : Role) (v : Value) (room : Nat) : DecodeStop → Prop
  | fault {path : List Accessor} {last : Role} {node : Value} {f : DecodeFault} :
    r.Leads v path last node → Faulty strict last node f → Explains strict r v room (.fault path f)
  | name {path : List Accessor} {owner : NameOwner} {t : Text} :
    r.Leads v path (.name owner) (.text t) → t.isUnicode = false →
      Explains strict r v room (.name owner)
  | nesting {path : List Accessor} {last : Role} {es : Entries} :
    r.Leads v path last (.object es) → last.holdsType = true →
      path.count (.key "components") = room → Explains strict r v room (.limit .nesting)
  | printing {path : List Accessor} {n : Int} : r.Leads v path .size (.int n) → n < 0 →
    Decimal.fits n = false → Explains strict r v room (.limit .printing)

end Role

namespace Decoding

variable {α : Type} {strict : Bool} {r below : Role} {v part : Value} {es : Entries} {room : Nat}

/-- Whatever stops the decoding of a node is there in the document. -/
abbrev Explained (strict : Bool) (r : Role) (v : Value) (room : Nat) (x : Decoding α) : Prop :=
  FailsWith (r.Explains strict v room) x

/-- What is wrong with a part is wrong with the whole, one step further down. Only components take
a level. -/
theorem explained_within {a : Accessor} {levels : Nat} {x : Decoding α}
    (h : Explained strict below part room x) (hstep : r.Step v a below)
    (hfollow : a.follow? v = some part) (hlevels : [a].count (.key "components") + room = levels) :
    Explained strict r v levels (within a x) := by
  match x with
  | .ok b => exact .ok b
  | .error stop =>
    cases h stop rfl with
    | fault hleads hfault => exact .error (.fault (.step hstep hfollow hleads) hfault)
    | name hleads ht => exact .error (.name (.step hstep hfollow hleads) ht)
    | nesting hleads hholds hcount =>
      refine .error (.nesting (.step hstep hfollow hleads) hholds ?_)
      rw [← List.singleton_append, List.count_append, hcount, hlevels]
    | printing hleads hneg hlong =>
      exact .error (.printing (.step hstep hfollow hleads) hneg hlong)

theorem explained_object {role : Text} (hshape : r.shape = .object role) :
    Explained strict r v room (object role v) := by
  cases v with
  | object es => exact .ok es
  | _ => exact .error (.fault .here (.of_shape hshape rfl))

theorem explained_require {key : Text} (hkey : key ∈ r.keys es) :
    Explained strict r (.object es) room (require key es) := by
  unfold require
  cases hget : es.get? key with
  | some v => exact .ok v
  | none => exact .error (.fault .here (.missing hkey hget))

theorem explained_text {key : Text} (hkey : key ∈ r.keys es)
    (hstep : r.Step (.object es) (.key key) below) (hshape : below.shape = .text key) :
    Explained strict r (.object es) room (text key es) := by
  refine (explained_require hkey).bind fun v hv => ?_
  have hfollow : (Accessor.key key).follow? (.object es) = some v := require_eq_ok.1 hv
  cases v with
  | text t => exact .ok t
  | _ => exact .error (.fault (.step hstep hfollow .here) (.of_shape hshape rfl))

theorem explained_list {key : Text} (hkey : key ∈ r.keys es)
    (hstep : r.Step (.object es) (.key key) below) (hshape : below.shape = .list key) :
    Explained strict r (.object es) room (list key es) := by
  refine (explained_require hkey).bind fun v hv => ?_
  have hfollow : (Accessor.key key).follow? (.object es) = some v := require_eq_ok.1 hv
  cases v with
  | list items => exact .ok items
  | _ => exact .error (.fault (.step hstep hfollow .here) (.of_shape hshape rfl))

theorem explained_checkKeys {role : Text} {allowed : List Text} (hshape : r.shape = .object role)
    (hallowed : r.keys es = allowed) :
    Explained strict r (.object es) room (checkKeys strict allowed es) := by
  unfold checkKeys
  split
  · rename_i hstrict
    split
    · rename_i key v hfind
      have hmem : key ∈ Entries.keys es :=
        Entries.mem_keys_of_mem (List.mem_of_find?_eq_some hfind)
      have hother : key ∉ r.keys es := by
        have hnot := List.find?_some hfind
        simpa [hallowed] using hnot
      have hobject : r.shape.admits (.object es) = true := by
        rw [hshape]
        rfl
      exact .error (.fault .here (.unexpected hstrict hobject hmem hother))
    · exact .ok ()
  · exact .ok ()

theorem explained_name {path : List Accessor} {owner : NameOwner} {t : Text}
    (hleads : r.Leads v path (.name owner) (.text t)) :
    Explained strict r v room (name owner t) := by
  unfold name Name.ofText?
  split
  · rename_i n _
    exact .ok n
  · rename_i hnone
    refine .error (.name hleads ?_)
    simpa using hnone

theorem explained_size : Explained strict .size v room (size v) := by
  unfold size
  split
  · exact .ok _
  · rename_i n hn
    have hneg : n < 0 := by
      cases n with
      | ofNat n => exact absurd rfl (hn n)
      | negSucc n => exact Int.negSucc_lt_zero n
    split
    · exact .error (.fault .here (.negative hneg))
    · rename_i hlong
      exact .error (.printing .here hneg (Bool.eq_false_iff.2 hlong))
  · rename_i hother
    refine .error (.fault .here (.of_shape rfl ?_))
    cases v with
    | int n => exact absurd rfl (hother n)
    | _ => rfl

theorem explained_items {decode : Value → Decoding α} {vs : List Value}
    (hstep : ∀ i, r.Step (.list vs) (.index i) below)
    (hdecode : ∀ v, Explained strict below v room (decode v)) :
    Explained strict r (.list vs) room (items decode vs) := by
  refine .mapM fun x hx => ?_
  obtain ⟨v, i⟩ := x
  have hfollow : (Accessor.index i).follow? (.list vs) = some v :=
    List.mem_zipIdx_iff_getElem?.1 hx
  exact explained_within (hdecode v) (hstep i) hfollow (Nat.zero_add room)

/-! ## Types -/

theorem exists_shape_of_holdsType (hr : r.holdsType = true) : ∃ role, r.shape = .object role := by
  cases r with
  | input | output | type | arrayComponents | member => exact ⟨_, rfl⟩
  | _ => cases hr

/-- The components of a type laid flat in an object are one level further down. -/
theorem explained_components {decode : Value → Decoding α} {k : TypeKind}
    (hr : r.holdsType = true) (hk : es.announced? = some k) (hcomponents : k.hasComponents = true)
    (hstep : r.Step (.object es) (.key "components") below)
    (hdecode : ∀ v, Explained strict below v room (decode v)) :
    Explained strict r (.object es) (room + 1) (do
      checkKeys strict ("type" :: "components" :: r.own) es
      let parts ← require "components" es
      within (.key "components") (decode parts)) := by
  obtain ⟨role, hshape⟩ := exists_shape_of_holdsType hr
  have hkeys := Role.keys_of_announced hr hk
  rw [if_pos hcomponents] at hkeys
  refine (explained_checkKeys hshape hkeys).bind fun _ _ => ?_
  have hmem := Role.components_mem_keys hr hk hcomponents
  refine (explained_require hmem).bind fun parts hparts => ?_
  exact explained_within (hdecode parts) hstep (require_eq_ok.1 hparts) (Nat.add_comm 1 room)

/-- Whatever stops the decoding of types with this much room is there in the document. -/
def EntriesExplained (strict : Bool) (room : Nat) : Prop :=
  ∀ (r : Role) (es : Entries), r.holdsType = true →
    Explained strict r (.object es) room (entries strict room r.own es)

/-- The components of an array hold the type of its items themselves. -/
theorem explained_arrayComponents (hentries : EntriesExplained strict room) :
    Explained strict .arrayComponents v room (do
      let parts ← object "array components" v
      let given ← require "size" parts
      let n ← within (.key "size") (size given)
      let element ← entries strict room ["size"] parts
      return SchemaType.array element n) := by
  refine (explained_object rfl).bind fun parts hobject => ?_
  cases object_eq_ok.1 hobject
  have hsize := Role.own_subset_keys .arrayComponents parts List.mem_cons_self
  refine (explained_require hsize).bind fun given hgiven => ?_
  have hfollow := require_eq_ok.1 hgiven
  refine (explained_within explained_size .size hfollow (Nat.zero_add room)).bind fun n _ => ?_
  exact (hentries .arrayComponents parts rfl).bind fun element _ => .ok _

theorem explained_member (hentries : EntriesExplained strict room) :
    Explained strict .member v room (do
      let doc ← object "struct member" v
      let memberName ← text "name" doc
      let t ← entries strict room ["name"] doc
      return (← name .member memberName, t)) := by
  refine (explained_object rfl).bind fun doc hobject => ?_
  cases object_eq_ok.1 hobject
  have hkey := Role.own_subset_keys .member doc List.mem_cons_self
  refine (explained_text hkey .memberName rfl).bind fun memberName hname => ?_
  refine (hentries .member doc rfl).bind fun t _ => ?_
  exact (explained_name (.step .memberName (text_eq_ok.1 hname) .here)).bind fun n _ => .ok _

theorem explained_structComponents (hentries : EntriesExplained strict room) :
    Explained strict .structComponents v room (do
      let parts ← object "struct components" v
      checkKeys strict ["name", "members"] parts
      let structName ← text "name" parts
      let given ← list "members" parts
      let members ← within (.key "members") (items (fun v => do
        let doc ← object "struct member" v
        let memberName ← text "name" doc
        let t ← entries strict room ["name"] doc
        return (← name .member memberName, t)) given)
      return SchemaType.struct (← name .struct structName) members) := by
  refine (explained_object rfl).bind fun parts hobject => ?_
  cases object_eq_ok.1 hobject
  refine (explained_checkKeys rfl rfl).bind fun _ _ => ?_
  refine (explained_text List.mem_cons_self .structName rfl).bind fun structName hname => ?_
  have hmembers : ("members" : Text) ∈ Role.structComponents.keys parts :=
    List.mem_cons_of_mem _ List.mem_cons_self
  refine (explained_list hmembers .members rfl).bind fun given hgiven => ?_
  have hitems := @explained_items _ strict .members .member room _ given (fun _ => .member)
    fun v => explained_member hentries
  refine (explained_within hitems .members (list_eq_ok.1 hgiven) (Nat.zero_add room)).bind ?_
  intro members _
  exact (explained_name (.step .structName (text_eq_ok.1 hname) .here)).bind fun n _ => .ok _

/-- The type laid flat in an object, one level at a time. -/
theorem explained_entries (hr : r.holdsType = true) :
    Explained strict r (.object es) room (entries strict room r.own es) := by
  induction room generalizing r es with
  | zero => exact .error (.nesting .here hr rfl)
  | succ room ih =>
    unfold entries
    refine (explained_require (r.type_mem_keys es hr)).bind fun v hv => ?_
    rw [require_eq_ok] at hv
    have hkind : r.Leads (.object es) [.key "type"] .kind v := .step (.kind hr) hv .here
    cases v with
    | text word =>
      have hannounced : es.announced? = TypeKind.ofText? word := by
        simp only [Entries.announced?, hv]
      dsimp only
      cases hword : TypeKind.ofText? word with
      | none =>
        refine .error (.fault hkind (.unknownKind fun k hk => ?_))
        rw [TypeKind.ofText?_eq_some_iff.2 hk] at hword
        cases hword
      | some kind =>
        rw [hword] at hannounced
        cases kind with
        | array =>
          exact explained_components hr hannounced rfl (.arrayComponents hr hannounced)
            fun parts => explained_arrayComponents fun r es => ih
        | struct =>
          exact explained_components hr hannounced rfl (.structComponents hr hannounced)
            fun parts => explained_structComponents fun r es => ih
        | _ =>
          obtain ⟨role, hshape⟩ := exists_shape_of_holdsType hr
          have hkeys := Role.keys_of_announced hr hannounced
          exact (explained_checkKeys hshape hkeys).bind fun _ _ => .ok _
    | _ => exact .error (.fault hkind (.of_shape rfl rfl))

theorem explained_type {role : Text} (hr : r.holdsType = true) (hown : r.own = [])
    (hshape : r.shape = .object role) :
    Explained strict r v nestingLimit (type strict role v) := by
  refine (explained_object hshape).bind fun es hobject => ?_
  cases object_eq_ok.1 hobject
  rw [← hown]
  exact explained_entries hr

theorem explained_input : Explained strict .input v nestingLimit (input strict v) := by
  refine (explained_object rfl).bind fun es hobject => ?_
  cases object_eq_ok.1 hobject
  have hown := Role.own_subset_keys .input es
  refine (explained_text (hown List.mem_cons_self) .inputName rfl).bind fun inputName hname => ?_
  rw [text_eq_ok] at hname
  have hpublic : ("public" : Text) ∈ Role.input.keys es :=
    hown (List.mem_cons_of_mem _ List.mem_cons_self)
  refine (explained_require hpublic).bind fun disclosed hdisclosed => ?_
  rw [require_eq_ok] at hdisclosed
  cases disclosed with
  | bool b =>
    refine (explained_entries (r := .input) rfl).bind fun t _ => ?_
    exact (explained_name (.step .inputName hname .here)).bind fun n _ => .ok _
  | _ => exact .error (.fault (.step .disclosed hdisclosed .here) (.of_shape rfl rfl))

theorem explained_abi : Explained strict .abi v nestingLimit (abi strict v) := by
  refine (explained_object rfl).bind fun es hobject => ?_
  cases object_eq_ok.1 hobject
  refine (explained_checkKeys rfl rfl).bind fun _ _ => ?_
  have houtputs : ("outputs" : Text) ∈ Role.abi.keys es :=
    List.mem_cons_of_mem _ List.mem_cons_self
  refine (explained_list List.mem_cons_self .inputs rfl).bind fun givenInputs hinputs => ?_
  refine (explained_list houtputs .outputs rfl).bind fun givenOutputs houtputs => ?_
  rw [list_eq_ok] at hinputs houtputs
  refine (explained_within (explained_items (fun _ => .input) fun v => explained_input) .inputs
    hinputs (Nat.zero_add _)).bind fun ins _ => ?_
  exact (explained_within (explained_items (fun _ => .output) fun v => explained_type rfl rfl rfl)
    .outputs houtputs (Nat.zero_add _)).bind fun outs _ => .ok _

end Decoding

end CircuitAbi

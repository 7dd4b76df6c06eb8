import CircuitAbi.Proofs.Layout
import CircuitAbi.Proofs.Wording
import Mathlib.Algebra.Ring.Int.Defs

/-!
# Where a document is at fault

* `refusal_names_faulty_node` — a refusal points at a node that has the fault it names.
* `decoding_returns_or_refuses` — decoding ends with a result or a refusal, and at a limit only for
  a negative array size that cannot be printed (`unprintable_size_not_refused`).

Both follow from what stops the decoder (`Role.Explains`), the second for all ends and the first for
those that are refusals.
-/

set_option autoImplicit false

namespace CircuitAbi

/-! ## Refusals -/

/-- What kind of document one with this role is as a whole. -/
def Role.part : Role → DocumentPart
  | abi => .whole
  | input => .input
  | _ => .type

/-- What a refusal says of a document is so. The path leads to a node with the fault; but a name
that is not Unicode and types that nest too far, wherever they are, are reported for the document as
a whole. -/
inductive Role.Diagnosis (strict : Bool) (r : Role) (doc : Value) :
    List Accessor → DecodeFault → Prop
  | node {path : List Accessor} {last : Role} {node : Value} {f : DecodeFault} :
    doc.resolve? path = some node → r.Leads doc path last node → Faulty strict last node f →
      Diagnosis strict r doc path f
  | name {path : List Accessor} {owner : NameOwner} {t : Text} :
    r.Leads doc path (.name owner) (.text t) → t.isUnicode = false →
      Diagnosis strict r doc [] (.invalidName owner)
  | nesting {path : List Accessor} {last : Role} {es : Entries} :
    r.Leads doc path last (.object es) → path.count (.key "components") = nestingLimit →
      Diagnosis strict r doc [] (.nesting r.part)

theorem Role.Diagnosis.among {strict : Bool} {r : Role} {doc : Value} {path : List Accessor}
    {f : DecodeFault} (h : r.Diagnosis strict doc path f) :
    (∀ a ∈ path, a.Among ("inputs" :: "outputs" :: partKeys)) ∧
      (r ≠ abi → ∀ a ∈ path, a.Among partKeys) := by
  cases h with
  | node _ hleads _ => exact hleads.among
  | name | nesting => simp

theorem Shape.wording (s : Shape) (kind : Text) :
    (s.fault kind).Wording (s.fault kind).message := by
  cases s with
  | object role => exact .notObject
  | list key => exact .notList (Text.quotedAs_quoted key)
  | text key => exact .notText (Text.quotedAs_quoted key)
  | boolean key => exact .notBoolean (Text.quotedAs_quoted key)
  | word => exact .discriminant
  | whole => exact .sizeNotWhole

/-- The message of a refusal is the sentence for its fault. -/
theorem Role.Diagnosis.wording {strict : Bool} {r : Role} {doc : Value} {path : List Accessor}
    {f : DecodeFault} (h : r.Diagnosis strict doc path f) : f.Wording f.message := by
  cases h with
  | node _ _ hfault =>
    cases hfault with
    | wrongKind _ _ => exact Shape.wording _ _
    | missing _ _ => exact .missing (Text.quotedAs_quoted _)
    | unexpected _ _ _ _ => exact .unexpected (Text.quotedAs_quoted _)
    | unknownKind _ => exact .unknownKind (Text.quotedAs_quoted _)
    | @negative n hneg =>
      cases n with
      | ofNat n => exact absurd hneg (Int.not_lt.2 (Int.natCast_nonneg n))
      | negSucc n => exact .sizeNegative (n := n + 1) (Decimal.denotes_iff.2 rfl)
  | @name _ owner _ _ _ =>
    cases owner with
    | member => exact .memberName
    | struct => exact .structName
    | input => exact .inputName
  | nesting _ _ =>
    cases r.part with
    | type => exact .typeNesting
    | input => exact .inputNesting
    | whole => exact .wholeNesting

/-- An error is about the node that a path leads to from the root, and reads so: the sentence for
its fault, and after an at sign the root with the steps of the path behind it. -/
structure DecodeError.ReadsAt (e : DecodeError) (root : Text) (path : List Accessor)
    (sentence suffix : Text) : Prop where
  place : e.place = some ⟨root, path⟩
  steps : PathText path suffix
  spelled : Place.text ⟨root, path⟩ = root ++ suffix
  wording : e.fault.Wording sentence
  message : Failure.message? (.decode e) = some (sentence ++ " @ " ++ (root ++ suffix))

/-- The error with a place reads so at every root. -/
theorem Role.Diagnosis.readsAt {strict : Bool} {r : Role} {doc : Value} {path : List Accessor}
    {f : DecodeFault} (h : r.Diagnosis strict doc path f) (root : Text) :
    DecodeError.ReadsAt ⟨f, some ⟨root, path⟩⟩ root path f.message (path.flatMap Accessor.text) :=
  ⟨rfl, pathText_iff.2 rfl, rfl, h.wording, rfl⟩

namespace Decoding

variable {α : Type} {strict : Bool} {r : Role} {doc : Value} {x : Decoding α}

/-- What is refused is refused under every root, with the same path. -/
theorem Explained.diagnosis (h : Explained strict r doc nestingLimit x) {root : Text}
    {e : DecodeError} (herror : report r.part root x = .error (.decode e)) :
    ∃ path, r.Diagnosis strict doc path e.fault ∧ e.place = some ⟨root, path⟩ ∧
      ∀ other, report r.part other x = .error (.decode ⟨e.fault, some ⟨other, path⟩⟩) := by
  match x with
  | .ok a => cases herror
  | .error stop =>
    cases h stop rfl with
    | @fault path _ _ f hleads hfault =>
      cases herror
      exact ⟨path, .node hleads.resolve? hleads hfault, rfl, fun _ => rfl⟩
    | name hleads ht =>
      cases herror
      exact ⟨[], .name hleads ht, rfl, fun _ => rfl⟩
    | nesting hleads _ hcount =>
      cases herror
      exact ⟨[], .nesting hleads hcount, rfl, fun _ => rfl⟩
    | printing => cases herror

/-- The refusal reads at its root as it does at every other. -/
theorem Explained.refusal (h : Explained strict r doc nestingLimit x) {root : Text}
    {e : DecodeError} (herror : report r.part root x = .error (.decode e)) :
    ∃ path sentence suffix, r.Diagnosis strict doc path e.fault ∧
      e.ReadsAt root path sentence suffix ∧
      ∀ other, ∃ e', report r.part other x = .error (.decode e') ∧ e'.fault = e.fault ∧
        e'.ReadsAt other path sentence suffix := by
  obtain ⟨path, hdiagnosis, hplace, hother⟩ := h.diagnosis herror
  obtain ⟨f, _⟩ := e
  cases hplace
  exact ⟨path, _, _, hdiagnosis, hdiagnosis.readsAt root,
    fun other => ⟨_, hother other, rfl, hdiagnosis.readsAt other⟩⟩

end Decoding

/-- **A refusal points at the faulty node.** Where a type document or an input document is refused,
the place is the root and a path of accessors that leads to a node of the document with the fault
that the message names; or, for a name that is not Unicode and for nesting, the root itself. The
message is the sentence for the fault and the place as it is spelled. Path and sentence are the same
under every root. A whole document is refused alike, under its one root. -/
theorem refusal_names_faulty_node (doc : Value) (strict : Bool) :
    (∀ (root : Text) (e : DecodeError), doc.decodeType strict root = .error (.decode e) →
      ∃ path sentence suffix, Role.type.Diagnosis strict doc path e.fault ∧
        e.ReadsAt root path sentence suffix ∧ (∀ a ∈ path, a.Among partKeys) ∧
        ∀ other, ∃ e', doc.decodeType strict other = .error (.decode e') ∧ e'.fault = e.fault ∧
          e'.ReadsAt other path sentence suffix) ∧
    (∀ (root : Text) (e : DecodeError), doc.decodeInput strict root = .error (.decode e) →
      ∃ path sentence suffix, Role.input.Diagnosis strict doc path e.fault ∧
        e.ReadsAt root path sentence suffix ∧ (∀ a ∈ path, a.Among partKeys) ∧
        ∀ other, ∃ e', doc.decodeInput strict other = .error (.decode e') ∧ e'.fault = e.fault ∧
          e'.ReadsAt other path sentence suffix) ∧
    (∀ e : DecodeError, doc.decodeAbi strict = .error (.decode e) →
      ∃ path sentence suffix, Role.abi.Diagnosis strict doc path e.fault ∧
        e.ReadsAt "$" path sentence suffix ∧
        ∀ a ∈ path, a.Among ("inputs" :: "outputs" :: partKeys)) := by
  refine ⟨fun root e he => ?_, fun root e he => ?_, fun e he => ?_⟩
  · have htype : Decoding.Explained strict .type doc nestingLimit
        (Decoding.type strict "type document" doc) := Decoding.explained_type rfl rfl rfl
    obtain ⟨path, sentence, suffix, hdiagnosis, hreads, hother⟩ := htype.refusal he
    exact ⟨path, sentence, suffix, hdiagnosis, hreads, hdiagnosis.among.2 nofun, hother⟩
  · obtain ⟨path, sentence, suffix, hdiagnosis, hreads, hother⟩ :=
      Decoding.explained_input.refusal he
    exact ⟨path, sentence, suffix, hdiagnosis, hreads, hdiagnosis.among.2 nofun, hother⟩
  · obtain ⟨path, sentence, suffix, hdiagnosis, hreads, -⟩ := Decoding.explained_abi.refusal he
    exact ⟨path, sentence, suffix, hdiagnosis, hreads, hdiagnosis.among.1⟩

/-- The document of an array of structs, whose second member is of no known kind. -/
def octagonDocument : Value :=
  .object
    [("type", .text "array"),
      ("components", .object
        [("size", .int 2), ("type", .text "struct"),
          ("components", .object
            [("name", .text "S"),
              ("members", .list
                [.object [("name", .text "a"), ("type", .text "field")],
                  .object [("type", .text "octagon"), ("name", .text "b")]])])])]

/-- Where the kind stands in it. -/
def octagonPath : List Accessor :=
  [.key "components", .key "components", .key "members", .index 1, .key "type"]

/-- The document of an input that is called by half of a surrogate pair. -/
def surrogateInput : Value :=
  .object [("name", .text [0xD800]), ("public", .bool true), ("type", .text "field")]

/-- The document of an interface with a key too many in its second output. -/
def annotatedOutputs : Value :=
  .object
    [("inputs", .list []),
      ("outputs", .list
        [.object [("type", .text "bool")],
          .object [("type", .text "bool"), ("note", .null)]])]

theorem refusal_names_faulty_node_octagon :
    (octagonDocument.decodeType true "p" =
        .error (.decode ⟨.unknownKind "octagon", some ⟨"p", octagonPath⟩⟩) ∧
      Role.type.Diagnosis true octagonDocument octagonPath (.unknownKind "octagon") ∧
      ∃ sentence, DecodeFault.Wording (.unknownKind "octagon") sentence ∧
        Failure.message? (.decode ⟨.unknownKind "octagon", some ⟨"p", octagonPath⟩⟩) =
          some (sentence ++ " @ p.components.components.members[1].type")) ∧
    (surrogateInput.decodeInput false "p" =
        .error (.decode ⟨.invalidName .input, some ⟨"p", []⟩⟩) ∧
      Role.input.Diagnosis false surrogateInput [] (.invalidName .input)) ∧
    annotatedOutputs.decodeAbi true =
        .error (.decode ⟨.unexpected "note", some ⟨documentRoot, [.key "outputs", .index 1]⟩⟩) ∧
      Role.abi.Diagnosis true annotatedOutputs [.key "outputs", .index 1] (.unexpected "note") := by
  have htype : octagonDocument.decodeType true "p" =
      .error (.decode ⟨.unknownKind "octagon", some ⟨"p", octagonPath⟩⟩) := rfl
  have hinput : surrogateInput.decodeInput false "p" =
      .error (.decode ⟨.invalidName .input, some ⟨"p", []⟩⟩) := rfl
  have habi : annotatedOutputs.decodeAbi true =
      .error (.decode ⟨.unexpected "note", some ⟨documentRoot, [.key "outputs", .index 1]⟩⟩) := rfl
  refine ⟨⟨htype, ?_⟩, ⟨hinput, ?_⟩, habi, ?_⟩
  · obtain ⟨path, sentence, suffix, hdiagnosis, hreads, -⟩ :=
      (refusal_names_faulty_node octagonDocument true).1 _ _ htype
    cases hreads.place
    refine ⟨hdiagnosis, sentence, hreads.wording, ?_⟩
    rw [hreads.message, pathText_iff.1 hreads.steps, List.append_assoc]
    rfl
  · obtain ⟨path, sentence, suffix, hdiagnosis, hreads, -⟩ :=
      (refusal_names_faulty_node surrogateInput false).2.1 _ _ hinput
    cases hreads.place
    exact hdiagnosis
  · obtain ⟨path, sentence, suffix, hdiagnosis, hreads, -⟩ :=
      (refusal_names_faulty_node annotatedOutputs true).2.2 _ habi
    cases hreads.place
    exact hdiagnosis

/-! ## Other ends -/

/-- An array size in the document is a negative number of more digits than can be printed. -/
def Role.UnprintableSize (r : Role) (doc : Value) : Prop :=
  ∃ (path : List Accessor) (n : Int), r.Leads doc path .size (.int n) ∧ n ≤ -(10 ^ digitLimit)

/-- Decoding ends with a result or a refusal; it ends at the limit on printed digits only where a
size cannot be printed. -/
inductive Decoded {α : Type} (unprintable : Prop) : Except Failure α → Prop
  | result (a : α) : Decoded unprintable (.ok a)
  | refused (e : DecodeError) : Decoded unprintable (.error (.decode e))
  | limit : unprintable → Decoded unprintable (.error (.limit .printing))

theorem Decimal.fits_eq_false_iff {n : Int} (hneg : n < 0) :
    fits n = false ↔ n ≤ -(10 ^ digitLimit) := by
  have hcast : ((10 ^ digitLimit : Nat) : Int) = 10 ^ digitLimit := Int.natCast_pow 10 digitLimit
  rw [fits, decide_eq_false_iff_not, Nat.not_lt, Nat.pow_eq, ← hcast]
  omega

theorem Decoding.Explained.decoded {α : Type} {strict : Bool} {r : Role} {doc : Value}
    {x : Decoding α} (h : Explained strict r doc nestingLimit x) (part : DocumentPart)
    (root : Text) : Decoded (r.UnprintableSize doc) (report part root x) := by
  match x with
  | .ok a => exact .result a
  | .error stop =>
    cases h stop rfl with
    | fault | name | nesting => exact .refused _
    | printing hleads hneg hlong =>
      exact .limit ⟨_, _, hleads, (Decimal.fits_eq_false_iff hneg).1 hlong⟩

/-- **Documents are decoded or refused.** Decoding any document as a type, an input or a whole, in
either mode, ends with a result or a refusal. The only other end is the limit on printed digits, and
only a document with a negative array size of more digits than can be printed meets it. -/
theorem decoding_returns_or_refuses (doc : Value) (strict : Bool) :
    (∀ root, Decoded (Role.type.UnprintableSize doc) (doc.decodeType strict root)) ∧
    (∀ root, Decoded (Role.input.UnprintableSize doc) (doc.decodeInput strict root)) ∧
    Decoded (Role.abi.UnprintableSize doc) (doc.decodeAbi strict) := by
  have htype : Decoding.Explained strict .type doc nestingLimit
      (Decoding.type strict "type document" doc) := Decoding.explained_type rfl rfl rfl
  exact ⟨htype.decoded .type, Decoding.explained_input.decoded .input,
    Decoding.explained_abi.decoded .whole documentRoot⟩

/-- The entries of the document of an array of field elements, of a given size. -/
def sizedEntries (n : Int) : Entries :=
  [("type", .text "array"), ("components", .object [("size", .int n), ("type", .text "field")])]

/-- The document of the array. -/
def sizedType (n : Int) : Value := .object (sizedEntries n)

/-- The document of an input that is such an array. -/
def sizedInput (n : Int) : Value :=
  .object (("name", .text "x") :: ("public", .bool true) :: sizedEntries n)

/-- The document of an interface with this input. -/
def sizedAbi (n : Int) : Value :=
  .object [("inputs", .list [sizedInput n]), ("outputs", .list [])]

theorem sizedAbi_isJson (n : Int) : (sizedAbi n).IsJson := by
  have hparts : (Value.object [("size", .int n), ("type", .text "field")]).IsJson :=
    ⟨(by decide : (["size", "type"] : List Text).Nodup), trivial, trivial, trivial⟩
  have hinput : (sizedInput n).IsJson :=
    ⟨(by decide : (["name", "public", "type", "components"] : List Text).Nodup), trivial, trivial,
      trivial, hparts, trivial⟩
  exact ⟨(by decide : (["inputs", "outputs"] : List Text).Nodup), ⟨hinput, trivial⟩, trivial,
    trivial⟩

namespace Decoding

theorem size_of_unprintable {n : Int} (hneg : n < 0) (hlong : Decimal.fits n = false) :
    size (.int n) = .error (.limit .printing) := by
  unfold size
  split
  · rename_i k hk
    cases hk
    exact absurd hneg (Int.not_lt.2 (Int.natCast_nonneg k))
  · rename_i k _ hk
    cases hk
    rw [hlong]
    rfl
  · rename_i hother
    exact absurd rfl (hother n)

/-- How far an array gets depends on its size alone. -/
theorem type_sized (n : Int) : type true "type document" (sizedType n) =
    within (.key "components") (do
      let k ← within (.key "size") (size (.int n))
      return .array .field k) := by
  rfl

theorem input_sized (n : Int) : input true (sizedInput n) = (do
    let t ← type true "type document" (sizedType n)
    return ⟨← name .input "x", true, t⟩) := by
  rfl

theorem abi_sized (n : Int) : abi true (sizedAbi n) = (do
    let ins ← within (.key "inputs") (do
      let i ← within (.index 0) (input true (sizedInput n))
      return [i])
    return ⟨ins, []⟩) := by
  rfl

end Decoding

theorem decode_sized_of_unprintable {n : Int} (h : n ≤ -(10 ^ digitLimit)) :
    (sizedType n).decodeType true documentRoot = .error (.limit .printing) ∧
      (sizedInput n).decodeInput true documentRoot = .error (.limit .printing) ∧
      (sizedAbi n).decodeAbi true = .error (.limit .printing) := by
  have hpos : (0 : Int) < 10 ^ digitLimit := Int.pow_pos (by decide)
  have hneg : n < 0 := by omega
  have hsize := Decoding.size_of_unprintable hneg ((Decimal.fits_eq_false_iff hneg).2 h)
  have htype : Decoding.type true "type document" (sizedType n) = .error (.limit .printing) := by
    rw [Decoding.type_sized, hsize]
    rfl
  have hinput : Decoding.input true (sizedInput n) = .error (.limit .printing) := by
    rw [Decoding.input_sized, htype]
    rfl
  refine ⟨?_, ?_, ?_⟩
  · rw [Value.decodeType, htype]
    rfl
  · rw [Value.decodeInput, hinput]
    rfl
  · rw [Value.decodeAbi, Decoding.abi_sized, hinput]
    rfl

/-- The limit is met: a negative size of one digit more than can be printed is not refused with a
place, neither in a type nor in an input nor in a whole document. -/
theorem unprintable_size_not_refused :
    (sizedAbi (-(10 ^ digitLimit))).IsJson ∧
      (sizedType (-(10 ^ digitLimit))).decodeType true documentRoot =
        .error (.limit .printing) ∧
      (sizedInput (-(10 ^ digitLimit))).decodeInput true documentRoot =
        .error (.limit .printing) ∧
      (sizedAbi (-(10 ^ digitLimit))).decodeAbi true = .error (.limit .printing) :=
  ⟨sizedAbi_isJson _, decode_sized_of_unprintable (Int.le_refl _)⟩

end CircuitAbi

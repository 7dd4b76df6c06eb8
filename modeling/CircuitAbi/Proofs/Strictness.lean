import CircuitAbi.Proofs.Decoding
import CircuitAbi.Proofs.Document

/-!
# Strict and lenient documents

* `strict_decoding_iff_reordered` — in strict mode, exactly the documents that encoding produces are
  accepted, up to the order of object entries.
* `lenient_decoding_iff_embedded` — otherwise, exactly the documents in which such a document is
  embedded; what stands beside it changes nothing.
-/

set_option autoImplicit false

namespace CircuitAbi

theorem typeDocument_isJson {t : SchemaType} {d : Value}
    (h : (Value.type t).typeDocument = .ok d) : d.IsJson := by
  simp only [Value.typeDocument] at h
  split at h
  · cases h
  · cases h
    exact t.document_isPlain.isJson

theorem Input.document?_isJson {i : Input} {d : Value} (h : i.document? = .ok d) : d.IsJson := by
  unfold Input.document? at h
  split at h
  · cases h
  · cases h
    exact i.document_isPlain.isJson

theorem Abi.document?_isJson {a : Abi} {d : Value} (h : a.document? = .ok d) : d.IsJson := by
  rw [(Abi.document?_eq_ok_iff.1 h).2]
  exact a.document_isPlain.isJson

/-- **Strict decoding accepts exactly what encoding produces**, up to the order of object entries: a
value of JSON is decoded to a type, an input or an interface exactly when the widths are whole and
the value is the document of that type, input or interface with its entries in some order. -/
theorem strict_decoding_iff_reordered (doc : Value) (hdoc : doc.IsJson) :
    (∀ (root : Text) (t : SchemaType),
      doc.decodeType true root = .ok t ↔
        t.WholeWidths ∧ ∃ d, (Value.type t).typeDocument = .ok d ∧ d.Reordered doc) ∧
    (∀ (root : Text) (i : Input),
      doc.decodeInput true root = .ok i ↔
        i.type.WholeWidths ∧ ∃ d, i.document? = .ok d ∧ d.Reordered doc) ∧
    (∀ a : Abi,
      doc.decodeAbi true = .ok a ↔
        a.All SchemaType.WholeWidths ∧ ∃ d, a.document? = .ok d ∧ d.Reordered doc) := by
  refine ⟨fun root t => ?_, fun root i => ?_, fun a => ?_⟩
  · rw [Value.decodeType_eq_ok_iff]
    exact and_congr_right fun _ => exists_congr fun d => and_congr_right fun hd =>
      Value.embedded_true_iff (typeDocument_isJson hd) hdoc
  · rw [Value.decodeInput_eq_ok_iff]
    exact and_congr_right fun _ => exists_congr fun d => and_congr_right fun hd =>
      Value.embedded_true_iff (Input.document?_isJson hd) hdoc
  · rw [Value.decodeAbi_eq_ok_iff]
    exact and_congr_right fun _ => exists_congr fun d => and_congr_right fun hd =>
      Value.embedded_true_iff (Abi.document?_isJson hd) hdoc

/-- An interface with an array of arrays and a struct. -/
def nestedInterface : Abi where
  inputs := [⟨"x", true, .array (.array (.uint .w8 .whole) 2) 3⟩]
  outputs := [.struct "S" [("m", .field)]]

/-- Its document with the entries of every object in another order. -/
def shuffledDocument : Value :=
  .object
    [("outputs", .list [.object
      [("components", .object
        [("members", .list [.object [("type", .text "field"), ("name", .text "m")]]),
          ("name", .text "S")]),
        ("type", .text "struct")]]),
      ("inputs", .list [.object
        [("type", .text "array"), ("public", .bool true),
          ("components", .object
            [("components", .object [("type", .text "u8"), ("size", .int 2)]),
              ("size", .int 3), ("type", .text "array")]),
          ("name", .text "x")]])]

theorem shuffledDocument_isJson : shuffledDocument.IsJson := by
  simp only [shuffledDocument, Value.IsJson, Value.ItemsJson, Value.EntriesJson]
  decide

theorem strict_decoding_iff_reordered_shuffled :
    shuffledDocument.IsJson ∧ shuffledDocument.decodeAbi true = .ok nestedInterface ∧
      ∃ d, nestedInterface.document? = .ok d ∧ d.Reordered shuffledDocument := by
  have hdecode : shuffledDocument.decodeAbi true = .ok nestedInterface := rfl
  exact ⟨shuffledDocument_isJson, hdecode,
    (((strict_decoding_iff_reordered shuffledDocument shuffledDocument_isJson).2.2
      nestedInterface).1 hdecode).2⟩

/-- **Lenient decoding ignores unknown keys and nothing else**: a value is decoded to a type, an
input or an interface exactly when the widths are whole and the document of that type, input or
interface is embedded in the value. So what strict mode accepts is accepted with the same result. -/
theorem lenient_decoding_iff_embedded (doc : Value) :
    (∀ (root : Text) (t : SchemaType),
      doc.decodeType false root = .ok t ↔
        t.WholeWidths ∧ ∃ d, (Value.type t).typeDocument = .ok d ∧ d.Embedded false doc) ∧
    (∀ (root : Text) (i : Input),
      doc.decodeInput false root = .ok i ↔
        i.type.WholeWidths ∧ ∃ d, i.document? = .ok d ∧ d.Embedded false doc) ∧
    (∀ a : Abi,
      doc.decodeAbi false = .ok a ↔
        a.All SchemaType.WholeWidths ∧ ∃ d, a.document? = .ok d ∧ d.Embedded false doc) ∧
    (∀ (root : Text) (t : SchemaType),
      doc.decodeType true root = .ok t → doc.decodeType false root = .ok t) ∧
    (∀ (root : Text) (i : Input),
      doc.decodeInput true root = .ok i → doc.decodeInput false root = .ok i) ∧
    ∀ a : Abi, doc.decodeAbi true = .ok a → doc.decodeAbi false = .ok a := by
  refine ⟨fun _ _ => Value.decodeType_eq_ok_iff, fun _ _ => Value.decodeInput_eq_ok_iff,
    fun _ => Value.decodeAbi_eq_ok_iff, fun root t h => ?_, fun root i h => ?_, fun a h => ?_⟩
  · rw [Value.decodeType_eq_ok_iff] at h ⊢
    obtain ⟨ht, d, hd, hembedded⟩ := h
    exact ⟨ht, d, hd, hembedded.weaken false⟩
  · rw [Value.decodeInput_eq_ok_iff] at h ⊢
    obtain ⟨hi, d, hd, hembedded⟩ := h
    exact ⟨hi, d, hd, hembedded.weaken false⟩
  · rw [Value.decodeAbi_eq_ok_iff] at h ⊢
    obtain ⟨ha, d, hd, hembedded⟩ := h
    exact ⟨ha, d, hd, hembedded.weaken false⟩

/-- An interface with one input, an array. -/
def arrayInterface : Abi := ⟨[⟨"x", true, .array .field 3⟩], []⟩

/-- Its document with unknown keys at the root, and beside the kind of a leaf. -/
def annotatedDocument : Value :=
  .object
    [("version", .real ⟨false, 1, 0⟩),
      ("inputs", .list [.object
        [("name", .text "x"), ("public", .bool true), ("type", .text "array"),
          ("components", .object
            [("size", .int 3), ("type", .text "field"), ("components", .null)])]]),
      ("outputs", .list [])]

theorem lenient_decoding_iff_embedded_annotated :
    annotatedDocument.decodeAbi true ≠ .ok arrayInterface ∧
      annotatedDocument.decodeAbi false = .ok arrayInterface ∧
      ∃ d, arrayInterface.document? = .ok d ∧ d.Embedded false annotatedDocument := by
  have hstrict : annotatedDocument.decodeAbi true ≠ .ok arrayInterface := fun h => nomatch h
  have hlenient : annotatedDocument.decodeAbi false = .ok arrayInterface := rfl
  exact ⟨hstrict, hlenient,
    (((lenient_decoding_iff_embedded annotatedDocument).2.2.1 arrayInterface).1 hlenient).2⟩

end CircuitAbi

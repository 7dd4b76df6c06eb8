import CircuitAbi.Codec.Text
import CircuitAbi.Proofs.Decoding
import CircuitAbi.Proofs.Parsing

/-!
# The text of an interface reads back

* `Json.isUnicode_print` — the text of a plain value is Unicode, so that it has octets.
* `Abi.run_text` — the text of an interface is that of its document, in a style that the arguments
  and the settings choose.
* `Source.run_decode_print` — a source that holds the text of an interface's document decodes to
  the interface.

Principal result: an interface with whole widths, sizes within the limit on digits and a document
within the limit on nesting has a text in every form, and the text decodes to the interface
(`text_round_trip`).
-/

set_option autoImplicit false

namespace CircuitAbi

/-! ## Printed text is Unicode -/

namespace Text

@[simp] theorem isUnicode_append (s t : Text) :
    isUnicode (s ++ t) = (isUnicode s && isUnicode t) :=
  List.all_append

theorem isUnicode_of_ascii {t : Text} (h : ∀ c ∈ t, c < 0x80) : isUnicode t = true := by
  refine List.all_eq_true.2 fun c hc => ?_
  have hlt : c < 0x80 := h c hc
  simp only [isScalar, Bool.or_eq_true, decide_eq_true_eq]
  exact .inl (Nat.lt_trans hlt (by decide))

theorem hexPadded_ascii (width n : Nat) : ∀ c ∈ hexPadded width n, c < 0x80 := by
  induction width generalizing n with
  | zero => exact fun _ h => nomatch h
  | succ width ih =>
    intro c hc
    rcases List.mem_append.1 hc with hc | hc
    · exact ih _ c hc
    · rw [List.mem_singleton.1 hc]
      exact Json.hexDigit_lt (Nat.mod_lt _ (by decide))

end Text

namespace Json

theorem isUnicode_unitEscape (u : Nat) : Text.isUnicode (unitEscape u) = true := by
  rw [unitEscape, Text.isUnicode_append, Text.isUnicode_of_ascii (Text.hexPadded_ascii 4 u)]
  decide

theorem isUnicode_printCodePoint {c : CodePoint} (hc : Text.isScalar c = true) (ascii : Bool) :
    Text.isUnicode (printCodePoint ascii c) = true := by
  have hself : Text.isUnicode [c] = true := by
    simp only [Text.isUnicode, List.all_cons, hc, List.all_nil, Bool.and_self]
  unfold printCodePoint
  split
  · exact hself
  iterate 5
    split
    · decide
  split
  · exact isUnicode_unitEscape c
  split
  · split
    · exact isUnicode_unitEscape c
    · rw [Text.isUnicode_append, isUnicode_unitEscape, isUnicode_unitEscape, Bool.and_self]
  · exact hself

theorem isUnicode_printText {t : Text} (ht : t.isUnicode = true) (ascii : Bool) :
    Text.isUnicode (printText ascii t) = true := by
  have hbody : Text.isUnicode (t.flatMap (printCodePoint ascii)) = true := by
    rw [Text.isUnicode, List.all_flatMap, List.all_eq_true]
    exact fun c hc => isUnicode_printCodePoint (List.all_eq_true.1 ht c hc) ascii
  rw [printText, Text.isUnicode_append, Text.isUnicode_append, hbody]
  decide

theorem isUnicode_line (s : Style) (level : Nat) : Text.isUnicode (s.line level) = true := by
  unfold Style.line
  split
  · rfl
  · rw [Text.isUnicode_append]
    refine Bool.and_eq_true_iff.2 ⟨by decide, Text.isUnicode_of_ascii fun c hc => ?_⟩
    rw [List.eq_of_mem_replicate hc]
    decide

theorem isUnicode_afterKey (s : Style) : Text.isUnicode s.afterKey = true := by
  unfold Style.afterKey
  split <;> decide

mutual

theorem isUnicode_printAt (s : Style) : ∀ (v : Value) (level : Nat), v.IsPlain →
    Text.isUnicode (printAt s level v) = true
  | .null => fun _ _ => rfl
  | .bool true => fun _ _ => rfl
  | .bool false => fun _ _ => rfl
  | .int n => fun _ _ => Text.isUnicode_of_ascii (Decimal.ofInt_ascii n)
  | .real _ => fun _ h => h.elim
  | .text _ => fun _ h => isUnicode_printText h s.ascii
  | .bytes _ => fun _ h => h.elim
  | .type _ => fun _ h => h.elim
  | .list [] => fun _ _ => rfl
  | .list (v :: vs) => by
    intro level h
    have hv := isUnicode_printAt s v (level + 1) h.1
    have hvs := isUnicode_printItems s vs level h.2
    simp only [printAt, Text.isUnicode_append, isUnicode_line, hv, hvs, Bool.and_true]
    decide
  | .object [] => fun _ _ => rfl
  | .object ((k, v) :: es) => by
    intro level h
    have hv := isUnicode_printAt s v (level + 1) h.2.1.2
    have hes := isUnicode_printEntries s es level h.2.2
    simp only [printAt, Text.isUnicode_append, isUnicode_line, isUnicode_printText h.2.1.1,
      isUnicode_afterKey, hv, hes, Bool.and_true]
    decide

theorem isUnicode_printItems (s : Style) : ∀ (vs : List Value) (level : Nat),
    Value.ItemsPlain vs → Text.isUnicode (printItems s level vs) = true
  | [] => fun _ _ => rfl
  | v :: vs => by
    intro level h
    have hv := isUnicode_printAt s v (level + 1) h.1
    have hvs := isUnicode_printItems s vs level h.2
    simp only [printItems, Text.isUnicode_append, isUnicode_line, hv, hvs, Bool.and_true]
    decide

theorem isUnicode_printEntries (s : Style) : ∀ (es : List (Text × Value)) (level : Nat),
    Value.EntriesPlain es → Text.isUnicode (printEntries s level es) = true
  | [] => fun _ _ => rfl
  | (k, v) :: es => by
    intro level h
    have hv := isUnicode_printAt s v (level + 1) h.1.2
    have hes := isUnicode_printEntries s es level h.2
    simp only [printEntries, Text.isUnicode_append, isUnicode_line, isUnicode_printText h.1.1,
      isUnicode_afterKey, hv, hes, Bool.and_true]
    decide

end

/-- The text of a plain value is Unicode. -/
theorem isUnicode_print (s : Style) {v : Value} (h : v.IsPlain) :
    Text.isUnicode (print s v) = true :=
  isUnicode_printAt s v 0 h

end Json

/-! ## The round trip -/

/-- The style in which an interface is printed. -/
def Abi.style (c : Config) (pretty : Bool) (indent : Option Int) : Json.Style :=
  if pretty || indent.isSome then .indented (indent.getD c.indent) else .compact

/-- The text of an interface is that of its document. -/
theorem Abi.run_text {a : Abi} (hfit : Json.numbersFit a.document = true)
    (hnesting : a.document.nesting ≤ nestingLimit) (pretty : Bool) (indent : Option Int)
    (c : Config) : (a.text pretty indent).run.run c =
      .ok (Json.print (Abi.style c pretty indent) a.document) := by
  have hdocument : (Operation.ofExcept a.document?).run.run c = .ok a.document :=
    if_pos (Abi.encodable_of_nesting hnesting)
  have hprint (s : Json.Style) : Json.print? s a.document = .ok (Json.print s a.document) :=
    Json.print?_eq_ok s hfit hnesting
  rw [Abi.text, Operation.run_bind_ok hdocument, Abi.style]
  split
  · rw [Operation.run_bind_ok (Operation.run_orSetting c indent Config.indent), hprint]
    rfl
  · rw [hprint]
    rfl

theorem Source.octets?_text {t : Text} (h : t.isUnicode = true) :
    (Source.text t).octets? = some (Utf8.encode t) :=
  if_pos h

/-- A source is decoded when it has octets, no more than the settings allow, these are the text of a
value, and the value is a document. -/
theorem Source.run_decode_eq_ok_iff {source : Source} {strict : Option Bool} {c : Config}
    {a : Abi} :
    (source.decode strict).run.run c = .ok a ↔
      ∃ octets doc, source.octets? = some octets ∧ octets.length ≤ c.maxDocumentBytes ∧
        Json.parse octets = .ok doc ∧ doc.decodeAbi (strict.getD c.strict) = .ok a := by
  show source.decodeWith c strict = .ok a ↔ _
  unfold Source.decodeWith
  constructor
  · intro h
    split at h
    · cases h
    rename_i octets hoctets
    split at h
    · cases h
    rename_i hsize
    split at h
    · cases h
    · cases h
    · cases h
    · rename_i doc hparse
      exact ⟨octets, doc, hoctets, Int.not_lt.1 hsize, hparse, h⟩
  · rintro ⟨octets, doc, hoctets, hsize, hparse, hdecode⟩
    simp only [hoctets, hparse, hdecode]
    exact if_neg (Int.not_lt.2 hsize)

/-- A source that holds the text of an interface's document, within the limit on size, decodes to
the interface. -/
theorem Source.run_decode_print {a : Abi} (hwidths : a.All SchemaType.WholeWidths)
    (hfit : Json.numbersFit a.document = true) (hnesting : a.document.nesting ≤ nestingLimit)
    (s : Json.Style) {ending : Text} (hending : Json.Reads ending [])
    (hends : Json.Separates ending) {source : Source}
    (hoctets : source.octets? = some (Utf8.encode (Json.print s a.document ++ ending)))
    (strict : Option Bool) {c : Config}
    (hsize : (Utf8.encode (Json.print s a.document ++ ending)).length ≤ c.maxDocumentBytes) :
    (source.decode strict).run.run c = .ok a := by
  refine Source.run_decode_eq_ok_iff.2 ⟨_, a.document, hoctets, hsize, ?_, ?_⟩
  · exact Json.parse_print s a.document_isPlain hfit hnesting hending hends
  · refine Value.decodeAbi_eq_ok_iff.2 ⟨hwidths, a.document, ?_, ?_⟩
    · exact if_pos (Abi.encodable_of_nesting hnesting)
    · exact Value.embedded_refl _ a.document_isPlain.isJson

/-- **The text of an interface reads back.** Every interface with whole widths, sizes within the
limit on digits and a document within the limit on nesting has a text, on one line or indented by
any number of spaces. The text, as code points or as octets, decodes to the interface in either mode
if it is within the limit on size; so does the text with the newline that files have at its end. -/
theorem text_round_trip (a : Abi) (hwidths : a.All SchemaType.WholeWidths)
    (hsizes : a.All (SchemaType.SizesBelow (10 ^ digitLimit)))
    (hnesting : a.document.nesting ≤ nestingLimit) (pretty : Bool) (indent : Option Int)
    (strict : Option Bool) (writing reading : Config) :
    ∃ t, (a.text pretty indent).run.run writing = .ok t ∧
      (indent = none → (a.fileText pretty).run.run writing = .ok (t ++ "\n")) ∧
      ∀ ending ∈ ([[], "\n"] : List Text),
        (Utf8.encode (t ++ ending)).length ≤ reading.maxDocumentBytes →
          ((Source.text (t ++ ending)).decode strict).run.run reading = .ok a ∧
          ((Source.bytes (Utf8.encode (t ++ ending))).decode strict).run.run reading = .ok a := by
  have hfit := Abi.numbersFit_document hsizes
  have htext := Abi.run_text hfit hnesting pretty indent writing
  refine ⟨_, htext, ?_, fun ending hmem hsize => ?_⟩
  · rintro rfl
    rw [Abi.fileText, Operation.run_bind_ok htext]
    rfl
  · have hending : Text.isUnicode ending = true ∧ Json.Reads ending [] ∧ Json.Separates ending := by
      rcases List.mem_pair.1 hmem with rfl | rfl
      · exact ⟨rfl, Json.reads_nil, Json.separates_nil⟩
      · exact ⟨rfl, Json.reads_newline, fun rest _ => Json.ends_newline_append [] rest⟩
    obtain ⟨hunicode, hreads, hends⟩ := hending
    have htextUnicode : Text.isUnicode (Json.print (Abi.style writing pretty indent) a.document ++
        ending) = true := by
      rw [Text.isUnicode_append, Json.isUnicode_print _ a.document_isPlain, hunicode]
      rfl
    exact ⟨Source.run_decode_print hwidths hfit hnesting _ hreads hends
        (Source.octets?_text htextUnicode) strict hsize,
      Source.run_decode_print hwidths hfit hnesting _ hreads hends rfl strict hsize⟩

/-- An interface with names that need escapes, a name that stands twice, an empty array and an empty
struct. -/
def thornyInterface : Abi where
  inputs := [⟨"a\"\\\n\x01", false, .array (.struct "" []) 0⟩,
    ⟨"a\"\\\n\x01", true, .array (.array (.uint .w8 .whole) 12) 3⟩]
  outputs := [.struct "𝄞" [("é", .field), ("é", .bool)]]

theorem thornyInterface_wholeWidths : thornyInterface.All SchemaType.WholeWidths := by
  simp [Abi.All, thornyInterface, SchemaType.WholeWidths, SchemaType.Everywhere,
    SchemaType.MembersEverywhere]

theorem thornyInterface_sizesBelow :
    thornyInterface.All (SchemaType.SizesBelow (10 ^ digitLimit)) := by
  have hbound (n : Nat) (h : n ≤ 12) : n < 10 ^ digitLimit :=
    Nat.lt_of_le_of_lt h (by decide +kernel)
  simp [Abi.All, thornyInterface, SchemaType.SizesBelow, SchemaType.Everywhere,
    SchemaType.MembersEverywhere, hbound]

theorem text_round_trip_thorny :
    (thornyInterface.All SchemaType.WholeWidths ∧
      thornyInterface.All (SchemaType.SizesBelow (10 ^ digitLimit)) ∧
      thornyInterface.document.nesting ≤ nestingLimit) ∧
    ∃ t, (thornyInterface.text true (some 1)).run.run (Config.ofEnvironment []) = .ok t ∧
      (Utf8.encode (t ++ "\n")).length ≤ (Config.ofEnvironment []).maxDocumentBytes ∧
      ((Source.text (t ++ "\n")).decode (some true)).run.run (Config.ofEnvironment []) =
        .ok thornyInterface := by
  have hnesting : thornyInterface.document.nesting ≤ nestingLimit := by decide
  refine ⟨⟨thornyInterface_wholeWidths, thornyInterface_sizesBelow, hnesting⟩, ?_⟩
  obtain ⟨t, ht, -, hread⟩ := text_round_trip thornyInterface thornyInterface_wholeWidths
    thornyInterface_sizesBelow hnesting true (some 1) (some true) (Config.ofEnvironment [])
    (Config.ofEnvironment [])
  have htext : t = Json.print (.indented 1) thornyInterface.document :=
    Except.ok.inj (ht.symm.trans (Abi.run_text
      (Abi.numbersFit_document thornyInterface_sizesBelow) hnesting true (some 1) _))
  have hsize : (Utf8.encode (t ++ "\n")).length ≤ (Config.ofEnvironment []).maxDocumentBytes := by
    rw [htext]
    decide +kernel
  exact ⟨t, ht, hsize, (hread "\n" (.tail _ (.head _)) hsize).1⟩

end CircuitAbi

import CircuitAbi.Proofs.Tags
import CircuitAbi.Proofs.Verdict
import CircuitAbi.Proofs.Weight

/-!
# Documents that can be shown

A document that passes the check can be formatted, and its signature can be printed unless its types
nest too far. To inspect it takes more: what is shown then are numbers that no document holds, and
names that a console reads as markup.

* `Command.Report.of_eq` — the report on a decoded interface whose types are shallow.
* `Command.exists_print_document_iff` — it has a JSON text exactly when both totals fit.
* `Command.exists_tables_iff` — it has tables exactly when every count fits and every name renders.
* `Abi.renders_of_untagged` — names in which no tag starts render.

Principal result: `accepted_document_shown`. A document that passes the check and cannot be
inspected is in `accepted_document_not_inspected`.
-/

set_option autoImplicit false

namespace CircuitAbi

namespace Abi

/-- The totals of the inputs and of the outputs have few enough digits. -/
def TotalsFit (a : Abi) : Prop :=
  Signature.primitives a.signature.inputs < 10 ^ digitLimit ∧
    Signature.primitives a.signature.outputs < 10 ^ digitLimit

/-- The count of every input and of every output has few enough digits. -/
def CountsFit (a : Abi) : Prop := a.All fun t => t.count < 10 ^ digitLimit

/-- The types nest so little that each can be shown and its primitive values counted. -/
def Shallow (a : Abi) : Prop := a.All fun t => t.arrayDepth < arrayLimit ∧ t.depth ≤ countLimit

/-- Every name and every type that a table shows can be rendered. -/
def Renders (a : Abi) : Prop :=
  (∀ i ∈ a.inputs, Markup.Renders i.name.val) ∧ a.All fun t => Markup.Renders t.text

/-- The names that a table shows: those of the inputs, and those of structs and arrays of them. -/
def shownNames (a : Abi) : List Name :=
  a.inputs.map Input.name ++
    (a.signature.inputs ++ a.signature.outputs).filterMap SchemaType.shownName?

theorem renders_of_untagged {a : Abi} (h : ∀ name ∈ a.shownNames, Markup.Untagged name.val) :
    a.Renders := by
  have htext {t : SchemaType} (ht : t ∈ a.signature.inputs ++ a.signature.outputs) :
      Markup.Renders t.text := by
    refine Markup.renders_of_untagged (SchemaType.untagged_text fun name hname => h name ?_)
    exact List.mem_append_right _ (List.mem_filterMap.2 ⟨t, ht, hname⟩)
  refine ⟨fun i hi => ?_, fun i hi => ?_, fun t ht => ?_⟩
  · exact Markup.renders_of_untagged
      (h i.name (List.mem_append_left _ (List.mem_map_of_mem hi)))
  · exact htext (List.mem_append_left _ (List.mem_map_of_mem hi))
  · exact htext (List.mem_append_right _ ht)

end Abi

theorem SchemaType.count_le_primitives {t : SchemaType} {types : List SchemaType}
    (h : t ∈ types) : t.count ≤ Signature.primitives types := by
  induction types with
  | nil => cases h
  | cons u types ih =>
    show t.count ≤ u.count + Signature.primitives types
    rcases List.mem_cons.1 h with rfl | ht
    · exact Nat.le_add_right _ _
    · exact Nat.le_trans (ih ht) (Nat.le_add_left _ _)

/-- A total is no less than what it sums up. -/
theorem Abi.countsFit_of_totalsFit {a : Abi} (h : a.TotalsFit) : a.CountsFit := by
  refine ⟨fun i hi => ?_, fun t ht => ?_⟩
  · exact Nat.lt_of_le_of_lt (SchemaType.count_le_primitives (List.mem_map_of_mem hi)) h.1
  · exact Nat.lt_of_le_of_lt (SchemaType.count_le_primitives ht) h.2

theorem Tree.Describes.bounded {t : Tree} {c : Config} {p : Path} {a : Abi}
    (h : t.Describes c p a) : a.Bounded := by
  obtain ⟨content, -, hdecode⟩ := h
  exact Source.bounded_of_decode hdecode

namespace Command

/-! ## Reports -/

/-- The line of a type whose text and count are within the limits. -/
def TypeLine.plain (t : SchemaType) : TypeLine := ⟨t.text, t.count⟩

/-- The report on an interface whose signature is shown as a text. -/
def Report.plain (shown : Text) (a : Abi) : Report :=
  ⟨shown, a.inputs.map fun i => (i, .plain i.type), a.outputs.map .plain,
    Signature.primitives a.signature.inputs, Signature.primitives a.signature.outputs⟩

theorem TypeLine.of_eq {t : SchemaType} (hsizes : t.SizesBelow (10 ^ digitLimit))
    (hshallow : t.arrayDepth < arrayLimit ∧ t.depth ≤ countLimit) :
    TypeLine.of t = .ok (.plain t) := by
  unfold TypeLine.of
  rw [SchemaType.text?_of_arrayDepth_lt hshallow.1 hsizes, ok_bind, SchemaType.count?,
    if_neg (Nat.not_lt.2 hshallow.2)]
  rfl

theorem exists_signature_text? {a : Abi} (h : a.Bounded) (hshallow : a.Shallow) :
    ∃ shown, a.signature.text? = .ok shown := by
  cases hshown : a.signature.text? with
  | ok shown => exact ⟨shown, rfl⟩
  | error l =>
    obtain ⟨-, t, ht, hdeep⟩ := h.failsWith_signature_text? l hshown
    refine absurd hdeep (Nat.not_le.2 ?_)
    rcases List.mem_append.1 ht with ht | ht
    · obtain ⟨i, hi, rfl⟩ := List.mem_map.1 ht
      exact (hshallow.1 i hi).1
    · exact (hshallow.2 t ht).1

theorem Report.of_eq {a : Abi} (h : a.Bounded) (hshallow : a.Shallow) :
    ∃ shown, Report.of a = .ok (.plain shown a) := by
  obtain ⟨shown, hshown⟩ := exists_signature_text? h hshallow
  have hinputs : (a.inputs.mapM fun i => do return (i, ← TypeLine.of i.type)) =
      .ok (a.inputs.map fun i => (i, TypeLine.plain i.type)) := by
    refine mapM_eq_ok_map fun i hi => ?_
    rw [TypeLine.of_eq (h.1 i hi).2 (hshallow.1 i hi)]
    rfl
  have houtputs : a.outputs.mapM TypeLine.of = .ok (a.outputs.map .plain) :=
    mapM_eq_ok_map fun t ht => TypeLine.of_eq (h.2 t ht).2 (hshallow.2 t ht)
  unfold Report.of
  rw [hshown, ok_bind, hinputs, ok_bind, houtputs, ok_bind]
  exact ⟨shown, rfl⟩

/-- The document of a report nests three levels at most, whatever the types do. -/
theorem nesting_document_le (r : Report) : r.document.nesting ≤ nestingLimit := by
  have hinputs : Value.itemsNesting (r.inputs.map fun l =>
      Value.object [("name", .text l.1.name.val), ("visibility", .text (visibility l.1)),
        ("type", .text l.2.type), ("primitives", .int l.2.primitives)]) ≤ 1 := by
    refine Value.itemsNesting_le fun v hv => ?_
    obtain ⟨line, -, rfl⟩ := List.mem_map.1 hv
    exact Nat.le_refl 1
  have houtputs : Value.itemsNesting (r.outputs.map fun t =>
      Value.object [("type", .text t.type), ("primitives", .int t.primitives)]) ≤ 1 := by
    refine Value.itemsNesting_le fun v hv => ?_
    obtain ⟨line, -, rfl⟩ := List.mem_map.1 hv
    exact Nat.le_refl 1
  simp only [Report.document, Value.nesting, Value.entriesNesting, nestingLimit, callLimit]
  omega

/-- **The JSON text of a report** exists exactly when both totals can be printed; the counts of the
lines are no greater. -/
theorem exists_print_document_iff (style : Json.Style) (shown : Text) (a : Abi) :
    (∃ text, Json.print? style (Report.plain shown a).document = .ok text) ↔ a.TotalsFit := by
  -- the document holds the counts and the totals and no other number
  have hdocument : Json.numbersFit (Report.plain shown a).document = true ↔
      a.CountsFit ∧ a.TotalsFit := by
    simp only [Report.document, Report.plain, List.map_map, Json.numbersFit, Json.entriesFit,
      Json.itemsFit_map_iff, Function.comp, Bool.true_and, Bool.and_true, Bool.and_eq_true,
      Decimal.fits_natCast_iff, TypeLine.plain, Abi.CountsFit, Abi.TotalsFit, Abi.All, and_assoc]
  rw [Json.exists_print?_iff, and_iff_left (nesting_document_le _), hdocument]
  exact ⟨fun h => h.2, fun h => ⟨Abi.countsFit_of_totalsFit h, h⟩⟩

/-! ## Tables -/

theorem exists_rendered_iff {c : Column} :
    (∃ d, c.rendered = .ok d) ↔ ∀ cell ∈ c.cells, Markup.Renders cell := by
  unfold Column.rendered Markup.Renders
  rw [← exists_mapM_eq_ok_iff]
  simp only [bind_eq_ok, pure_eq_ok]
  constructor
  · rintro ⟨_, cells, hcells, -⟩
    exact ⟨cells, hcells⟩
  · rintro ⟨cells, hcells⟩
    exact ⟨_, cells, hcells, rfl⟩

/-- A table can be drawn when all of its cells render. -/
theorem exists_table_iff {title : Text} {n : Nat} {columns : List Column} :
    (∃ drawn, table title n columns = .ok drawn) ↔
      ∀ c ∈ columns, ∀ cell ∈ c.cells, Markup.Renders cell := by
  unfold table
  simp only [bind_eq_ok, pure_eq_ok, ← exists_rendered_iff]
  rw [← exists_mapM_eq_ok_iff]
  constructor
  · rintro ⟨_, rendered, hrendered, -⟩
    exact ⟨rendered, hrendered⟩
  · rintro ⟨rendered, hrendered⟩
    exact ⟨_, rendered, hrendered, rfl⟩

theorem mapError_eq_ok {ε ε' α : Type} {f : ε → ε'} {x : Except ε α} {y : α} :
    x.mapError f = .ok y ↔ x = .ok y := by
  cases x <;> simp [Except.mapError]

theorem print_natCast {n : Nat} (h : n < 10 ^ digitLimit) :
    Decimal.print n = .ok (Decimal.ofNat n) := if_pos (Decimal.fits_natCast_iff.2 h)

theorem lt_of_print_natCast {n : Nat} {shown : Text} (h : Decimal.print n = .ok shown) :
    n < 10 ^ digitLimit := by
  unfold Decimal.print at h
  split at h
  · rename_i hfits
    exact Decimal.fits_natCast_iff.1 hfits
  · cases h

theorem renders_ofNat (n : Nat) : Markup.Renders (Decimal.ofNat n) :=
  Markup.renders_of_untagged (Markup.untagged_ofNat n)

theorem renders_visibility (i : Input) : Markup.Renders (visibility i) := by
  unfold visibility
  split <;> exact Markup.renders_of_untagged (by decide)

/-- The numbers in a table render, so it takes only that the counts can be printed and that the
cells of its own columns and the types render. -/
theorem exists_linesTable_iff {title : Text} {own : List Column} {lines : List TypeLine} :
    (∃ drawn, linesTable title own lines = .ok drawn) ↔
      (∀ l ∈ lines, l.primitives < 10 ^ digitLimit) ∧
        (∀ c ∈ own, ∀ cell ∈ c.cells, Markup.Renders cell) ∧
        ∀ l ∈ lines, Markup.Renders l.type := by
  unfold linesTable
  by_cases hfit : ∀ l ∈ lines, l.primitives < 10 ^ digitLimit
  · have hcounts : (lines.mapM fun l => Decimal.print l.primitives) =
        .ok (lines.map fun l => Decimal.ofNat l.primitives) :=
      mapM_eq_ok_map fun l hl => print_natCast (hfit l hl)
    rw [hcounts, and_iff_right hfit]
    -- the cells that number the lines and those of the counts are digits, which render
    show (∃ drawn, Except.mapError Failure.markup (table _ _ _) = .ok drawn) ↔ _
    simp only [mapError_eq_ok, exists_table_iff, List.cons_append, List.forall_mem_cons,
      List.forall_mem_append, List.forall_mem_map, renders_ofNat, implies_true, List.not_mem_nil,
      IsEmpty.forall_iff, true_and, and_true]
  · refine iff_of_false ?_ fun h => hfit h.1
    simp only [bind_eq_ok, mapError_eq_ok]
    rintro ⟨_, counts, hcounts, -⟩
    refine hfit fun l hl => ?_
    obtain ⟨shown, hshown⟩ := exists_mapM_eq_ok_iff.1 ⟨counts, hcounts⟩ l hl
    exact lt_of_print_natCast hshown

/-- **The tables of a report** can be drawn exactly when every count can be printed and every name
and type renders. -/
theorem exists_tables_iff {shown : Text} {a : Abi} :
    (∃ drawn, (Report.plain shown a).tables = .ok drawn) ↔ a.CountsFit ∧ a.Renders := by
  have hnames : (Report.plain shown a).inputs.map (·.1) = a.inputs := by
    show (a.inputs.map fun i => (i, TypeLine.plain i.type)).map Prod.fst = _
    rw [List.map_map]
    exact List.map_id _
  have hlines : (Report.plain shown a).inputs.map (·.2) =
      a.inputs.map fun i => TypeLine.plain i.type := by
    show (a.inputs.map fun i => (i, TypeLine.plain i.type)).map Prod.snd = _
    rw [List.map_map]
    rfl
  have hboth : (∃ drawn, (Report.plain shown a).tables = .ok drawn) ↔
      (∃ drawn, linesTable "inputs" [⟨"name", false, a.inputs.map (·.name.val)⟩,
        ⟨"visibility", false, a.inputs.map visibility⟩] (a.inputs.map fun i => .plain i.type) =
          .ok drawn) ∧
      ∃ drawn, linesTable "outputs" [] (a.outputs.map .plain) = .ok drawn := by
    unfold Report.tables
    rw [hnames, hlines]
    simp only [bind_eq_ok, pure_eq_ok]
    constructor
    · rintro ⟨_, first, hfirst, second, hsecond, -⟩
      exact ⟨⟨first, hfirst⟩, second, hsecond⟩
    · rintro ⟨⟨first, hfirst⟩, second, hsecond⟩
      exact ⟨_, first, hfirst, second, hsecond, rfl⟩
  rw [hboth, exists_linesTable_iff, exists_linesTable_iff]
  simp only [List.forall_mem_cons, List.forall_mem_map, renders_visibility, implies_true,
    List.not_mem_nil, IsEmpty.forall_iff, and_true, true_and, TypeLine.plain, Abi.CountsFit,
    Abi.Renders, Abi.All]
  constructor
  · rintro ⟨⟨hins, hnames, htypes⟩, houts, houttypes⟩
    exact ⟨⟨hins, houts⟩, hnames, htypes, houttypes⟩
  · rintro ⟨⟨hins, houts⟩, hnames, htypes, houttypes⟩
    exact ⟨⟨hins, hnames, htypes⟩, houts, houttypes⟩

/-! ## Runs -/

/-- A run ends with exit code 0 if a condition holds, and else with a failure and no exit code. -/
def EndsWellIff (condition : Prop) (result : Except Stop Outcome) : Prop :=
  (condition → exitCode? result = some 0) ∧ (¬ condition → exitCode? result = none)

namespace Run

variable {c : Config} (r : Run)

/-- A run that shows what an operation returns ends well when it returns. -/
theorem endsWellIff_succeed {α : Type} {op : Operation α} {condition : Prop}
    (h : (∃ x, op.run.run c = .ok x) ↔ condition) (stdout : α → Text) :
    EndsWellIff condition ((r.lift op >>= fun x => return r.succeed (stdout x)).run.run c) := by
  cases hop : op.run.run c with
  | ok x =>
    rw [Operation.run_bind_ok (run_lift_ok hop)]
    exact ⟨fun _ => rfl, fun hnot => absurd (h.1 ⟨x, hop⟩) hnot⟩
  | error e =>
    rw [Operation.run_bind_error (run_lift_error hop)]
    refine ⟨fun hcondition => ?_, fun _ => rfl⟩
    obtain ⟨x, hx⟩ := h.2 hcondition
    rw [hop] at hx
    cases hx

theorem exists_run_ofLimited_iff {α : Type} {x : Except Limit α} :
    (∃ y, (Operation.ofLimited x).run.run c = .ok y) ↔ ∃ y, x = .ok y := by
  cases x with
  | ok y => exact iff_of_true ⟨y, rfl⟩ ⟨y, rfl⟩
  | error l => exact iff_of_false nofun nofun

/-- What was decoded can be formatted, however far it nests. -/
theorem exitCode?_fmt {source : Source} {strict : Option Bool} {a : Abi}
    (h : (source.decode strict).run.run c = .ok a) (compact : Bool) :
    exitCode? ((fmt compact none r a).run.run c) = some 0 := by
  have htext := Source.run_text_of_decode h (!compact)
  exact (r.endsWellIff_succeed (iff_true_intro ⟨_, htext⟩) printed).1 trivial

variable {a : Abi} (h : a.Bounded) (hshallow : a.Shallow)

include h hshallow

theorem exists_run_report :
    ∃ shown, (r.lift (.ofLimited (Report.of a))).run.run c = .ok (.plain shown a) := by
  obtain ⟨shown, hreport⟩ := Report.of_eq h hshallow
  rw [hreport]
  exact ⟨shown, rfl⟩

theorem exitCode?_signature : exitCode? ((signature r a).run.run c) = some 0 := by
  have hruns := exists_run_ofLimited_iff (c := c).2 (exists_signature_text? h hshallow)
  exact (r.endsWellIff_succeed (iff_true_intro hruns) printed).1 trivial

/-- **Inspection as JSON** hinges on the totals. -/
theorem endsWellIff_inspect_json : EndsWellIff a.TotalsFit ((inspect true r a).run.run c) := by
  obtain ⟨shown, hreport⟩ := exists_run_report (c := c) r h hshallow
  have hsettings : (r.lift Operation.settings).run.run c = .ok c := rfl
  unfold inspect
  rw [Operation.run_bind_ok hreport, if_pos rfl, Operation.run_bind_ok hsettings]
  exact r.endsWellIff_succeed
    (exists_run_ofLimited_iff.trans (exists_print_document_iff _ shown a)) printed

/-- **Inspection as tables** hinges on the counts and on the names. -/
theorem endsWellIff_inspect_tables :
    EndsWellIff (a.CountsFit ∧ a.Renders) ((inspect false r a).run.run c) := by
  obtain ⟨shown, hreport⟩ := exists_run_report (c := c) r h hshallow
  unfold inspect
  rw [Operation.run_bind_ok hreport, if_neg Bool.false_ne_true]
  have htables : (∃ drawn, (Operation.ofExcept (Report.plain shown a).tables).run.run c =
      .ok drawn) ↔ a.CountsFit ∧ a.Renders := exists_tables_iff
  exact r.endsWellIff_succeed htables id

end Run

/-- A task that succeeds had a document that describes an interface. -/
theorem exists_describes_of_exitCode? {setup : Setup} {args : List Text} {verbose : Bool} {p : Path}
    {task : Task} (hasks : Asks setup args verbose (.on p task)) {t : Tree} {c : Config}
    (hexit : exitCode? ((run setup args t).run.run c) = some 0) :
    ∃ least a, leastRank setup verbose c = .ok least ∧ t.Describes c p a := by
  rcases run_cases hasks t c with
    ⟨e, -, hrun⟩ | ⟨exit, message, hrejected, hrun⟩ | ⟨least, a, hleast, ha, -⟩
  · rw [hrun] at hexit
    cases hexit
  · rw [hrun] at hexit
    exact absurd (Option.some.inj hexit) hrejected.exit_ne_zero
  · exact ⟨least, a, hleast, ha⟩

/-- **What passes the check can be shown**, as far as its types are shallow, its numbers can be
printed and its names are no markup. Of a document whose check ends with exit code 0, both canonical
texts can be printed, and if its types nest little, the signature can. Inspecting it as JSON then
ends with exit code 0 if both totals of primitive values have few enough digits, and else with no
exit code. Inspecting it as tables ends with exit code 0 if every count has and no opening bracket
in a name is followed by what a tag starts with; if a count has not, it ends with no exit code. -/
theorem accepted_document_shown {setup : Setup} {args : List Text} {verbose : Bool} {p : Path}
    (hasks : Asks setup args verbose (.on p .check)) {t : Tree} {c : Config}
    (hexit : exitCode? ((run setup args t).run.run c) = some 0) :
    ∃ a, t.Describes c p a ∧ (a.TotalsFit → a.CountsFit) ∧
      ∀ args' : List Text,
        (∀ compact, Asks setup args' verbose (.on p (.fmt compact none)) →
          exitCode? ((run setup args' t).run.run c) = some 0) ∧
        (a.Shallow →
          (Asks setup args' verbose (.on p .signature) →
            exitCode? ((run setup args' t).run.run c) = some 0) ∧
          (Asks setup args' verbose (.on p (.inspect true)) →
            EndsWellIff a.TotalsFit ((run setup args' t).run.run c)) ∧
          (Asks setup args' verbose (.on p (.inspect false)) →
            (a.CountsFit → (∀ name ∈ a.shownNames, Markup.Untagged name.val) →
              exitCode? ((run setup args' t).run.run c) = some 0) ∧
            (¬ a.CountsFit → exitCode? ((run setup args' t).run.run c) = none))) := by
  obtain ⟨least, a, hleast, ha⟩ := exists_describes_of_exitCode? hasks hexit
  have hbounded := ha.bounded
  refine ⟨a, ha, Abi.countsFit_of_totalsFit, fun args' => ⟨fun compact hother => ?_,
    fun hshallow => ⟨fun hother => ?_, fun hother => ?_, fun hother => ?_⟩⟩⟩ <;>
    rw [run_of_describes hother hleast ha]
  · obtain ⟨content, -, hdecode⟩ := ha
    exact Run.exitCode?_fmt _ hdecode compact
  · exact Run.exitCode?_signature _ hbounded hshallow
  · exact Run.endsWellIff_inspect_json _ hbounded hshallow
  · obtain ⟨hshown, hstopped⟩ := Run.endsWellIff_inspect_tables _ hbounded hshallow
    exact ⟨fun hcounts hnames => hshown ⟨hcounts, Abi.renders_of_untagged hnames⟩,
      fun hcounts => hstopped fun h => hcounts h.1⟩

/-- A tree with one file, the document of an interface on one line. -/
def documentTree (a : Abi) : Tree :=
  Tree.ofList ["home"] [("abi.json", some (Utf8.encode (Json.print .compact a.document)))]

theorem describes_documentTree {a : Abi} (hwidths : a.All SchemaType.WholeWidths)
    (hsizes : a.All (SchemaType.SizesBelow (10 ^ digitLimit)))
    (hnesting : a.document.nesting ≤ nestingLimit)
    (hweight : a.document.weight ≤ (Config.ofEnvironment []).maxDocumentBytes) :
    (documentTree a).Describes (.ofEnvironment []) (.ofText "abi.json") a := by
  have hsize : (Utf8.encode (Json.print .compact a.document)).length ≤
      (Config.ofEnvironment []).maxDocumentBytes := by
    rw [Json.print, Json.length_encode_printAt a.document 0 a.document_isPlain]
    exact hweight
  refine ⟨_, rfl, ?_⟩
  rw [← List.append_nil (Json.print _ _)] at hsize ⊢
  exact Source.run_decode_print hwidths (Abi.numbersFit_document hsizes) hnesting .compact
    Json.reads_nil Json.separates_nil rfl none hsize

theorem asks_inspect : Asks installed ["inspect", "abi.json"] false
      (.on (.ofText "abi.json") (.inspect false)) ∧
    Asks installed ["inspect", "abi.json", "--json"] false
      (.on (.ofText "abi.json") (.inspect true)) := by
  obtain ⟨-, -, htables, hjson, -⟩ := asks_of_positional installed positional_abi
  exact ⟨htables, hjson⟩

/-- An interface whose names have brackets in them. -/
def boxInterface : Abi := ⟨[⟨"x[0]", false, .array (.struct "Box[" [("v", .field)]) 3⟩], []⟩

theorem describes_box : (documentTree boxInterface).Describes (.ofEnvironment [])
    (.ofText "abi.json") boxInterface := by
  have hbound : 3 < 10 ^ digitLimit := Decimal.lt_of_le_digitLimit (by decide)
  refine describes_documentTree ?_ ?_ (by decide) (by decide) <;>
    simp [Abi.All, boxInterface, SchemaType.WholeWidths, SchemaType.SizesBelow,
      SchemaType.Everywhere, SchemaType.MembersEverywhere, hbound]

theorem exitCode?_check {a : Abi}
    (h : (documentTree a).Describes (.ofEnvironment []) (.ofText "abi.json") a) :
    exitCode? ((run installed ["check", "abi.json"] (documentTree a)).run.run
      (.ofEnvironment [])) = some 0 := by
  obtain ⟨least, hleast⟩ := exists_leastRank Environment.namesLevel_nil installed false
  rw [run_of_describes asks_check hleast h]
  rfl

theorem accepted_document_shown_box :
    (Asks installed ["check", "abi.json"] false (.on (.ofText "abi.json") .check) ∧
      exitCode? ((run installed ["check", "abi.json"] (documentTree boxInterface)).run.run
        (.ofEnvironment [])) = some 0) ∧
    exitCode? ((run installed ["inspect", "abi.json"] (documentTree boxInterface)).run.run
      (.ofEnvironment [])) = some 0 ∧
    exitCode? ((run installed ["inspect", "abi.json", "--json"]
      (documentTree boxInterface)).run.run (.ofEnvironment [])) = some 0 := by
  have hexit := exitCode?_check describes_box
  obtain ⟨a, ha, hcounts, htasks⟩ := accepted_document_shown asks_check hexit
  obtain rfl := ha.unique describes_box
  have htotals : boxInterface.TotalsFit := by
    constructor <;> exact Decimal.lt_of_le_digitLimit (by decide)
  have hshallow : boxInterface.Shallow := by constructor <;> decide
  refine ⟨⟨asks_check, hexit⟩, ?_, ?_⟩
  · exact (((htasks _).2 hshallow).2.2 asks_inspect.1).1 (hcounts htotals) (by decide)
  · exact (((htasks _).2 hshallow).2.1 asks_inspect.2).1 htotals

/-- An interface with one output, arrays in an array, each of a size with one digit more than a
number. -/
def towerInterface (n : Nat) : Abi := ⟨[], [.array (.array .field (10 ^ n)) (10 ^ n)]⟩

theorem describes_tower {n : Nat} (h : n < digitLimit)
    (hweight : (towerInterface n).document.weight ≤ (Config.ofEnvironment []).maxDocumentBytes) :
    (documentTree (towerInterface n)).Describes (.ofEnvironment []) (.ofText "abi.json")
      (towerInterface n) := by
  have hbound : 10 ^ n < 10 ^ digitLimit := Nat.pow_lt_pow_right (by decide) h
  have hnesting : (towerInterface n).document.nesting = 5 := rfl
  refine describes_documentTree ?_ ?_ (by rw [hnesting]; decide) hweight <;>
    simp [Abi.All, towerInterface, SchemaType.WholeWidths, SchemaType.SizesBelow,
      SchemaType.Everywhere, hbound]

theorem shallow_tower (n : Nat) : (towerInterface n).Shallow := by
  refine ⟨nofun, fun t ht => ?_⟩
  obtain rfl := List.mem_singleton.1 ht
  simp [SchemaType.arrayDepth, SchemaType.depth, arrayLimit, countLimit, callLimit]

/-- Sizes that can be printed have a product that cannot. -/
theorem not_countsFit_tower {n : Nat} (h : digitLimit ≤ n + n) :
    ¬ (towerInterface n).CountsFit := by
  intro hfit
  have hlt : (SchemaType.array (.array .field (10 ^ n)) (10 ^ n)).count < 10 ^ digitLimit :=
    hfit.2 _ List.mem_cons_self
  rw [SchemaType.count, SchemaType.count, SchemaType.count, Nat.mul_one, ← Nat.pow_add] at hlt
  exact Nat.not_lt.2 (Nat.pow_le_pow_right (by decide) h) hlt

/-- An interface with one input, whose name is a closing tag. -/
def tagInterface : Abi := ⟨[⟨"[/]", true, .field⟩], []⟩

theorem describes_tag :
    (documentTree tagInterface).Describes (.ofEnvironment []) (.ofText "abi.json")
      tagInterface := by
  refine describes_documentTree ?_ ?_ (by decide) (by decide) <;>
    simp [Abi.All, tagInterface, SchemaType.WholeWidths, SchemaType.SizesBelow,
      SchemaType.Everywhere]

theorem shallow_tag : tagInterface.Shallow := by constructor <;> decide

/-- A check does not see the numbers and the markup: an output whose count has too many digits and a
name that is a closing tag pass it, and inspecting them ends with no exit code. -/
theorem accepted_document_not_inspected :
    exitCode? ((run installed ["check", "abi.json"] (documentTree (towerInterface 2200))).run.run
      (.ofEnvironment [])) = some 0 ∧
    exitCode? ((run installed ["inspect", "abi.json"] (documentTree (towerInterface 2200))).run.run
      (.ofEnvironment [])) = none ∧
    exitCode? ((run installed ["inspect", "abi.json", "--json"]
      (documentTree (towerInterface 2200))).run.run (.ofEnvironment [])) = none ∧
    exitCode? ((run installed ["check", "abi.json"] (documentTree tagInterface)).run.run
      (.ofEnvironment [])) = some 0 ∧
    exitCode? ((run installed ["inspect", "abi.json"] (documentTree tagInterface)).run.run
      (.ofEnvironment [])) = none := by
  obtain ⟨least, hleast⟩ := exists_leastRank Environment.namesLevel_nil installed false
  have htower := describes_tower (n := 2200) (by decide) (by decide +kernel)
  have hcounts := not_countsFit_tower (n := 2200) (by decide)
  have hname : ¬ tagInterface.Renders := by
    intro h
    obtain ⟨shown, hshown⟩ := h.1 _ List.mem_cons_self
    cases hshown
  refine ⟨exitCode?_check htower, ?_, ?_, exitCode?_check describes_tag, ?_⟩
  · rw [run_of_describes asks_inspect.1 hleast htower]
    exact (Run.endsWellIff_inspect_tables _ htower.bounded (shallow_tower _)).2 fun h => hcounts h.1
  · rw [run_of_describes asks_inspect.2 hleast htower]
    exact (Run.endsWellIff_inspect_json _ htower.bounded (shallow_tower _)).2 fun h =>
      hcounts (Abi.countsFit_of_totalsFit h)
  · rw [run_of_describes asks_inspect.1 hleast describes_tag]
    exact (Run.endsWellIff_inspect_tables _ describes_tag.bounded shallow_tag).2 fun h => hname h.2

end Command

end CircuitAbi

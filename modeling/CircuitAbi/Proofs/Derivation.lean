import Mathlib.Data.List.Forall2
import CircuitAbi.Program
import CircuitAbi.Proofs.TextEquality

/-!
# The interface that a program publishes

The interface of a program is read off its entry function. A parameter that is private by mistake
of the derivation would be a secret told to the verifier, so the statement here goes from the values
that parameters carry to the text that is published.

* `Value.Falsy` — the values that count as false, one by one; `Value.truth_eq_false_iff`.
* `Parameter.PublishedAs`, `Function.Publishes` — an input shows a parameter, an interface shows a
  function.
* `Function.publishes_abi` — the interface of a function shows it.
* `Function.ofValues_abi` — the checked constructors build the same interface and refuse nothing.

Principal result: `derived_interface_published`.
-/

set_option autoImplicit false

namespace CircuitAbi

/-- The values that count as false: null, false, zero of either kind and everything empty. -/
inductive Value.Falsy : Value → Prop
  | null : Falsy .null
  | no : Falsy (.bool false)
  | zero : Falsy (.int 0)
  | realZero (negative : Bool) (exponent : Int) : Falsy (.real ⟨negative, 0, exponent⟩)
  | noText : Falsy (.text [])
  | noBytes : Falsy (.bytes [])
  | noItems : Falsy (.list [])
  | noEntries : Falsy (.object [])

theorem Value.truth_eq_false_iff (v : Value) : v.truth = false ↔ v.Falsy := by
  constructor
  · intro h
    cases v with
    | null => exact .null
    | bool b =>
      cases b with
      | true => cases h
      | false => exact .no
    | int n =>
      obtain rfl : n = 0 := by simpa [truth] using h
      exact .zero
    | real x =>
      obtain ⟨negative, significand, exponent⟩ := x
      obtain rfl : significand = 0 := by simpa [truth] using h
      exact .realZero negative exponent
    | text t =>
      obtain rfl : t = [] := by simpa [truth] using h
      exact .noText
    | bytes b =>
      obtain rfl : b = [] := by simpa [truth] using h
      exact .noBytes
    | list items =>
      obtain rfl : items = [] := by simpa [truth] using h
      exact .noItems
    | object entries =>
      obtain rfl : entries = [] := by simpa [truth] using h
      exact .noEntries
    | type t => cases h
  · rintro ⟨⟩ <;> rfl

instance : DecidablePred Value.Falsy := fun v => decidable_of_iff _ v.truth_eq_false_iff

namespace Parameter

/-- An input has the name and the type of a parameter, and is disclosed exactly when the value that
says whether the parameter is private counts as false. -/
structure PublishedAs (q : Parameter) (i : Input) : Prop where
  name : i.name = q.name
  type : i.type = q.type
  disclosed : i.disclosed = true ↔ q.secrecy.Falsy

theorem disclosed_iff (q : Parameter) : q.disclosed = true ↔ q.secrecy.Falsy := by
  rw [← Value.truth_eq_false_iff, disclosed, Bool.not_eq_true']

theorem publishedAs_input (q : Parameter) : q.PublishedAs q.input := ⟨rfl, rfl, q.disclosed_iff⟩

/-- The checked constructor builds the input of a parameter. -/
theorem ofValues_input (q : Parameter) :
    Input.ofValues (.text q.name.val) (.bool (!q.secrecy.truth)) (.type q.type) = .ok q.input := by
  have hname : (Value.text q.name.val).name? = some q.name := Name.ofText?_val q.name
  rw [Input.ofValues, hname]
  rfl

end Parameter

namespace Function

/-- Every type of a parameter or an output has a property. -/
def All (f : Function) (P : SchemaType → Prop) : Prop :=
  (∀ q ∈ f.parameters, P q.type) ∧ ∀ t ∈ f.signature.outputs, P t

/-- An interface shows a function: its inputs are the parameters in the order of declaration, its
outputs those that are declared, and its public and its private inputs are the parameters that are
so, in the same order. -/
structure Publishes (f : Function) (a : Abi) : Prop where
  inputs : List.Forall₂ Parameter.PublishedAs f.parameters a.inputs
  outputs : a.outputs = f.signature.outputs
  publicInputs : List.Forall₂ Parameter.PublishedAs
    (f.parameters.filter fun q => q.secrecy.Falsy) a.publicInputs
  privateInputs : List.Forall₂ Parameter.PublishedAs
    (f.parameters.filter fun q => ¬ q.secrecy.Falsy) a.privateInputs

theorem all_abi {f : Function} {P : SchemaType → Prop} (h : f.All P) : f.abi.All P := by
  refine ⟨fun i hi => ?_, h.2⟩
  obtain ⟨q, hq, rfl⟩ := List.mem_map.1 hi
  exact h.1 q hq

theorem forall₂_publishedAs (qs : List Parameter) :
    List.Forall₂ Parameter.PublishedAs qs (qs.map Parameter.input) := by
  rw [List.forall₂_map_right_iff, List.forall₂_same]
  intro q _
  exact q.publishedAs_input

/-- **The interface of a function shows it.** -/
theorem publishes_abi (f : Function) : f.Publishes f.abi where
  inputs := forall₂_publishedAs f.parameters
  outputs := rfl
  publicInputs := by
    have hpublic : f.abi.publicInputs =
        (f.parameters.filter fun q => q.secrecy.Falsy).map Parameter.input := by
      show (f.parameters.map Parameter.input).filter Input.disclosed = _
      rw [List.filter_map]
      congr 1
      refine List.filter_congr fun q _ => Bool.eq_iff_iff.2 ?_
      rw [decide_eq_true_iff]
      exact q.disclosed_iff
    rw [hpublic]
    exact forall₂_publishedAs _
  privateInputs := by
    have hprivate : f.abi.privateInputs =
        (f.parameters.filter fun q => ¬ q.secrecy.Falsy).map Parameter.input := by
      show (f.parameters.map Parameter.input).filter (!·.disclosed) = _
      rw [List.filter_map]
      congr 1
      refine List.filter_congr fun q _ => Bool.eq_iff_iff.2 ?_
      rw [decide_eq_true_iff, ← q.disclosed_iff, Bool.not_eq_true]
      show (!q.disclosed) = true ↔ _
      rw [Bool.not_eq_true']
    rw [hprivate]
    exact forall₂_publishedAs _

/-- The checked constructors, given the parts of the parameters and the declared outputs, build the
interface of the function. -/
theorem ofValues_abi (f : Function) :
    (f.parameters.mapM fun q =>
      Input.ofValues (.text q.name.val) (.bool (!q.secrecy.truth)) (.type q.type)) =
        .ok f.abi.inputs ∧
    Abi.ofValues (f.abi.inputs.map .inl) (f.signature.outputs.map .type) = .ok f.abi := by
  refine ⟨mapM_eq_ok_map fun q _ => q.ofValues_input, ?_⟩
  refine bind_eq_ok.2 ⟨f.abi.inputs, ?_, bind_eq_ok.2 ⟨f.signature.outputs, ?_, rfl⟩⟩
  · rw [List.mapM_map]
    refine (mapM_eq_ok_map (g := id) fun _ _ => rfl).trans ?_
    rw [List.map_id]
  · unfold Value.types
    rw [List.mapM_map]
    refine (mapM_eq_ok_map (g := id) fun _ _ => rfl).trans ?_
    rw [List.map_id]

/-- A comparison of the interface's signature with the declared one is a comparison of the types of
the parameters with the declared inputs. -/
theorem signature_equal_abi {f : Function} (hcalls : f.All fun t => t.calls ≤ callLimit)
    (hwidths : f.All SchemaType.WholeWidths) :
    ∃ same, f.abi.signature.equal f.signature = .ok same ∧
      pairwiseEqual SchemaType.equal (f.parameters.map Parameter.type) f.signature.inputs =
        .ok same ∧
      (same = true ↔
        f.parameters.map Parameter.type = f.signature.inputs.map SchemaType.whole) := by
  have htypes : f.abi.signature.inputs = f.parameters.map Parameter.type := by
    show (f.parameters.map Parameter.input).map Input.type = _
    rw [List.map_map]
    rfl
  have hwhole : (f.parameters.map Parameter.type).map SchemaType.whole =
      f.parameters.map Parameter.type := by
    rw [List.map_map]
    exact List.map_congr_left fun q hq => SchemaType.whole_of_wholeWidths (hwidths.1 q hq)
  have hparameters : ∀ t ∈ f.parameters.map Parameter.type, t.calls ≤ callLimit := by
    intro t ht
    obtain ⟨q, hq, rfl⟩ := List.mem_map.1 ht
    exact hcalls.1 q hq
  obtain ⟨same, hsame, hiff⟩ := decides_pairwiseEqual
    (fun t ht => SchemaType.decides_equal (hparameters t ht)) f.signature.inputs
  obtain ⟨_, hagain, htrue⟩ := decides_pairwiseEqual
    (fun t ht => SchemaType.decides_equal (hcalls.2 t ht)) f.signature.outputs
  obtain rfl := htrue.2 rfl
  rw [hwhole] at hiff
  refine ⟨same, ?_, hsame, hiff⟩
  -- the outputs are the declared ones, so the inputs decide
  have houtputs : f.abi.signature.outputs = f.signature.outputs := rfl
  unfold Signature.equal
  rw [htypes, houtputs, hsame, ok_bind, hagain]
  cases same <;> rfl

end Function

/-- **What a program derives is what it publishes.** Where the entry function is found, the
interface is derived, with one input for each parameter in the order of declaration, disclosed
exactly when the value that says whether the parameter is private counts as false; the constructors
that check their arguments build the same. If widths are whole and the types can be compared, its
signature is equal to the declared one exactly when the types of the parameters are equal to the
declared inputs. If widths are whole, sizes have few enough digits and the document nests within the
limit, it has a text in every form, which, where it is within the limit on size, decodes to this
interface. -/
theorem derived_interface_published {p : Program} {entryPoint : Option Text} {c : Config}
    {f : Function} (hentry : (p.entry entryPoint).run.run c = .ok f) :
    ∃ a, (p.abi entryPoint).run.run c = .ok a ∧ f.Publishes a ∧
      (f.parameters.mapM fun q =>
        Input.ofValues (.text q.name.val) (.bool (!q.secrecy.truth)) (.type q.type)) =
          .ok a.inputs ∧
      Abi.ofValues (a.inputs.map .inl) (f.signature.outputs.map .type) = .ok a ∧
      (f.All SchemaType.WholeWidths → (f.All fun t => t.calls ≤ callLimit) →
        ∃ same, a.signature.equal f.signature = .ok same ∧
          pairwiseEqual SchemaType.equal (f.parameters.map Parameter.type) f.signature.inputs =
            .ok same ∧
          (same = true ↔
            f.parameters.map Parameter.type = f.signature.inputs.map SchemaType.whole)) ∧
      (f.All SchemaType.WholeWidths → f.All (SchemaType.SizesBelow (10 ^ digitLimit)) →
        a.document.nesting ≤ nestingLimit →
        ∀ (pretty : Bool) (indent : Option Int) (strict : Option Bool) (writing reading : Config),
          ∃ text, (a.text pretty indent).run.run writing = .ok text ∧
            ((Utf8.encode text).length ≤ reading.maxDocumentBytes →
              ((Source.text text).decode strict).run.run reading = .ok a)) := by
  have habi : (p.abi entryPoint).run.run c = .ok f.abi := by
    unfold Program.abi
    rw [Operation.run_bind_ok hentry]
    rfl
  refine ⟨f.abi, habi, f.publishes_abi, f.ofValues_abi.1, f.ofValues_abi.2,
    fun hwidths hcalls => Function.signature_equal_abi hcalls hwidths, ?_⟩
  intro hwidths hsizes hnesting pretty indent strict writing reading
  have hfit := Abi.numbersFit_document (Function.all_abi hsizes)
  refine ⟨_, Abi.run_text hfit hnesting pretty indent writing, fun hsize => ?_⟩
  have hunicode := Json.isUnicode_print (Abi.style writing pretty indent) f.abi.document_isPlain
  rw [← List.append_nil (Json.print _ _)] at hsize hunicode ⊢
  exact Source.run_decode_print (Function.all_abi hwidths) hfit hnesting _ Json.reads_nil
    Json.separates_nil (Source.octets?_text hunicode) strict hsize

/-- A function with a name that stands twice, parameters whose privacy is said by a list, a text and
a zero, and one declared input fewer than it has parameters. -/
def oddFunction : Function where
  name := "main"
  parameters := [⟨"a", .field, .list []⟩, ⟨"a", .array .bool 2, .text "no"⟩,
    ⟨"b", .uint .w8 .whole, .real ⟨true, 0, 0⟩⟩]
  signature := ⟨[.field, .array .bool 2], [.struct "S" [("x", .field)]]⟩

/-- A program with this function in its main module. -/
def oddProgram : Program := ⟨"m", [("other", []), ("m", [("main", oddFunction)])]⟩

theorem oddFunction_all :
    oddFunction.All SchemaType.WholeWidths ∧
      oddFunction.All (SchemaType.SizesBelow (10 ^ digitLimit)) := by
  have hbound : 2 < 10 ^ digitLimit := Decimal.lt_of_le_digitLimit (by decide)
  constructor <;>
    simp [Function.All, oddFunction, SchemaType.WholeWidths, SchemaType.SizesBelow,
      SchemaType.Everywhere, SchemaType.MembersEverywhere, hbound]

theorem derived_interface_published_odd :
    (oddProgram.entry none).run.run (.ofEnvironment []) = .ok oddFunction ∧
    ∃ a text, (oddProgram.abi none).run.run (.ofEnvironment []) = .ok a ∧
      a.inputs.map Input.disclosed = [true, false, true] ∧
      a.publicInputs.map (·.name.val) = ["a", "b"] ∧
      a.signature.equal oddFunction.signature = .ok false ∧
      (a.text true none).run.run (.ofEnvironment []) = .ok text ∧
      ((Source.text text).decode (some true)).run.run (.ofEnvironment []) = .ok a := by
  have hentry : (oddProgram.entry none).run.run (.ofEnvironment []) = .ok oddFunction := rfl
  obtain ⟨a, habi, -, -, -, hcompared, htexts⟩ := derived_interface_published hentry
  obtain rfl : oddFunction.abi = a := Except.ok.inj habi
  have hcalls : oddFunction.All fun t => t.calls ≤ callLimit := by constructor <;> decide
  obtain ⟨same, hsame, -, hiff⟩ := hcompared oddFunction_all.1 hcalls
  obtain rfl : same = false := by
    rw [← Bool.not_eq_true, hiff]
    exact nofun
  obtain ⟨text, htext, hdecode⟩ := htexts oddFunction_all.1 oddFunction_all.2 (by decide) true none
    (some true) (.ofEnvironment []) (.ofEnvironment [])
  refine ⟨hentry, _, text, habi, rfl, rfl, hsame, htext, hdecode ?_⟩
  have hfit := Abi.numbersFit_document (Function.all_abi oddFunction_all.2)
  rw [Abi.run_text hfit (by decide)] at htext
  cases htext
  decide +kernel

end CircuitAbi

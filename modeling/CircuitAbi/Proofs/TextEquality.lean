import CircuitAbi.Proofs.Outcome
import CircuitAbi.Proofs.RoundTrip

/-!
# Equal interfaces and equal texts

When two types, or two interfaces, have the same text, and when comparing them finds them equal.

* `Json.print_injective` — a text is the text of one value only; no limit on nesting is needed,
  for the tokens of a value cannot go on.
* `SchemaType.entries_injective`, `Abi.document_injective` — a document is that of one type or
  interface only.
* `SchemaType.whole` — a type with all its widths given as whole numbers; comparison sees no more of
  a type than this (`SchemaType.decides_equal`).

Principal result: texts are the same exactly when types are, and comparison agrees with that where
all widths are whole (`same_text_iff_equal`), but not for a width given as a real number
(`real_width_text_differs`).
-/

set_option autoImplicit false

namespace CircuitAbi

/-! ## A text is the text of one value -/

namespace Json

/-- The first token of a value. -/
def firstToken : Value → Token
  | .bool b => .bool b
  | .int n => .int n
  | .real x => .real x
  | .text t => .text (.ok t)
  | .list _ => .openArray
  | .object _ => .openObject
  | _ => .null

theorem head?_valueTokens (v : Value) (rest : List Token) :
    (valueTokens v ++ rest).head? = some (firstToken v) := by
  cases v with
  | list items => cases items <;> rfl
  | object entries => cases entries <;> rfl
  | _ => rfl

theorem firstToken_eq {v w : Value} {rest rest' : List Token}
    (h : valueTokens v ++ rest = valueTokens w ++ rest') : firstToken v = firstToken w := by
  have hhead := congrArg List.head? h
  rwa [head?_valueTokens, head?_valueTokens, Option.some.injEq] at hhead

/-- No value begins where a container ends. -/
theorem valueTokens_ne_closeArray {v : Value} {rest rest' : List Token} :
    valueTokens v ++ rest ≠ .closeArray :: rest' := by
  intro h
  have hhead := congrArg List.head? h
  rw [head?_valueTokens] at hhead
  cases v <;> cases hhead

mutual

/-- The tokens of a value tell where it ends and which value it is. -/
theorem valueTokens_inj : ∀ {v w : Value} {rest rest' : List Token}, v.IsJson → w.IsJson →
    valueTokens v ++ rest = valueTokens w ++ rest' → v = w ∧ rest = rest'
  | .null, w, rest, rest', _, hw, h => by
    cases w <;> cases firstToken_eq h
    · exact ⟨rfl, List.append_cancel_left h⟩
    · exact hw.elim
    · exact hw.elim
  | .bool b, w, rest, rest', _, _, h => by
    cases w <;> cases firstToken_eq h
    exact ⟨rfl, List.append_cancel_left h⟩
  | .int n, w, rest, rest', _, _, h => by
    cases w <;> cases firstToken_eq h
    exact ⟨rfl, List.append_cancel_left h⟩
  | .real x, w, rest, rest', _, _, h => by
    cases w <;> cases firstToken_eq h
    exact ⟨rfl, List.append_cancel_left h⟩
  | .text t, w, rest, rest', _, _, h => by
    cases w <;> cases firstToken_eq h
    exact ⟨rfl, List.append_cancel_left h⟩
  | .bytes _, _, _, _, hv, _, _ => hv.elim
  | .type _, _, _, _, hv, _, _ => hv.elim
  | .list vs, w, rest, rest', hv, hw, h => by
    cases w <;> cases firstToken_eq h
    rename_i ws
    match vs, ws with
    | [], [] => exact ⟨rfl, List.append_cancel_left h⟩
    | [], w :: ws =>
      simp only [valueTokens, List.cons_append, List.append_assoc, List.cons.injEq] at h
      exact absurd h.2.symm valueTokens_ne_closeArray
    | v :: vs, [] =>
      simp only [valueTokens, List.cons_append, List.append_assoc, List.cons.injEq] at h
      exact absurd h.2 valueTokens_ne_closeArray
    | v :: vs, w :: ws =>
      simp only [valueTokens, List.cons_append, List.append_assoc, List.cons.injEq, true_and] at h
      obtain ⟨rfl, hitems⟩ := valueTokens_inj hv.1 hw.1 h
      obtain ⟨rfl, hrest⟩ := itemTokens_inj hv.2 hw.2 hitems
      exact ⟨rfl, hrest⟩
  | .object es, w, rest, rest', hv, hw, h => by
    cases w <;> cases firstToken_eq h
    rename_i ds
    match es, ds with
    | [], [] => exact ⟨rfl, List.append_cancel_left h⟩
    | [], (k, w) :: ds => simp [valueTokens] at h
    | (k, v) :: es, [] => simp [valueTokens] at h
    | (k, v) :: es, (k', w) :: ds =>
      simp only [valueTokens, List.cons_append, List.append_assoc, List.cons.injEq, true_and,
        Token.text.injEq, Except.ok.injEq] at h
      obtain ⟨rfl, h⟩ := h
      obtain ⟨rfl, hentries⟩ := valueTokens_inj hv.2.1 hw.2.1 h
      obtain ⟨rfl, hrest⟩ := entryTokens_inj hv.2.2 hw.2.2 hentries
      exact ⟨rfl, hrest⟩

theorem itemTokens_inj : ∀ {vs ws : List Value} {rest rest' : List Token}, Value.ItemsJson vs →
    Value.ItemsJson ws →
    itemTokens vs ++ ([.closeArray] ++ rest) = itemTokens ws ++ ([.closeArray] ++ rest') →
      vs = ws ∧ rest = rest'
  | [], [], _, _, _, _, h => ⟨rfl, List.append_cancel_left h⟩
  | [], w :: ws, _, _, _, _, h => by simp [itemTokens] at h
  | v :: vs, [], _, _, _, _, h => by simp [itemTokens] at h
  | v :: vs, w :: ws, rest, rest', hv, hw, h => by
    simp only [itemTokens, List.cons_append, List.append_assoc, List.cons.injEq, true_and] at h
    obtain ⟨rfl, hitems⟩ := valueTokens_inj hv.1 hw.1 h
    obtain ⟨rfl, hrest⟩ := itemTokens_inj hv.2 hw.2 hitems
    exact ⟨rfl, hrest⟩

theorem entryTokens_inj : ∀ {es ds : List (Text × Value)} {rest rest' : List Token},
    Value.EntriesJson es → Value.EntriesJson ds →
    entryTokens es ++ ([.closeObject] ++ rest) = entryTokens ds ++ ([.closeObject] ++ rest') →
      es = ds ∧ rest = rest'
  | [], [], _, _, _, _, h => ⟨rfl, List.append_cancel_left h⟩
  | [], (k, w) :: ds, _, _, _, _, h => by simp [entryTokens] at h
  | (k, v) :: es, [], _, _, _, _, h => by simp [entryTokens] at h
  | (k, v) :: es, (k', w) :: ds, rest, rest', hv, hw, h => by
    simp only [entryTokens, List.cons_append, List.append_assoc, List.cons.injEq, true_and,
      Token.text.injEq, Except.ok.injEq] at h
    obtain ⟨rfl, h⟩ := h
    obtain ⟨rfl, hentries⟩ := valueTokens_inj hv.1 hw.1 h
    obtain ⟨rfl, hrest⟩ := entryTokens_inj hv.2 hw.2 hentries
    exact ⟨rfl, hrest⟩

end

/-- **A text is the text of one value.** -/
theorem print_injective (s : Style) {v w : Value} (hv : v.IsPlain) (hw : w.IsPlain)
    (hvfit : numbersFit v = true) (hwfit : numbersFit w = true) (h : print s v = print s w) :
    v = w := by
  have htokens : valueTokens v ++ [] = valueTokens w ++ [] := by
    rw [← lex_print s hv hvfit reads_nil separates_nil, h,
      lex_print s hw hwfit reads_nil separates_nil]
  exact (valueTokens_inj hv.isJson hw.isJson htokens).1

end Json

/-! ## A document is that of one type -/

namespace SchemaType

/-- The first letter of the word that marks a type, which tells the kinds apart. -/
def initial : SchemaType → CodePoint
  | field => 102
  | bool => 98
  | uint _ _ => 117
  | array _ _ => 97
  | struct _ _ => 115

theorem head?_kind (t : SchemaType) : t.kind.head? = some t.initial := by
  cases t <;> rfl

theorem initial_eq_of_kind {t u : SchemaType} (h : t.kind = u.kind) : t.initial = u.initial := by
  have heq := congrArg List.head? h
  rwa [head?_kind, head?_kind, Option.some.injEq] at heq

theorem kind_eq_of_entries {t u : SchemaType} (h : t.entries = u.entries) : t.kind = u.kind := by
  have hhead (t : SchemaType) : t.entries.head? = some (("type" : Text), Value.text t.kind) := by
    cases t <;> rfl
  have heq := congrArg List.head? h
  simpa only [hhead, Option.some.injEq, Prod.mk.injEq, Value.text.injEq, true_and] using heq

theorem initial_eq_of_entries {t u : SchemaType} (h : t.entries = u.entries) :
    t.initial = u.initial :=
  initial_eq_of_kind (kind_eq_of_entries h)

theorem kind_uint_inj {w w' : Width} {form form' : NumberForm}
    (h : kind (.uint w form) = kind (.uint w' form')) : w = w' ∧ form = form' := by
  revert h
  cases w <;> cases w' <;> cases form <;> cases form' <;> decide

mutual

/-- The entries of a document are those of one type. -/
theorem entries_injective : ∀ {t u : SchemaType}, t.entries = u.entries → t = u
  | .field, u, h => by
    cases u <;> cases initial_eq_of_entries h
    rfl
  | .bool, u, h => by
    cases u <;> cases initial_eq_of_entries h
    rfl
  | .uint w form, u, h => by
    cases u <;> cases initial_eq_of_entries h
    obtain ⟨rfl, rfl⟩ := kind_uint_inj (kind_eq_of_entries h)
    rfl
  | .array element size, u, h => by
    cases u <;> cases initial_eq_of_entries h
    simp only [entries, List.cons.injEq, Prod.mk.injEq, Value.object.injEq, Value.int.injEq,
      true_and, and_true, Int.ofNat_inj] at h
    rw [h.1, entries_injective h.2]
  | .struct name members, u, h => by
    cases u <;> cases initial_eq_of_entries h
    simp only [entries, List.cons.injEq, Prod.mk.injEq, Value.object.injEq, Value.text.injEq,
      Value.list.injEq, true_and, and_true] at h
    rw [Subtype.ext h.1, memberDocuments_injective h.2]

theorem memberDocuments_injective : ∀ {ms ns : List (Name × SchemaType)},
    memberDocuments ms = memberDocuments ns → ms = ns
  | [], [], _ => rfl
  | [], _ :: _, h => by cases h
  | _ :: _, [], h => by cases h
  | (name, t) :: ms, (name', t') :: ns, h => by
    simp only [memberDocuments, List.cons.injEq, Prod.mk.injEq, Value.object.injEq,
      Value.text.injEq, true_and] at h
    obtain ⟨⟨hname, ht⟩, hms⟩ := h
    rw [Subtype.ext hname, entries_injective ht, memberDocuments_injective hms]

end

theorem document_injective : Function.Injective document :=
  fun _ _ h => entries_injective (Value.object.inj h)

end SchemaType

theorem Input.document_injective : Function.Injective Input.document := by
  rintro ⟨name, disclosed, t⟩ ⟨name', disclosed', t'⟩ h
  simp only [Input.document, List.cons.injEq, Prod.mk.injEq, Value.object.injEq, Value.text.injEq,
    Value.bool.injEq, true_and] at h
  obtain ⟨hname, hdisclosed, ht⟩ := h
  rw [Subtype.ext hname, hdisclosed, SchemaType.entries_injective ht]

/-- **A document is that of one interface.** -/
theorem Abi.document_injective : Function.Injective Abi.document := by
  rintro ⟨inputs, outputs⟩ ⟨inputs', outputs'⟩ h
  simp only [Abi.document, List.cons.injEq, Prod.mk.injEq, Value.object.injEq, Value.list.injEq,
    true_and, and_true] at h
  rw [List.map_injective_iff.2 Input.document_injective h.1,
    List.map_injective_iff.2 SchemaType.document_injective h.2]

/-! ## What comparison sees -/

/-- A comparison comes to an end, and tells whether a statement holds. -/
def Decides (comparison : Except Limit Bool) (p : Prop) : Prop :=
  ∃ same, comparison = .ok same ∧ (same = true ↔ p)

namespace Decides

theorem of_decidable (p : Prop) [Decidable p] : Decides (return p) p :=
  ⟨decide p, rfl, decide_eq_true_iff⟩

theorem congr {x : Except Limit Bool} {p q : Prop} (h : Decides x p) (hpq : p ↔ q) :
    Decides x q := by
  obtain ⟨same, hx, hsame⟩ := h
  exact ⟨same, hx, hsame.trans hpq⟩

/-- One comparison after another, if the first finds no difference. -/
theorem and {x y : Except Limit Bool} {p q : Prop} (hx : Decides x p) (hy : Decides y q) :
    Decides (do if ← x then y else return false) (p ∧ q) := by
  obtain ⟨same, rfl, hsame⟩ := hx
  cases same with
  | true =>
    obtain ⟨again, rfl, hagain⟩ := hy
    exact ⟨again, rfl, hagain.trans (and_iff_right (hsame.1 rfl)).symm⟩
  | false => exact ⟨false, rfl, iff_of_false Bool.false_ne_true fun h => nomatch hsame.2 h.1⟩

theorem ite {y : Except Limit Bool} {p q : Prop} [Decidable p] (hy : Decides y q) :
    Decides (if p then y else return false) (p ∧ q) := by
  by_cases hp : p
  · rw [if_pos hp]
    exact hy.congr (and_iff_right hp).symm
  · rw [if_neg hp]
    exact ⟨false, rfl, iff_of_false Bool.false_ne_true fun h => hp h.1⟩

end Decides

/-- Sequences agree when what the comparison sees of their members does. -/
theorem decides_pairwiseEqual {α β : Type} {same : α → α → Except Limit Bool} {seen : α → β}
    {xs : List α} (h : ∀ x ∈ xs, ∀ y, Decides (same x y) (seen x = seen y)) (ys : List α) :
    Decides (pairwiseEqual same xs ys) (xs.map seen = ys.map seen) := by
  induction xs generalizing ys with
  | nil => cases ys <;> exact ⟨_, rfl, by simp⟩
  | cons x xs ih =>
    obtain ⟨hx, hxs⟩ := List.forall_mem_cons.1 h
    cases ys with
    | nil => exact ⟨_, rfl, by simp⟩
    | cons y ys =>
      refine ((hx y).and (ih hxs ys)).congr ?_
      rw [List.map_cons, List.map_cons, List.cons.injEq]

namespace SchemaType

mutual

/-- The type with all its widths given as whole numbers. -/
def whole : SchemaType → SchemaType
  | field => field
  | bool => bool
  | uint width _ => uint width .whole
  | array element size => array element.whole size
  | struct name members => struct name (membersWhole members)
termination_by structural t => t

/-- The members with all widths given as whole numbers. -/
def membersWhole : List (Name × SchemaType) → List (Name × SchemaType)
  | [] => []
  | (name, t) :: rest => (name, t.whole) :: membersWhole rest
termination_by structural ms => ms

end

mutual

theorem whole_of_wholeWidths : ∀ {t : SchemaType}, t.WholeWidths → t.whole = t
  | .field, _ => rfl
  | .bool, _ => rfl
  | .uint _ _, h => by rw [whole, wholeWidths_uint.1 h]
  | .array _ _, h => by rw [whole, whole_of_wholeWidths (wholeWidths_array.1 h)]
  | .struct _ _, h => by rw [whole, membersWhole_of_everywhere h.2]

theorem membersWhole_of_everywhere : ∀ {ms : List (Name × SchemaType)},
    MembersEverywhere (fun t => ∀ w, t ≠ .uint w .real) ms → membersWhole ms = ms
  | [], _ => rfl
  | (_, _) :: _, h => by rw [membersWhole, whole_of_wholeWidths h.1, membersWhole_of_everywhere h.2]

end

mutual

/-- With room for the calls that one of them takes, comparing two types tells whether they are the
same but for the form of widths. -/
theorem decides_equalWithin : ∀ (a b : SchemaType) {room : Nat}, a.calls ≤ room →
    Decides (a.equalWithin room b) (a.whole = b.whole)
  | .field, b, room, hcalls => by
    cases b <;> exact ⟨_, withCalls_of_le hcalls _, by simp [whole]⟩
  | .bool, b, room, hcalls => by
    cases b <;> exact ⟨_, withCalls_of_le hcalls _, by simp [whole]⟩
  | .uint w form, b, room, hcalls => by
    cases b <;> exact ⟨_, withCalls_of_le hcalls _, by simp [whole]⟩
  | .array element size, b, room, hcalls => by
    rw [calls] at hcalls
    cases b with
    | array element' size' =>
      have helement := decides_equalWithin element element' (Nat.le_sub_of_add_le hcalls)
      rw [equalWithin, withCalls_of_le (Nat.le_of_add_left_le hcalls)]
      refine (helement.and (.of_decidable (size = size'))).congr ?_
      simp [whole]
    | _ => exact ⟨_, withCalls_of_le (by omega) _, by simp [whole]⟩
  | .struct name members, b, room, hcalls => by
    rw [calls] at hcalls
    cases b with
    | struct name' members' =>
      have hmembers := decides_membersEqual members members' (Nat.le_sub_of_add_le hcalls)
      rw [equalWithin, withCalls_of_le (Nat.le_of_add_left_le hcalls)]
      refine (Decides.ite (p := name = name') hmembers).congr ?_
      simp [whole]
    | _ => exact ⟨_, withCalls_of_le (by omega) _, by simp [whole]⟩

theorem decides_membersEqual : ∀ (ms ms' : List (Name × SchemaType)) {room : Nat},
    membersCalls ms ≤ room →
    Decides (membersEqual room ms ms') (membersWhole ms = membersWhole ms')
  | [], ms', room, _ => by
    cases ms' <;> exact ⟨_, rfl, by simp [membersWhole]⟩
  | (name, t) :: ms, [], room, _ => ⟨_, rfl, by simp [membersWhole]⟩
  | (name, t) :: ms, (name', t') :: ms', room, hcalls => by
    rw [membersCalls, Nat.max_le] at hcalls
    have ht := decides_equalWithin t t' hcalls.1
    have hms := decides_membersEqual ms ms' hcalls.2
    refine (Decides.ite (p := name = name') (ht.and hms)).congr ?_
    simp [membersWhole, and_assoc]

end

/-- **What comparison sees of types**: everything but the form of widths. -/
theorem decides_equal {a : SchemaType} (hcalls : a.calls ≤ callLimit) (b : SchemaType) :
    Decides (a.equal b) (a.whole = b.whole) :=
  decides_equalWithin a b hcalls

end SchemaType

/-- The input with all widths of its type given as whole numbers. -/
def Input.whole (i : Input) : Input := { i with type := i.type.whole }

theorem Input.decides_equal {i : Input} (hcalls : i.type.calls ≤ callLimit) (j : Input) :
    Decides (i.equal j) (i.whole = j.whole) := by
  refine (Decides.ite (SchemaType.decides_equal hcalls j.type)).congr ?_
  rw [Input.whole, Input.whole, Input.mk.injEq, and_assoc]

namespace Abi

/-- The interface with all widths given as whole numbers. -/
def whole (a : Abi) : Abi := ⟨a.inputs.map Input.whole, a.outputs.map SchemaType.whole⟩

theorem whole_of_wholeWidths {a : Abi} (h : a.All SchemaType.WholeWidths) : a.whole = a := by
  have hinputs : a.inputs.map Input.whole = a.inputs.map id := by
    refine List.map_congr_left fun i hi => ?_
    rw [Input.whole, SchemaType.whole_of_wholeWidths (h.1 i hi), id]
  have houtputs : a.outputs.map SchemaType.whole = a.outputs.map id :=
    List.map_congr_left fun t ht => SchemaType.whole_of_wholeWidths (h.2 t ht)
  rw [whole, hinputs, houtputs, List.map_id, List.map_id]

/-- **What comparison sees of interfaces**: everything but the form of widths. -/
theorem decides_equal {a : Abi} (hcalls : a.All fun t => t.calls ≤ callLimit) (b : Abi) :
    Decides (a.equal b) (a.whole = b.whole) := by
  have hinputs := decides_pairwiseEqual (fun i hi => Input.decides_equal (hcalls.1 i hi)) b.inputs
  have houtputs :=
    decides_pairwiseEqual (fun t ht => SchemaType.decides_equal (hcalls.2 t ht)) b.outputs
  refine (hinputs.and houtputs).congr ?_
  rw [whole, whole, Abi.mk.injEq]

end Abi

/-! ## Texts -/

/-- The compact text of the document of a type. -/
def SchemaType.compactText (t : SchemaType) : Except Failure Text := do
  Failure.ofLimit (Json.print? .compact (← (Value.type t).typeDocument))

theorem SchemaType.compactText_eq {t : SchemaType} (hnesting : t.document.nesting ≤ nestingLimit)
    (hfit : Json.numbersFit t.document = true) :
    t.compactText = .ok (Json.print .compact t.document) := by
  have hdepth : t.depth ≤ nestingLimit := Nat.le_trans t.depth_le_nesting hnesting
  have hdocument : (Value.type t).typeDocument = .ok t.document := if_neg (Nat.not_lt.2 hdepth)
  rw [compactText, hdocument, ok_bind, Json.print?_eq_ok _ hfit hnesting]
  rfl

/-- Where things have documents of their own, and numbers fit, they have texts of their own. -/
theorem print_document_eq_iff {α : Type} {document : α → Value} {a b : α}
    (hinjective : Function.Injective document) (hplain : ∀ x, (document x).IsPlain)
    (ha : Json.numbersFit (document a) = true) (hb : Json.numbersFit (document b) = true) :
    Json.print .compact (document a) = Json.print .compact (document b) ↔ a = b := by
  constructor
  · intro h
    exact hinjective (Json.print_injective _ (hplain a) (hplain b) ha hb h)
  · rintro rfl
    rfl

/-- **The same text and equality.** For types and interfaces within the limits on calls and on
digits there are texts and comparison comes to an end. The texts are the same exactly when the types
are, and comparison finds types equal that are the same but for the form of widths; so where all
widths are whole, equal types are those with the same text. -/
theorem same_text_iff_equal (a b : SchemaType) (x y : Abi) (c : Config) :
    (a.calls ≤ callLimit → b.calls ≤ callLimit →
      a.SizesBelow (10 ^ digitLimit) → b.SizesBelow (10 ^ digitLimit) →
      ∃ t u, a.compactText = .ok t ∧ b.compactText = .ok u ∧ (t = u ↔ a = b) ∧
        Decides (a.equal b) (a.whole = b.whole) ∧
        (a.WholeWidths → b.WholeWidths → Decides (a.equal b) (t = u))) ∧
    ((x.All fun t => t.calls ≤ callLimit) → (y.All fun t => t.calls ≤ callLimit) →
      x.All (SchemaType.SizesBelow (10 ^ digitLimit)) →
      y.All (SchemaType.SizesBelow (10 ^ digitLimit)) →
      ∃ t u, (x.text false none).run.run c = .ok t ∧ (y.text false none).run.run c = .ok u ∧
        (t = u ↔ x = y) ∧ Decides (x.equal y) (x.whole = y.whole) ∧
        (x.All SchemaType.WholeWidths → y.All SchemaType.WholeWidths →
          Decides (x.equal y) (t = u))) := by
  refine ⟨fun ha hb hasizes hbsizes => ?_, fun hx hy hxsizes hysizes => ?_⟩
  · have hafit : Json.numbersFit a.document = true := a.entriesFit_entries_iff.2 hasizes
    have hbfit : Json.numbersFit b.document = true := b.entriesFit_entries_iff.2 hbsizes
    have hsame := print_document_eq_iff SchemaType.document_injective SchemaType.document_isPlain
      hafit hbfit
    have hequal := SchemaType.decides_equal ha b
    have hnesting {t : SchemaType} (ht : t.calls ≤ callLimit) : t.document.nesting ≤ nestingLimit :=
      Nat.le_trans (SchemaType.document_nesting_le ht) (Nat.div_le_self _ _)
    refine ⟨_, _, SchemaType.compactText_eq (hnesting ha) hafit,
      SchemaType.compactText_eq (hnesting hb) hbfit, hsame, hequal, fun hawhole hbwhole => ?_⟩
    rw [SchemaType.whole_of_wholeWidths hawhole, SchemaType.whole_of_wholeWidths hbwhole] at hequal
    exact hequal.congr hsame.symm
  · have hxfit := Abi.numbersFit_document hxsizes
    have hyfit := Abi.numbersFit_document hysizes
    have hsame :=
      print_document_eq_iff Abi.document_injective Abi.document_isPlain hxfit hyfit
    have hequal := Abi.decides_equal hx y
    refine ⟨_, _, Abi.run_text hxfit (Abi.document_nesting_le hx) false none c,
      Abi.run_text hyfit (Abi.document_nesting_le hy) false none c, hsame, hequal,
      fun hxwhole hywhole => ?_⟩
    rw [Abi.whole_of_wholeWidths hxwhole, Abi.whole_of_wholeWidths hywhole] at hequal
    exact hequal.congr hsame.symm

/-- Three pairs of field elements. -/
def threePairs : SchemaType := .array (.array .field 2) 3

/-- Two triples of field elements. -/
def twoTriples : SchemaType := .array (.array .field 3) 2

theorem sizesBelow_pairs :
    threePairs.SizesBelow (10 ^ digitLimit) ∧ twoTriples.SizesBelow (10 ^ digitLimit) := by
  have hbound (n : Nat) (h : n ≤ 3) : n < 10 ^ digitLimit :=
    Nat.lt_of_le_of_lt h (by decide +kernel)
  simp [threePairs, twoTriples, SchemaType.SizesBelow, SchemaType.Everywhere, hbound]

theorem same_text_iff_equal_pairs :
    (threePairs.calls ≤ callLimit ∧ twoTriples.calls ≤ callLimit ∧
      threePairs.SizesBelow (10 ^ digitLimit) ∧ twoTriples.SizesBelow (10 ^ digitLimit) ∧
      threePairs.WholeWidths ∧ twoTriples.WholeWidths) ∧
    (∃ t u, threePairs.compactText = .ok t ∧ twoTriples.compactText = .ok u ∧ t ≠ u ∧
      threePairs.equal twoTriples = .ok false) ∧
    (thornyInterface.All (fun t => t.calls ≤ callLimit) ∧
      thornyInterface.All (SchemaType.SizesBelow (10 ^ digitLimit)) ∧
      thornyInterface.All SchemaType.WholeWidths) ∧
    thornyInterface.equal thornyInterface = .ok true := by
  have hcalls : threePairs.calls ≤ callLimit ∧ twoTriples.calls ≤ callLimit := by decide
  have hwidths : threePairs.WholeWidths ∧ twoTriples.WholeWidths := by
    simp [threePairs, twoTriples]
  have hthorny : thornyInterface.All fun t => t.calls ≤ callLimit := by
    constructor <;> decide
  obtain ⟨htypes, hinterfaces⟩ := same_text_iff_equal threePairs twoTriples thornyInterface
    thornyInterface (Config.ofEnvironment [])
  refine ⟨⟨hcalls.1, hcalls.2, sizesBelow_pairs.1, sizesBelow_pairs.2, hwidths.1, hwidths.2⟩, ?_,
    ⟨hthorny, thornyInterface_sizesBelow, thornyInterface_wholeWidths⟩, ?_⟩
  · obtain ⟨t, u, ht, hu, hsame, -, hequal⟩ :=
      htypes hcalls.1 hcalls.2 sizesBelow_pairs.1 sizesBelow_pairs.2
    have hne : t ≠ u := fun h => nomatch hsame.1 h
    obtain ⟨same, heq, hiff⟩ := hequal hwidths.1 hwidths.2
    cases same with
    | true => exact absurd (hiff.1 rfl) hne
    | false => exact ⟨t, u, ht, hu, hne, heq⟩
  · obtain ⟨t, u, -, -, hsame, -, hequal⟩ :=
      hinterfaces hthorny hthorny thornyInterface_sizesBelow thornyInterface_sizesBelow
    obtain ⟨same, heq, hiff⟩ := hequal thornyInterface_wholeWidths thornyInterface_wholeWidths
    rw [heq, hiff.2 (hsame.2 rfl)]

/-- A width may be given as a real number. The type equals the one of the whole number and has
another text, as types and as outputs of an interface. -/
theorem real_width_text_differs :
    SchemaType.ofWidth (.int 8) = .ok (.uint .w8 .whole) ∧
    (∃ x, Binary64.ofDecimal? false 8 0 = some x ∧
      SchemaType.ofWidth (.real x) = .ok (.uint .w8 .real)) ∧
    SchemaType.equal (.uint .w8 .whole) (.uint .w8 .real) = .ok true ∧
    SchemaType.compactText (.uint .w8 .whole) = .ok (Text.ofString "\x7b\"type\":\"u8\"\x7d") ∧
    SchemaType.compactText (.uint .w8 .real) = .ok (Text.ofString "\x7b\"type\":\"u8.0\"\x7d") ∧
    Abi.equal ⟨[], [.uint .w8 .whole]⟩ ⟨[], [.uint .w8 .real]⟩ = .ok true ∧
    (Abi.text ⟨[], [.uint .w8 .whole]⟩ false none).run.run (Config.ofEnvironment []) ≠
      (Abi.text ⟨[], [.uint .w8 .real]⟩ false none).run.run (Config.ofEnvironment []) := by
  have htext (form : NumberForm) :
      (Abi.text ⟨[], [.uint .w8 form]⟩ false none).run.run (Config.ofEnvironment []) =
        .ok (Json.print .compact (Abi.document ⟨[], [.uint .w8 form]⟩)) := by
    cases form <;> rfl
  refine ⟨rfl, ⟨⟨false, 4503599627370496, -49⟩, by decide +kernel, rfl⟩, rfl, rfl, rfl, rfl, ?_⟩
  rw [htext, htext]
  exact fun h => absurd (Except.ok.inj h) (by decide)

end CircuitAbi

import CircuitAbi.Command.Run
import CircuitAbi.Proofs.ArgumentNumeral
import CircuitAbi.Proofs.KeyOrder
import CircuitAbi.Proofs.RoundTrip

/-!
# Refusals and limits

Text that is no list of arguments for a signature is refused with a place, or runs into a limit. A
limit is met only for one of three reasons: the text nests too far to be read or to be checked, a
field element has too many digits, or the signature has an array whose size cannot be printed.

* `Source.run_decode_cases` — text that is no document is refused.
* `Checking.limitedBy_argument` — against a type, a value that was read meets only a limit that its
  nesting, the digits of a text in it or a size in the type exceed.
* `Source.Exceeds` — the three reasons.

Principal result: `argument_parsing_outcome`, for arguments and for the command that checks a file
of them. That limits are met at all is `limits_escape_refusal`.
-/

set_option autoImplicit false

namespace CircuitAbi

/-! ## Documents -/

/-- A document whose numbers can be printed meets no other limit than that on nesting. -/
theorem Decoding.eq_nesting_of_abi {strict : Bool} {v : Value} {l : Limit} (hjson : v.IsJson)
    (hfit : Json.numbersFit v = true) (h : abi strict v = .error (.limit l)) : l = .nesting := by
  -- The document agrees with itself, and agreement at a limit says which one it is.
  have hself : Agrees True Eq (abi strict v) (abi strict v) :=
    abi_agrees (.refl hjson fun _ => hfit) strict
  rw [h] at hself
  cases hself with
  | error hstop =>
    cases hstop with
    | limit hl => exact hl trivial

/-- A value that was read is decoded or refused. -/
theorem Value.decodeAbi_cases {room : Nat} {v : Value} (h : v.Readable room) (strict : Bool) :
    (∃ a, v.decodeAbi strict = .ok a) ∨ ∃ e, v.decodeAbi strict = .error (.decode e) := by
  unfold decodeAbi
  cases habi : Decoding.abi strict v with
  | ok a => exact .inl ⟨a, rfl⟩
  | error stop =>
    cases stop with
    | fault path fault => exact .inr ⟨_, rfl⟩
    | name owner => exact .inr ⟨_, rfl⟩
    | limit l =>
      rw [Decoding.eq_nesting_of_abi h.json h.within.numbers habi]
      exact .inr ⟨_, rfl⟩

/-- Text is decoded or refused. -/
theorem Source.run_decode_cases (source : Source) (strict : Option Bool) (c : Config) :
    (∃ a, (source.decode strict).run.run c = .ok a) ∨
      ∃ e, (source.decode strict).run.run c = .error (.decode e) := by
  show (∃ a, source.decodeWith c strict = .ok a) ∨
    ∃ e, source.decodeWith c strict = .error (.decode e)
  unfold decodeWith
  split
  · exact .inr ⟨_, rfl⟩
  · split
    · exact .inr ⟨_, rfl⟩
    · split
      · exact .inr ⟨_, rfl⟩
      · exact .inr ⟨_, rfl⟩
      · exact .inr ⟨_, rfl⟩
      · rename_i hparse
        exact Value.decodeAbi_cases (Json.readable_of_parse hparse) _

/-! ## Checking -/

/-- A text in the value is a decimal numeral of so many digits, with or without a newline behind
it. -/
def Value.HoldsNumeral (digits : Nat) (v : Value) : Prop :=
  ∃ (path : List Accessor) (numeral ending : Text),
    v.resolve? path = some (.text (numeral ++ ending)) ∧ Decimal.IsNumeral numeral ∧
      Numeral.Ending ending ∧ numeral.length = digits

theorem Value.HoldsNumeral.of_follow? {step : Accessor} {v part : Value} {digits : Nat}
    (hstep : step.follow? v = some part) (h : part.HoldsNumeral digits) :
    v.HoldsNumeral digits := by
  obtain ⟨path, numeral, ending, hresolve, hrest⟩ := h
  refine ⟨step :: path, numeral, ending, ?_, hrest⟩
  rw [Value.resolve?, hstep]
  exact hresolve

/-- A part of a value nests less far. -/
theorem Value.nesting_lt_of_follow? {step : Accessor} {v part : Value}
    (h : step.follow? v = some part) : part.nesting < v.nesting := by
  cases step with
  | key name =>
    cases v with
    | object es =>
      exact Nat.lt_succ_of_le (Value.nesting_le_entriesNesting (Entries.mem_of_get? h))
    | _ => cases h
  | index i =>
    cases v with
    | list vs => exact Nat.lt_succ_of_le (Value.nesting_le_itemsNesting (List.mem_of_getElem? h))
    | _ => cases h

/-- Why a value that was read meets a limit when it is checked down to a number of levels: for its
nesting, for its digits, or because a size cannot be printed, where `large` says that there is such
a size. -/
def Value.Cause (v : Value) (room : Nat) (large : Prop) : Limit → Prop
  | .nesting => room ≤ v.nesting
  | .printing => large
  | .reading digits => digitLimit < digits ∧ v.HoldsNumeral digits

theorem Value.Cause.of_follow? {step : Accessor} {v part : Value} {room : Nat}
    {large larger : Prop} {l : Limit} (hstep : step.follow? v = some part)
    (hlarge : large → larger) (h : part.Cause room large l) : v.Cause (room + 1) larger l := by
  cases l with
  | nesting => exact Nat.lt_of_le_of_lt h (nesting_lt_of_follow? hstep)
  | printing => exact hlarge h
  | reading digits => exact ⟨h.1, h.2.of_follow? hstep⟩

/-- A limit that was met has a cause. -/
def CheckStop.HasCause (cause : Limit → Prop) : CheckStop → Prop
  | .fault _ _ => True
  | .limit l => cause l

namespace Checking

variable {α : Type} {cause : Limit → Prop} {v : Value}

/-- Checking meets only limits that have a cause. -/
abbrev LimitedBy (cause : Limit → Prop) (x : Checking α) : Prop :=
  FailsWith (CheckStop.HasCause cause) x

theorem limitedBy_fail (fault : ArgumentFault) : LimitedBy cause (fail fault : Checking α) :=
  .error trivial

theorem limitedBy_within {cause' : Limit → Prop} {x : Checking α} (h : LimitedBy cause x)
    (hcause : ∀ l, cause l → cause' l) (step : Accessor) : LimitedBy cause' (within step x) := by
  match x with
  | .ok a => exact .ok a
  | .error (.fault _ _) => exact .error trivial
  | .error (.limit l) => exact .error (hcause l (h _ rfl))

/-- A value that was read, with a container around it, can be shown. -/
theorem limitedBy_failShowing (h : v.Readable (nestingLimit - 1)) (fault : Text → ArgumentFault) :
    LimitedBy cause (failShowing v fault : Checking α) := by
  obtain ⟨shown, hshown⟩ := h.exists_displayWithin
  have hdisplay : v.display = .ok shown := hshown
  rw [failShowing, hdisplay]
  exact limitedBy_fail _

theorem limitedBy_failSized {size : Nat} (fault : ArgumentFault)
    (hcause : ¬ size < 10 ^ digitLimit → cause .printing) :
    LimitedBy cause (failSized size fault : Checking α) := by
  unfold failSized
  split
  · exact limitedBy_fail fault
  · rename_i hsize
    exact .error (hcause fun hlt => hsize (Decimal.fits_natCast_iff.2 hlt))

theorem limitedBy_inField (m n : Int) : LimitedBy cause (inField m n) := by
  unfold inField
  split
  · exact limitedBy_fail _
  · exact .ok _

theorem limitedBy_field (m : Int) (v : Value) (room : Nat) (large : Prop) :
    LimitedBy (v.Cause room large) (field m v) := by
  cases v with
  | text t =>
    rw [field]
    split
    · exact limitedBy_fail _
    · rename_i digits hdigits
      obtain ⟨hnumeral, ending, hending, rfl⟩ := Numeral.decimal?_eq_some_iff.1 hdigits
      split
      · rename_i hlong
        exact .error ⟨hlong, [], digits, ending, rfl, hnumeral, hending, rfl⟩
      · exact limitedBy_inField _ _
  | int n => exact limitedBy_inField m n
  | _ => exact limitedBy_fail _

theorem limitedBy_bool (h : v.Readable (nestingLimit - 1)) : LimitedBy cause (bool v) := by
  cases v with
  | bool b => exact .ok _
  | _ => exact limitedBy_failShowing h .notBoolean

theorem limitedBy_uint (h : v.Readable (nestingLimit - 1)) (width : Width) (form : NumberForm) :
    LimitedBy cause (uint width form v) := by
  cases v with
  | text t =>
    unfold uint
    dsimp only
    split
    · exact limitedBy_fail _
    · split
      · exact .ok _
      · exact limitedBy_fail _
  | _ =>
    exact limitedBy_failShowing h (.notHexadecimal (SchemaType.kind (.uint width form)))

theorem limitedBy_members {check : Value → SchemaType → Checking Argument} {struct : Name}
    {es : Entries} {done : List (Name × Argument)} {ms : List (Name × SchemaType)}
    (hcheck : ∀ name t v, (name, t) ∈ ms → es.get? name.val = some v →
      LimitedBy cause (within (.key name.val) (check v t))) :
    LimitedBy cause (members check struct es done ms) := by
  induction ms generalizing done with
  | nil => exact .ok done
  | cons member ms ih =>
    obtain ⟨name, t⟩ := member
    unfold members
    split
    · exact limitedBy_fail _
    · rename_i v hv
      refine (hcheck name t v List.mem_cons_self hv).bind fun a _ => ih ?_
      exact fun name' t' v' hmem => hcheck name' t' v' (List.mem_cons_of_mem _ hmem)

/-- The parts of a value that was read with a container around it were so too. -/
theorem readable_of_follow? {step : Accessor} {part : Value} (h : v.Readable (nestingLimit - 1))
    (hstep : step.follow? v = some part) : part.Readable (nestingLimit - 1) := by
  have hless {room : Nat} (hpart : part.Readable (room - 1)) : part.Readable room :=
    ⟨hpart.json, Nat.le_trans hpart.within.nesting (Nat.sub_le _ _), hpart.within.numbers⟩
  cases step with
  | key name =>
    cases v with
    | object es =>
      exact hless ((Value.readable_object_iff.1 h).2.2 part
        (List.mem_map_of_mem (Entries.mem_of_get? hstep)))
    | _ => cases hstep
  | index i =>
    cases v with
    | list vs => exact hless ((Value.readable_list_iff.1 h).2 part (List.mem_of_getElem? hstep))
    | _ => cases hstep

theorem limitedBy_argument {m : Int} {room : Nat} {t : SchemaType}
    (h : v.Readable (nestingLimit - 1)) :
    LimitedBy (v.Cause room (¬ t.SizesBelow (10 ^ digitLimit))) (argument m room v t) := by
  induction room generalizing v t with
  | zero => exact .error (Nat.zero_le _)
  | succ room ih =>
  cases t with
  | field => exact limitedBy_field m v _ _
  | bool => exact limitedBy_bool h
  | uint width form => exact limitedBy_uint h width form
  | array element size =>
    have hsize : ¬ size < 10 ^ digitLimit →
        ¬ (SchemaType.array element size).SizesBelow (10 ^ digitLimit) :=
      mt fun hsizes => (SchemaType.sizesBelow_array.1 hsizes).1
    have helement : ¬ element.SizesBelow (10 ^ digitLimit) →
        ¬ (SchemaType.array element size).SizesBelow (10 ^ digitLimit) :=
      mt fun hsizes => (SchemaType.sizesBelow_array.1 hsizes).2
    cases v with
    | list vs =>
      rw [argument_list]
      split
      · refine FailsWith.bind (.mapM fun x hx => ?_) fun items _ => .ok _
        obtain ⟨item, i⟩ := x
        have hstep : (Accessor.index i).follow? (.list vs) = some item :=
          List.mem_zipIdx_iff_getElem?.1 hx
        have hitem := ih (t := element) (readable_of_follow? h hstep)
        exact limitedBy_within hitem (fun l => .of_follow? hstep helement) _
      · exact limitedBy_failSized _ hsize
    | _ => exact limitedBy_failSized _ hsize
  | struct name ms =>
    cases v with
    | object es =>
      rw [argument_object]
      split
      · exact limitedBy_fail _
      · refine FailsWith.bind (limitedBy_members fun name' t v hmem hget => ?_) fun _ _ => .ok _
        have hstep : (Accessor.key name'.val).follow? (.object es) = some v := hget
        have hmember := ih (t := t) (readable_of_follow? h hstep)
        have hlarge : ¬ t.SizesBelow (10 ^ digitLimit) →
            ¬ (SchemaType.struct name ms).SizesBelow (10 ^ digitLimit) :=
          mt fun hsizes => SchemaType.sizesBelow_struct.1 hsizes _ hmem
        exact limitedBy_within hmember (fun l => .of_follow? hstep hlarge) _
    | _ => exact limitedBy_fail _

/-- Arguments that were read, one for each type. -/
theorem limitedBy_arguments {m : Int} {types : List SchemaType} (h : v.Readable nestingLimit) :
    LimitedBy (v.Cause (argumentLimit + 1) (∃ t ∈ types, ¬ t.SizesBelow (10 ^ digitLimit)))
      (arguments m types v) := by
  cases v with
  | list vs =>
    rw [arguments]
    split
    · refine .mapM fun x hx => ?_
      obtain ⟨⟨item, t⟩, i⟩ := x
      have hzip := List.mem_zipIdx_iff_getElem?.1 hx
      obtain ⟨hitem, ht⟩ := List.getElem?_zip_eq_some.1 hzip
      have hstep : (Accessor.index i).follow? (.list vs) = some item := hitem
      have hread := (Value.readable_list_iff.1 h).2 item (List.mem_of_getElem? hitem)
      refine limitedBy_within (limitedBy_argument (m := m) (t := t) hread)
        (fun l => .of_follow? hstep fun hlarge => ?_) _
      exact ⟨t, List.mem_of_getElem? ht, hlarge⟩
    · exact limitedBy_fail _
  | _ => exact limitedBy_fail _

end Checking

/-! ## Arguments from text -/

/-- The octets from which arguments are read. -/
def Source.argumentOctets : Source → Bytes
  | .text t => Utf8.encode t
  | .bytes b => b

/-- What is past a limit: the text opens more containers than may be open, or its value nests
further than arguments may; a type has an array of a size that cannot be printed; a decimal numeral
in the text has too many digits. -/
def Source.Exceeds (source : Source) (types : List SchemaType) : Limit → Prop
  | .nesting =>
    (∃ front, front <+: Json.lex source.argumentOctets ∧
      (nestingLimit : Int) < Json.Token.openings front) ∨
    ∃ v, Json.parse source.argumentOctets = .ok v ∧ argumentLimit < v.nesting
  | .printing => ∃ t ∈ types, ¬ t.SizesBelow (10 ^ digitLimit)
  | .reading digits => digitLimit < digits ∧
      ∃ v, Json.parse source.argumentOctets = .ok v ∧ v.HoldsNumeral digits

/-- Text has a value, or is refused, or nests too far. -/
theorem Source.argumentsValue_cases (source : Source) :
    (∃ v, source.argumentsValue = .ok v ∧ Json.parse source.argumentOctets = .ok v) ∨
    (∃ e, source.argumentsValue = .error (.argument e)) ∨
    (source.argumentsValue = .error (.limit .nesting) ∧
      Json.parse source.argumentOctets = .error .nesting) := by
  have hbytes (b : Bytes) :
      (∃ v, (bytes b).argumentsValue = .ok v ∧ Json.parse b = .ok v) ∨
      (∃ e, (bytes b).argumentsValue = .error (.argument e)) ∨
      ((bytes b).argumentsValue = .error (.limit .nesting) ∧
        Json.parse b = .error .nesting) := by
    unfold argumentsValue
    dsimp only
    cases Json.parse b with
    | ok v => exact .inl ⟨v, rfl, rfl⟩
    | error fault =>
      cases fault with
      | malformed => exact .inr (.inl ⟨_, rfl⟩)
      | notUtf8 fault => exact .inr (.inl ⟨_, rfl⟩)
      | nesting => exact .inr (.inr ⟨rfl, rfl⟩)
  cases source with
  | bytes b => exact hbytes b
  | text t =>
    cases hrun : Utf8.surrogateRun? t with
    | some run =>
      refine .inr (.inl ⟨⟨.surrogates run, ⟨documentRoot, []⟩⟩, ?_⟩)
      simp only [argumentsValue, hrun]
    | none =>
      have hoctets : (text t).argumentsValue = (bytes (Utf8.encode t)).argumentsValue := by
        simp only [argumentsValue, hrun]
      rw [hoctets]
      exact hbytes (Utf8.encode t)

theorem run_parseArguments (source : Source) (s : Signature) (modulus : Option Int) (c : Config) :
    (parseArguments source s modulus).run.run c = (do
      Checking.report documentRoot
        (Checking.arguments (modulus.getD c.fieldModulus) s.inputs (← source.argumentsValue))) := by
  unfold parseArguments
  cases source.argumentsValue with
  | error e => rfl
  | ok v => exact run_checkArguments s v modulus c

/-- Arguments are accepted, refused, or past a limit. -/
theorem parseArguments_cases (source : Source) (s : Signature) (modulus : Option Int)
    (c : Config) :
    (∃ as, (parseArguments source s modulus).run.run c = .ok as) ∨
    (∃ e, (parseArguments source s modulus).run.run c = .error (.argument e)) ∨
    ∃ l, (parseArguments source s modulus).run.run c = .error (.limit l) ∧
      source.Exceeds s.inputs l := by
  rw [run_parseArguments]
  rcases source.argumentsValue_cases with ⟨v, hv, hparse⟩ | ⟨e, he⟩ | ⟨hdeep, hparse⟩
  · rw [hv, ok_bind]
    have hlimited : Checking.LimitedBy
        (v.Cause (argumentLimit + 1) (∃ t ∈ s.inputs, ¬ t.SizesBelow (10 ^ digitLimit)))
        (Checking.arguments (modulus.getD c.fieldModulus) s.inputs v) :=
      Checking.limitedBy_arguments (Json.readable_of_parse hparse)
    cases hchecked : Checking.arguments (modulus.getD c.fieldModulus) s.inputs v with
    | ok as => exact .inl ⟨as, rfl⟩
    | error stop =>
      cases stop with
      | fault path fault => exact .inr (.inl ⟨_, rfl⟩)
      | limit l =>
        refine .inr (.inr ⟨l, rfl, ?_⟩)
        have hcause := hlimited _ hchecked
        cases l with
        | nesting => exact .inr ⟨v, hparse, hcause⟩
        | printing => exact hcause
        | reading digits => exact ⟨hcause.1, v, hparse, hcause.2⟩
  · rw [he]
    exact .inr (.inl ⟨e, rfl⟩)
  · rw [hdeep]
    exact .inr (.inr ⟨.nesting, rfl, .inl (Json.exists_deep_of_parse hparse)⟩)

/-! ## The command -/

namespace SchemaType

theorem arrayDepth_lt_depth (t : SchemaType) : t.arrayDepth < t.depth := by
  fun_induction arrayDepth t with
  | case1 element size ih => exact Nat.succ_lt_succ ih
  | case2 t => exact t.depth_pos

theorem sizesFit_of_sizesBelow : ∀ t : SchemaType, t.SizesBelow (10 ^ digitLimit) →
    t.sizesFit = true
  | .field, _ => rfl
  | .bool, _ => rfl
  | .uint _ _, _ => rfl
  | .struct _ _, _ => rfl
  | .array element size, h => by
    obtain ⟨hsize, helement⟩ := sizesBelow_array.1 h
    rw [sizesFit, sizesFit_of_sizesBelow element helement, Decimal.fits_natCast_iff.2 hsize]
    rfl

theorem text?_of_arrayDepth_lt {t : SchemaType} (harrays : t.arrayDepth < arrayLimit)
    (hsizes : t.SizesBelow (10 ^ digitLimit)) : t.text? = .ok t.text := by
  rw [text?, if_neg (Nat.not_le.2 harrays), if_pos (sizesFit_of_sizesBelow t hsizes)]

/-- A type whose sizes can be printed has a text unless its arrays nest too far. -/
theorem failsWith_text? {t : SchemaType} (hsizes : t.SizesBelow (10 ^ digitLimit)) :
    FailsWith (fun l => l = .nesting ∧ arrayLimit ≤ t.arrayDepth) t.text? := by
  by_cases harrays : t.arrayDepth < arrayLimit
  · rw [text?_of_arrayDepth_lt harrays hsizes]
    exact .ok _
  · have hdeep := Nat.not_lt.1 harrays
    rw [text?, if_pos hdeep]
    exact .error ⟨rfl, hdeep⟩

end SchemaType

/-- No type nests too far, and no size has too many digits. -/
def Abi.Bounded (a : Abi) : Prop :=
  a.All fun t => t.depth ≤ nestingLimit ∧ t.SizesBelow (10 ^ digitLimit)

namespace Source

variable {source : Source} {c : Config} {strict : Option Bool} {a : Abi}

/-- The canonical document is embedded in what was parsed, so it is within the limits as that is. -/
theorem document_within_of_decode (h : (source.decode strict).run.run c = .ok a) :
    a.document.Within nestingLimit := by
  obtain ⟨_, _, _, _, hparse, hdecode⟩ := Source.run_decode_eq_ok_iff.1 h
  obtain ⟨-, d, hd, hembedded⟩ := Value.decodeAbi_eq_ok_iff.1 hdecode
  obtain ⟨-, rfl⟩ := Abi.document?_eq_ok_iff.1 hd
  exact Value.Within.of_embedded hembedded (Json.within_of_parse hparse)

/-- What was decoded has a text in every form. -/
theorem run_text_of_decode (h : (source.decode strict).run.run c = .ok a) (pretty : Bool) :
    (a.text pretty none).run.run c = .ok (Json.print (Abi.style c pretty none) a.document) :=
  Abi.run_text (document_within_of_decode h).numbers (document_within_of_decode h).nesting pretty
    none c

/-- The interface of a document is bounded as the document is. -/
theorem bounded_of_decode (h : (source.decode strict).run.run c = .ok a) : a.Bounded := by
  have hwithin := document_within_of_decode h
  have hdepth := Abi.encodable_iff.1 (Abi.encodable_of_nesting hwithin.nesting)
  have hsizes := Abi.numbersFit_document_iff.1 hwithin.numbers
  exact ⟨fun i hi => ⟨hdepth.1 i hi, hsizes.1 i hi⟩, fun t ht => ⟨hdepth.2 t ht, hsizes.2 t ht⟩⟩

end Source

/-- A bounded interface has a signature that can be shown, unless arrays nest too far in a type. -/
theorem Abi.Bounded.failsWith_signature_text? {a : Abi} (h : a.Bounded) :
    FailsWith (fun l => l = .nesting ∧
      ∃ t ∈ a.signature.inputs ++ a.signature.outputs, arrayLimit ≤ t.arrayDepth)
      a.signature.text? := by
  have htype {t : SchemaType} (ht : t ∈ a.signature.inputs ++ a.signature.outputs)
      (hsizes : t.SizesBelow (10 ^ digitLimit)) : FailsWith (fun l => l = .nesting ∧
        ∃ t ∈ a.signature.inputs ++ a.signature.outputs, arrayLimit ≤ t.arrayDepth) t.text? := by
    intro l hl
    obtain ⟨rfl, hdeep⟩ := SchemaType.failsWith_text? hsizes l hl
    exact ⟨rfl, t, ht, hdeep⟩
  refine .bind (.mapM fun t ht => ?_) fun _ _ => .bind (.mapM fun t ht => ?_) fun _ _ => .ok _
  · obtain ⟨i, hi, rfl⟩ := List.mem_map.1 ht
    exact htype (List.mem_append_left _ ht) (h.1 i hi).2
  · exact htype (List.mem_append_right _ ht) (h.2 t ht).2

theorem Operation.run_attempt {α : Type} (op : Operation α) (c : Config) :
    op.attempt.run.run c = .ok (op.run.run c) := by
  show (Reading.bind op.run _).run c = _
  rw [Reading.run_bind]
  rfl

namespace Command.Run

theorem run_lift {α : Type} (r : Run) (op : Operation α) (c : Config) :
    (r.lift op).run.run c = (op.run.run c).mapError (⟨·, r.tree⟩) := by
  show (Reading.bind op.run _).run c = _
  rw [Reading.run_bind]
  rfl

theorem run_lift_ok {α : Type} {r : Run} {op : Operation α} {c : Config} {x : α}
    (h : op.run.run c = .ok x) : (r.lift op).run.run c = .ok x := by
  rw [run_lift, h]
  rfl

theorem run_lift_error {α : Type} {r : Run} {op : Operation α} {c : Config} {e : Failure}
    (h : op.run.run c = .error e) : (r.lift op).run.run c = .error ⟨e, r.tree⟩ := by
  rw [run_lift, h]
  rfl

/-- How a check of arguments against a document ends, both of which could be read: with exit code 0
where the document is decoded and the arguments are accepted, 1 where either is refused, and with no
exit code only where the arguments are past a limit, or are accepted by a signature that cannot be
shown. -/
inductive Answers (content args : Bytes) (c : Config) : Except Stop Outcome → Prop
  | accepted {a : Abi} {values : List Argument} {done : Completed} :
    (Source.decode none (.bytes content)).run.run c = .ok a →
    (parseArguments (.bytes args) a.signature none).run.run c = .ok values →
    done.exit = 0 → Answers content args c (.ok (.completed done))
  | malformed {e : DecodeError} {done : Completed} :
    (Source.decode none (.bytes content)).run.run c = .error (.decode e) →
    done.exit = 1 → Answers content args c (.ok (.completed done))
  | refused {a : Abi} {e : ArgumentError} {done : Completed} :
    (Source.decode none (.bytes content)).run.run c = .ok a →
    (parseArguments (.bytes args) a.signature none).run.run c = .error (.argument e) →
    done.exit = 1 → Answers content args c (.ok (.completed done))
  | limit {l : Limit} {stop : Stop} :
    (Source.bytes args).Exceeds [] l → stop.failure = .limit l →
    Answers content args c (.error stop)
  | unshown {a : Abi} {values : List Argument} {stop : Stop} :
    (Source.decode none (.bytes content)).run.run c = .ok a →
    (parseArguments (.bytes args) a.signature none).run.run c = .ok values →
    (∃ t ∈ a.signature.inputs ++ a.signature.outputs, arrayLimit ≤ t.arrayDepth) →
    stop.failure = .limit .nesting → Answers content args c (.error stop)

/-- A command on a document that could be read goes by how the document is decoded. -/
theorem run_withAbi {r : Run} {p : Path} {content : Bytes} (hdoc : r.tree.read p = .ok content)
    (next : Run → Abi → Running Outcome) (c : Config) : (r.withAbi p next).run.run c =
      match (Source.decode none (.bytes content)).run.run c with
      | .ok a =>
        (next (r.log .debug "zkabi.abi.decoding" ("decoded abi: " ++ sizes a)) a).run.run c
      | .error (.decode e) =>
        .ok (r.die 1 (p.text ++ ": " ++ Failure.located e.fault.message e.place))
      | .error e => .error ⟨e, r.tree⟩ := by
  unfold withAbi
  rw [hdoc]
  dsimp only
  rw [Operation.run_bind_ok (run_lift_ok (Operation.run_attempt _ c))]
  cases (Source.decode none (.bytes content)).run.run c with
  | ok a => rfl
  | error e => cases e <;> rfl

/-- A check of arguments that could be read goes by how they are parsed. -/
theorem run_checkArgs {r : Run} {argsPath : Path} {args : Bytes}
    (hargs : r.tree.read argsPath = .ok args) (a : Abi) (c : Config) :
    (checkArgs argsPath r a).run.run c =
      match (parseArguments (.bytes args) a.signature none).run.run c with
      | .ok values =>
        match a.signature.text? with
        | .ok shown => .ok (r.succeed
          (printed ("ok: " ++ Decimal.ofNat values.length ++ " arguments match " ++ shown)))
        | .error l => .error ⟨.limit l, r.tree⟩
      | .error (.argument e) =>
        .ok (r.die 1 (argsPath.text ++ ": " ++ Failure.located e.fault.message (some e.place)))
      | .error e => .error ⟨e, r.tree⟩ := by
  unfold checkArgs
  rw [hargs]
  dsimp only
  rw [Operation.run_bind_ok (run_lift_ok (Operation.run_attempt _ c))]
  cases (parseArguments (.bytes args) a.signature none).run.run c with
  | ok values => cases a.signature.text? <;> rfl
  | error e => cases e <;> rfl

theorem answers_checkArgs {r : Run} {a : Abi} {argsPath : Path} {content args : Bytes}
    {c : Config} (hdecode : (Source.decode none (.bytes content)).run.run c = .ok a)
    (hargs : r.tree.read argsPath = .ok args) :
    Answers content args c ((checkArgs argsPath r a).run.run c) := by
  have hbounded := Source.bounded_of_decode hdecode
  rw [run_checkArgs hargs]
  rcases parseArguments_cases (.bytes args) a.signature none c with
    ⟨values, hvalues⟩ | ⟨e, he⟩ | ⟨l, hl, hexceeds⟩
  · rw [hvalues]
    cases hshown : a.signature.text? with
    | ok shown => exact .accepted hdecode hvalues rfl
    | error l =>
      obtain ⟨rfl, hdeep⟩ := hbounded.failsWith_signature_text? l hshown
      exact .unshown hdecode hvalues hdeep rfl
  · rw [he]
    exact .refused hdecode he rfl
  · rw [hl]
    refine .limit ?_ rfl
    cases l with
    | nesting => exact hexceeds
    | reading digits => exact hexceeds
    | printing =>
      -- The sizes of a document were read from its text.
      obtain ⟨t, ht, hlarge⟩ := hexceeds
      obtain ⟨i, hi, rfl⟩ := List.mem_map.1 ht
      exact absurd (hbounded.1 i hi).2 hlarge

theorem answers_withAbi {r : Run} {p argsPath : Path} {content args : Bytes}
    (hdoc : r.tree.read p = .ok content) (hargs : r.tree.read argsPath = .ok args) (c : Config) :
    Answers content args c ((r.withAbi p (checkArgs argsPath)).run.run c) := by
  rw [run_withAbi hdoc]
  rcases (Source.bytes content).run_decode_cases none c with ⟨a, ha⟩ | ⟨e, he⟩
  · rw [ha]
    exact answers_checkArgs ha hargs
  · rw [he]
    exact .malformed he rfl

end Command.Run

/-- **Arguments are accepted, refused or past a limit.** Reading arguments from any text against any
signature, below any modulus, either returns values or refuses the text; a limit is met only where
the text nests too far to be read or checked, holds a decimal numeral of too many digits, or the
signature has a size that cannot be printed. So checking two files that can be read ends with exit
code 0 or 1, unless the arguments nest too far or hold such a numeral, or they are accepted and
arrays nest too far in the signature to show it. -/
theorem argument_parsing_outcome (source : Source) (s : Signature) (modulus : Option Int)
    (r : Command.Run) (p argsPath : Path) (content args : Bytes) (c : Config) :
    ((∃ values, (parseArguments source s modulus).run.run c = .ok values) ∨
      (∃ e, (parseArguments source s modulus).run.run c = .error (.argument e)) ∨
      ∃ l, (parseArguments source s modulus).run.run c = .error (.limit l) ∧
        source.Exceeds s.inputs l) ∧
    (r.tree.read p = .ok content → r.tree.read argsPath = .ok args →
      Command.Run.Answers content args c
        ((r.withAbi p (Command.Run.checkArgs argsPath)).run.run c)) := by
  refine ⟨parseArguments_cases source s modulus c, fun hdoc hargs => ?_⟩
  exact Command.Run.answers_withAbi hdoc hargs c

/-- A field element of too many digits is not refused. -/
theorem run_parseArguments_of_long {args : Bytes} {t : Text}
    (hparse : Json.parse args = .ok (.list [.text t])) (ht : Decimal.IsNumeral t)
    (hlong : digitLimit < t.length) (outputs : List SchemaType) (modulus : Option Int)
    (c : Config) : (parseArguments (.bytes args) ⟨[.field], outputs⟩ modulus).run.run c =
      .error (.limit (.reading t.length)) := by
  have hvalue : (Source.bytes args).argumentsValue = .ok (.list [.text t]) := by
    simp only [Source.argumentsValue, hparse]
  have hdecimal : Numeral.decimal? t = some t :=
    Numeral.decimal?_eq_some_iff.2 ⟨ht, [], .inl rfl, (List.append_nil t).symm⟩
  have hfield (m : Int) : Checking.field m (.text t) = .error (.limit (.reading t.length)) := by
    rw [Checking.field, hdecimal]
    exact if_pos hlong
  have hargument (m : Int) : Checking.argument m argumentLimit (.text t) .field =
      .error (.limit (.reading t.length)) := hfield m
  rw [run_parseArguments, hvalue, ok_bind]
  simp only [Checking.arguments, List.length_singleton, if_true, List.zip_cons_cons,
    List.zip_nil_right, List.zipIdx_cons, List.zipIdx_nil, List.mapM_cons, hargument]
  rfl

theorem Json.lexFrom_brackets (n : Nat) (tokens : List Token) :
    lexFrom ⟨.between, tokens⟩ (List.replicate n 91) =
      tokens.reverse ++ List.replicate n .openArray := by
  induction n generalizing tokens with
  | zero => exact (List.append_nil _).symm
  | succ n ih =>
    have hstep : Lexer.step ⟨.between, tokens⟩ 91 = ⟨.between, .openArray :: tokens⟩ := rfl
    rw [List.replicate_succ, lexFrom_cons, hstep, ih, List.reverse_cons, List.append_assoc]
    rfl

/-- More opening brackets (91) than may be open nest too far. -/
theorem Json.parse_brackets {n : Nat} (h : nestingLimit < n) :
    parse (List.replicate n 91) = .error .nesting := by
  have hlex : lex (List.replicate n 91) = List.replicate n .openArray := lexFrom_brackets n []
  have hdeep : nestingLimit < ([] : List Frame).length + n := by rwa [List.length_nil, Nat.zero_add]
  rw [parse, ofTokens, hlex, Reader.foldl_step_openArray (.inl rfl) (Nat.zero_le _) hdeep]
  rfl

/-- Text that nests too far is not refused. -/
theorem run_parseArguments_of_deep {args : Bytes} (hparse : Json.parse args = .error .nesting)
    (s : Signature) (modulus : Option Int) (c : Config) :
    (parseArguments (.bytes args) s modulus).run.run c = .error (.limit .nesting) := by
  have hvalue : (Source.bytes args).argumentsValue = .error (.limit .nesting) := by
    simp only [Source.argumentsValue, hparse]
  rw [run_parseArguments, hvalue]
  rfl

/-- A numeral one digit longer than can be read. -/
def longNumeral : Text := List.replicate (digitLimit + 1) 57

/-- Arguments in JSON, of which the only one is this numeral. -/
def longArguments : Bytes := Utf8.encode (Json.print .compact (.list [.text longNumeral]))

/-- More opening brackets than may be open. -/
def deepArguments : Bytes := List.replicate 5000 91

theorem isNumeral_longNumeral : Decimal.IsNumeral longNumeral := by
  refine .inr ⟨57, List.replicate digitLimit 57, List.replicate_succ, by decide, fun d hd => ?_⟩
  rw [List.eq_of_mem_replicate hd]
  decide

theorem length_longNumeral : longNumeral.length = digitLimit + 1 := List.length_replicate

theorem parse_longArguments : Json.parse longArguments = .ok (.list [.text longNumeral]) := by
  have hunicode : longNumeral.isUnicode = true := by decide +kernel
  have hplain : Value.IsPlain (.list [.text longNumeral]) := ⟨hunicode, trivial⟩
  have hparse := Json.parse_print .compact hplain rfl (by decide) Json.reads_nil Json.separates_nil
  rw [List.append_nil] at hparse
  exact hparse

theorem parse_deepArguments : Json.parse deepArguments = .error .nesting :=
  Json.parse_brackets (by decide)

/-- An interface with one input, a field element. -/
def fieldInterface : Abi := ⟨[⟨"x", true, .field⟩], []⟩

/-- Its document. -/
def fieldDocument : Bytes := Utf8.encode (Json.print .compact fieldInterface.document)

/-- A run of the tool beside the document and the long numeral. -/
def longRun : Command.Run where
  logger := "zkabi"
  least := none
  stderr := []
  tree := Tree.ofList ["home"] [("abi.json", some fieldDocument), ("args.json", some longArguments)]

theorem read_longRun : longRun.tree.read (.ofText "abi.json") = .ok fieldDocument ∧
    longRun.tree.read (.ofText "args.json") = .ok longArguments := ⟨rfl, rfl⟩

theorem decode_fieldDocument :
    (Source.decode none (.bytes fieldDocument)).run.run (Config.ofEnvironment []) =
      .ok fieldInterface := by
  refine Source.run_decode_print ?_ rfl (by decide) .compact Json.reads_nil Json.separates_nil ?_
    none ?_
  · simp [Abi.All, fieldInterface]
  · rw [List.append_nil]
    rfl
  · decide

theorem argument_parsing_outcome_long :
    (longRun.tree.read (.ofText "abi.json") = .ok fieldDocument ∧
      longRun.tree.read (.ofText "args.json") = .ok longArguments) ∧
    Command.Run.Answers fieldDocument longArguments (Config.ofEnvironment [])
      ((longRun.withAbi (.ofText "abi.json")
        (Command.Run.checkArgs (.ofText "args.json"))).run.run (Config.ofEnvironment [])) :=
  ⟨read_longRun, (argument_parsing_outcome (.bytes longArguments) fieldInterface.signature none
    longRun _ _ _ _ _).2 read_longRun.1 read_longRun.2⟩

/-- Limits are met: a field element of too many digits and text that opens too many brackets are not
refused with a place, and the command that checks a file of such arguments ends with no exit
code. -/
theorem limits_escape_refusal :
    (parseArguments (.bytes longArguments) ⟨[.field], []⟩ (some 11)).run.run
        (Config.ofEnvironment []) = .error (.limit (.reading (digitLimit + 1))) ∧
    (parseArguments (.bytes deepArguments) ⟨[.field], []⟩ none).run.run
        (Config.ofEnvironment []) = .error (.limit .nesting) ∧
    (longRun.withAbi (.ofText "abi.json") (Command.Run.checkArgs (.ofText "args.json"))).run.run
        (Config.ofEnvironment []) =
          .error ⟨.limit (.reading (digitLimit + 1)), longRun.tree⟩ := by
  have hlong : digitLimit < longNumeral.length := by
    rw [length_longNumeral]
    exact Nat.lt_succ_self digitLimit
  have hrun (modulus : Option Int) :
      (parseArguments (.bytes longArguments) ⟨[.field], []⟩ modulus).run.run
        (Config.ofEnvironment []) = .error (.limit (.reading (digitLimit + 1))) := by
    rw [run_parseArguments_of_long parse_longArguments isNumeral_longNumeral hlong,
      length_longNumeral]
  refine ⟨hrun (some 11), run_parseArguments_of_deep parse_deepArguments _ _ _, ?_⟩
  have hargs : (parseArguments (.bytes longArguments) fieldInterface.signature none).run.run
      (Config.ofEnvironment []) = .error (.limit (.reading (digitLimit + 1))) := hrun none
  rw [Command.Run.run_withAbi read_longRun.1, decode_fieldDocument]
  refine (Command.Run.run_checkArgs read_longRun.2 fieldInterface _).trans ?_
  rw [hargs]

end CircuitAbi

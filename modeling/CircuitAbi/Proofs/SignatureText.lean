import CircuitAbi.Proofs.Refusals
import CircuitAbi.Proofs.TextEquality

/-!
# The text of a signature

What the text of a signature tells of it. Types without structs are shown with letters, digits, dots
and brackets only, so a comma ends a type and a parenthesis ends a list of them.

* `Text.join_injective` — texts that are not empty and lack the separator's first character can be
  told from their join.
* `SchemaType.text_injective` — the text of a type without structs is that of no other.
* `Signature.text?_eq_ok_iff` — when a signature has a text within the limits, and which.

Principal result: `signature_text_identifies`.
-/

set_option autoImplicit false

namespace CircuitAbi

/-! ## Separated texts -/

namespace Text

variable {c : CodePoint} {t u rest rest' : Text}

/-- Where a character stops two texts that lack it, or their ends do, the texts are told from what
follows. -/
theorem append_inj_of_stop (ht : c ∉ t) (hu : c ∉ u) (hrest : ∀ b ∈ rest.head?, b = c)
    (hrest' : ∀ b ∈ rest'.head?, b = c) (h : t ++ rest = u ++ rest') : t = u ∧ rest = rest' := by
  induction t generalizing u with
  | nil =>
    cases u with
    | nil => exact ⟨rfl, h⟩
    | cons b u =>
      rw [List.nil_append] at h
      subst h
      exact absurd (hrest b rfl ▸ List.mem_cons_self) hu
  | cons b t ih =>
    cases u with
    | nil =>
      rw [List.nil_append] at h
      subst h
      exact absurd (hrest' b rfl ▸ List.mem_cons_self) ht
    | cons b' u =>
      obtain ⟨rfl, htail⟩ := List.cons.inj h
      have ht' : c ∉ t := fun hc => ht (List.mem_cons_of_mem b hc)
      have hu' : c ∉ u := fun hc => hu (List.mem_cons_of_mem b hc)
      obtain ⟨rfl, hsame⟩ := ih ht' hu' htail
      exact ⟨rfl, hsame⟩

theorem mem_join {separator : Text} {ts : List Text} (h : c ∈ join separator ts) :
    c ∈ separator ∨ ∃ t ∈ ts, c ∈ t := by
  cases ts with
  | nil => cases h
  | cons t ts =>
    rcases List.mem_append.1 h with h | h
    · exact .inr ⟨t, List.mem_cons_self, h⟩
    · obtain ⟨u, hu, hc⟩ := List.mem_flatMap.1 h
      rcases List.mem_append.1 hc with hc | hc
      · exact .inl hc
      · exact .inr ⟨u, List.mem_cons_of_mem t hu, hc⟩

theorem head?_flatMap {separator : Text} {ts : List Text} :
    ∀ b ∈ (ts.flatMap ((c :: separator) ++ ·)).head?, b = c := by
  cases ts with
  | nil => exact fun _ hb => nomatch hb
  | cons t ts => exact fun b hb => (Option.some.inj hb).symm

/-- Texts behind separators are told apart where the separator's first character is in none. -/
theorem flatMap_injective {separator : Text} {ts us : List Text} (hts : ∀ t ∈ ts, c ∉ t)
    (hus : ∀ u ∈ us, c ∉ u)
    (h : ts.flatMap ((c :: separator) ++ ·) = us.flatMap ((c :: separator) ++ ·)) : ts = us := by
  induction ts generalizing us with
  | nil =>
    cases us with
    | nil => rfl
    | cons u us => cases h
  | cons t ts ih =>
    cases us with
    | nil => cases h
    | cons u us =>
      obtain ⟨ht, htail⟩ := List.forall_mem_cons.1 hts
      obtain ⟨hu, hutail⟩ := List.forall_mem_cons.1 hus
      rw [List.flatMap_cons, List.flatMap_cons, List.append_assoc, List.append_assoc] at h
      obtain ⟨rfl, hrest⟩ := append_inj_of_stop ht hu head?_flatMap head?_flatMap
        (List.append_cancel_left h)
      rw [ih htail hutail hrest]

/-- **Joined texts are told apart** where none is empty and none has the separator's first
character. -/
theorem join_injective {separator : Text} {ts us : List Text} (hts : ∀ t ∈ ts, t ≠ [] ∧ c ∉ t)
    (hus : ∀ u ∈ us, u ≠ [] ∧ c ∉ u) (h : join (c :: separator) ts = join (c :: separator) us) :
    ts = us := by
  cases ts with
  | nil =>
    cases us with
    | nil => rfl
    | cons u us => exact absurd (List.append_eq_nil_iff.1 h.symm).1 (hus u List.mem_cons_self).1
  | cons t ts =>
    cases us with
    | nil => exact absurd (List.append_eq_nil_iff.1 h).1 (hts t List.mem_cons_self).1
    | cons u us =>
      obtain ⟨ht, htail⟩ := List.forall_mem_cons.1 hts
      obtain ⟨hu, hutail⟩ := List.forall_mem_cons.1 hus
      obtain ⟨rfl, hrest⟩ := append_inj_of_stop ht.2 hu.2 head?_flatMap head?_flatMap h
      rw [flatMap_injective (fun t ht => (htail t ht).2) (fun u hu => (hutail u hu).2) hrest]

end Text

/-! ## Types -/

theorem Decimal.ofNat_injective : Function.Injective Decimal.ofNat :=
  Function.LeftInverse.injective Decimal.read_ofNat

namespace SchemaType

theorem text_array (element : SchemaType) (size : Nat) :
    (array element size).text = element.text ++ 91 :: (Decimal.ofNat size ++ [93]) := by
  show element.text ++ [91] ++ Decimal.ofNat size ++ [93] = _
  simp only [List.append_assoc, List.cons_append, List.nil_append]

/-- The text of a type without structs has no comma (44) and no closing parenthesis (41). -/
theorem not_mem_text : ∀ {t : SchemaType} {c : CodePoint}, t.StructFree → c = 41 ∨ c = 44 →
    c ∉ t.text
  | .field, _, _, hc => by rcases hc with rfl | rfl <;> decide
  | .bool, _, _, hc => by rcases hc with rfl | rfl <;> decide
  | .uint w form, _, _, hc => by
    rcases hc with rfl | rfl <;> cases w <;> cases form <;> decide
  | .struct _ _, _, h, _ => absurd h not_structFree_struct
  | .array element size, c, h, hc => by
    have helement : c ∉ element.text := not_mem_text (structFree_array.1 h) hc
    have hsize : c ∉ Decimal.ofNat size := fun hmem =>
      absurd (Decimal.mem_ofNat hmem).1 (by rcases hc with rfl | rfl <;> decide)
    rw [text_array]
    simp only [List.mem_append, List.mem_cons, helement, hsize, List.not_mem_nil, or_false,
      false_or, not_or]
    rcases hc with rfl | rfl <;> decide

theorem text_ne_nil {t : SchemaType} (h : t.StructFree) : t.text ≠ [] := by
  cases t with
  | field => decide
  | bool => decide
  | uint w form => exact List.cons_ne_nil _ _
  | array element size =>
    rw [text_array]
    exact List.append_ne_nil_of_right_ne_nil _ (List.cons_ne_nil _ _)
  | struct name ms => exact absurd h not_structFree_struct

theorem bracket_not_mem_kind (t : SchemaType) : 93 ∉ t.kind := by
  cases t with
  | field => decide
  | bool => decide
  | uint w form => cases w <;> cases form <;> decide
  | array element size => exact (by decide : 93 ∉ Text.ofString "array")
  | struct name ms => exact (by decide : 93 ∉ Text.ofString "struct")

/-- A closing bracket (93) tells an array from a type that is shown by its word. -/
theorem kind_eq_of_text {t u : SchemaType} (ht : t.text = t.kind) (hu : u.StructFree)
    (h : t.text = u.text) : t.kind = u.kind := by
  cases u with
  | array element size =>
    have hmem : 93 ∈ t.kind := by
      rw [← ht, h, text_array]
      simp
    exact absurd hmem t.bracket_not_mem_kind
  | struct name ms => exact absurd hu not_structFree_struct
  | _ => exact ht.symm.trans h

/-- The last opening bracket (91) of the text of an array stands before its size. -/
theorem text_array_inj {e e' : SchemaType} {n n' : Nat}
    (h : (array e n).text = (array e' n').text) : e.text = e'.text ∧ n = n' := by
  -- read from the end, the size stops at its bracket
  have hreversed : (Decimal.ofNat n).reverse ++ 91 :: e.text.reverse =
      (Decimal.ofNat n').reverse ++ 91 :: e'.text.reverse := by
    have := congrArg List.reverse h
    simpa [text_array] using this
  have hsize (n : Nat) : 91 ∉ (Decimal.ofNat n).reverse := by
    rw [List.mem_reverse]
    exact fun hmem => absurd (Decimal.mem_ofNat hmem).2 (by decide)
  have hstop (e : SchemaType) : ∀ b ∈ (91 :: e.text.reverse).head?, b = 91 := fun b hb =>
    (Option.some.inj hb).symm
  obtain ⟨hdigits, helement⟩ :=
    Text.append_inj_of_stop (hsize n) (hsize n') (hstop e) (hstop e') hreversed
  exact ⟨List.reverse_injective (List.cons.inj helement).2,
    Decimal.ofNat_injective (List.reverse_injective hdigits)⟩

/-- **The text of a type without structs is that of no other.** -/
theorem text_injective : ∀ {t u : SchemaType}, t.StructFree → u.StructFree → t.text = u.text →
    t = u
  | .field, u, _, hu, h => by
    cases u <;> cases initial_eq_of_kind (kind_eq_of_text rfl hu h)
    rfl
  | .bool, u, _, hu, h => by
    cases u <;> cases initial_eq_of_kind (kind_eq_of_text rfl hu h)
    rfl
  | .uint w form, u, _, hu, h => by
    have hkind := kind_eq_of_text rfl hu h
    cases u <;> cases initial_eq_of_kind hkind
    obtain ⟨rfl, rfl⟩ := kind_uint_inj hkind
    rfl
  | .array element size, u, ht, hu, h => by
    cases u with
    | array element' size' =>
      obtain ⟨helement, rfl⟩ := text_array_inj h
      rw [text_injective (structFree_array.1 ht) (structFree_array.1 hu) helement]
    | struct name ms => exact absurd hu not_structFree_struct
    | _ => cases initial_eq_of_kind (kind_eq_of_text rfl ht h.symm)
  | .struct _ _, _, ht, _, _ => absurd ht not_structFree_struct

-- with structs it is not so: one may be called what another type is shown as
example : text (.struct "bool" []) = text .bool := rfl

/-- Comparing a type without structs takes calls for its arrays alone. -/
theorem calls_eq_arrayDepth : ∀ {t : SchemaType}, t.StructFree → t.calls = 3 * t.arrayDepth + 1
  | .field, _ => rfl
  | .bool, _ => rfl
  | .uint _ _, _ => rfl
  | .array element size, h => by
    rw [calls, arrayDepth, calls_eq_arrayDepth (structFree_array.1 h)]
    omega
  | .struct _ _, h => absurd h not_structFree_struct

theorem text?_eq_ok_iff {t : SchemaType} {shown : Text} : t.text? = .ok shown ↔
    shown = t.text ∧ t.arrayDepth < arrayLimit ∧ t.sizesFit = true := by
  unfold text?
  split
  · rename_i hdepth
    simp only [reduceCtorEq, false_iff]
    exact fun h => Nat.not_lt.2 hdepth h.2.1
  rename_i hdepth
  split
  · rename_i hfit
    rw [Except.ok.injEq]
    exact ⟨fun h => ⟨h.symm, Nat.not_le.1 hdepth, hfit⟩, fun h => h.1.symm⟩
  · rename_i hfit
    simp only [reduceCtorEq, false_iff]
    exact fun h => hfit h.2.2

theorem mapM_text?_eq_ok_iff {ts : List SchemaType} {shown : List Text} :
    ts.mapM text? = .ok shown ↔ shown = ts.map text ∧
      ∀ t ∈ ts, t.arrayDepth < arrayLimit ∧ t.sizesFit = true := by
  constructor
  · intro h
    have hall : ∀ t ∈ ts, t.arrayDepth < arrayLimit ∧ t.sizesFit = true := by
      intro t ht
      obtain ⟨_, ht⟩ := exists_mapM_eq_ok_iff.1 ⟨shown, h⟩ t ht
      exact (text?_eq_ok_iff.1 ht).2
    have hmap : ts.mapM text? = .ok (ts.map text) :=
      mapM_eq_ok_map fun t ht => text?_eq_ok_iff.2 ⟨rfl, hall t ht⟩
    exact ⟨Except.ok.inj (h.symm.trans hmap), hall⟩
  · rintro ⟨rfl, hall⟩
    exact mapM_eq_ok_map fun t ht => text?_eq_ok_iff.2 ⟨rfl, hall t ht⟩

end SchemaType

/-! ## Signatures -/

namespace Signature

/-- **A signature has a text** where arrays nest within the limit and sizes have few enough
digits. -/
theorem text?_eq_ok_iff {s : Signature} {shown : Text} : s.text? = .ok shown ↔
    shown = s.text ∧ s.All fun t => t.arrayDepth < arrayLimit ∧ t.sizesFit = true := by
  simp only [text?, bind_eq_ok, SchemaType.mapM_text?_eq_ok_iff, pure_eq_ok]
  constructor
  · rintro ⟨_, ⟨rfl, hins⟩, _, ⟨rfl, houts⟩, rfl⟩
    exact ⟨rfl, hins, houts⟩
  · rintro ⟨rfl, hins, houts⟩
    exact ⟨_, ⟨rfl, hins⟩, _, ⟨rfl, houts⟩, rfl⟩

/-- A list of types without structs is told from its texts, with commas between them. -/
theorem types_eq_of_join {ts us : List SchemaType} (hts : ∀ t ∈ ts, t.StructFree)
    (hus : ∀ u ∈ us, u.StructFree)
    (h : Text.join ", " (ts.map SchemaType.text) = Text.join ", " (us.map SchemaType.text)) :
    ts = us := by
  have hplain {ts : List SchemaType} (hts : ∀ t ∈ ts, t.StructFree) :
      ∀ shown ∈ ts.map SchemaType.text, shown ≠ [] ∧ 44 ∉ shown := by
    intro shown hshown
    obtain ⟨t, ht, rfl⟩ := List.mem_map.1 hshown
    exact ⟨SchemaType.text_ne_nil (hts t ht), SchemaType.not_mem_text (hts t ht) (.inr rfl)⟩
  have hmap := Text.join_injective (hplain hts) (hplain hus) h
  clear h
  induction ts generalizing us with
  | nil => exact (List.map_eq_nil_iff.1 hmap.symm).symm
  | cons t ts ih =>
    obtain ⟨u, us, rfl, htext, hrest⟩ := List.map_eq_cons_iff.1 hmap.symm
    obtain ⟨ht, htail⟩ := List.forall_mem_cons.1 hts
    obtain ⟨hu, hutail⟩ := List.forall_mem_cons.1 hus
    rw [SchemaType.text_injective ht hu htext.symm, ih htail hutail hrest.symm]

theorem parenthesis_not_mem_join {ts : List SchemaType} (h : ∀ t ∈ ts, t.StructFree) :
    41 ∉ Text.join ", " (ts.map SchemaType.text) := by
  intro hmem
  rcases Text.mem_join hmem with hmem | ⟨_, hshown, hmem⟩
  · exact absurd hmem (by decide)
  · obtain ⟨t, ht, rfl⟩ := List.mem_map.1 hshown
    exact SchemaType.not_mem_text (h t ht) (.inl rfl) hmem

/-- **The text of a signature without structs is that of no other.** -/
theorem text_injective {s r : Signature} (hs : s.All SchemaType.StructFree)
    (hr : r.All SchemaType.StructFree) (h : s.text = r.text) : s = r := by
  have hstop (rest : Text) : ∀ b ∈ (") -> (" ++ rest : Text).head?, b = 41 := fun b hb =>
    (Option.some.inj hb).symm
  simp only [text, List.append_assoc, List.append_cancel_left_eq] at h
  obtain ⟨hins, hrest⟩ := Text.append_inj_of_stop (parenthesis_not_mem_join hs.1)
    (parenthesis_not_mem_join hr.1) (hstop _) (hstop _) h
  have houts := List.append_cancel_right (List.append_cancel_left hrest)
  exact congrArg₂ Signature.mk (types_eq_of_join hs.1 hr.1 hins) (types_eq_of_join hs.2 hr.2 houts)

theorem equal_self {s : Signature} (h : s.All fun t => t.calls ≤ callLimit) :
    s.equal s = .ok true := by
  have hinputs :=
    decides_pairwiseEqual (fun t ht => SchemaType.decides_equal (h.1 t ht)) s.inputs
  have houtputs :=
    decides_pairwiseEqual (fun t ht => SchemaType.decides_equal (h.2 t ht)) s.outputs
  obtain ⟨same, hsame, hiff⟩ := hinputs.and houtputs
  rw [← hiff.2 ⟨rfl, rfl⟩]
  exact hsame

end Signature

/-- **The text of a signature tells which signature it is.** Two signatures without structs that
have the same text are the same, however far their arrays nest; where the text can be shown,
comparison finds them equal. It can if arrays nest within their limit and sizes have few enough
digits. -/
theorem signature_text_identifies {s r : Signature} (hs : s.All SchemaType.StructFree)
    (hr : r.All SchemaType.StructFree) :
    (s.text = r.text → s = r) ∧
    (∀ shown, s.text? = .ok shown → r.text? = .ok shown → s = r ∧ s.equal r = .ok true) ∧
    ((s.All fun t => t.depth ≤ arrayLimit) → s.All (SchemaType.SizesBelow (10 ^ digitLimit)) →
      s.text? = .ok s.text) := by
  refine ⟨Signature.text_injective hs hr, fun shown hshown hshown' => ?_, fun hdepth hsizes => ?_⟩
  · obtain ⟨rfl, hlimits⟩ := Signature.text?_eq_ok_iff.1 hshown
    obtain ⟨htext, -⟩ := Signature.text?_eq_ok_iff.1 hshown'
    obtain rfl := Signature.text_injective hs hr htext
    have hcalls {t : SchemaType} (ht : t.StructFree) (hlimit : t.arrayDepth < arrayLimit) :
        t.calls ≤ callLimit := by
      rw [SchemaType.calls_eq_arrayDepth ht]
      simp only [arrayLimit, callLimit] at hlimit ⊢
      omega
    exact ⟨rfl, Signature.equal_self ⟨fun t ht => hcalls (hs.1 t ht) (hlimits.1 t ht).1,
      fun t ht => hcalls (hs.2 t ht) (hlimits.2 t ht).1⟩⟩
  · have hlimits {t : SchemaType} (hdepth : t.depth ≤ arrayLimit)
        (hsizes : t.SizesBelow (10 ^ digitLimit)) : t.arrayDepth < arrayLimit ∧ t.sizesFit = true :=
      ⟨Nat.lt_of_lt_of_le t.arrayDepth_lt_depth hdepth, t.sizesFit_of_sizesBelow hsizes⟩
    exact Signature.text?_eq_ok_iff.2 ⟨rfl, fun t ht => hlimits (hdepth.1 t ht) (hsizes.1 t ht),
      fun t ht => hlimits (hdepth.2 t ht) (hsizes.2 t ht)⟩

/-- Three dozens of booleans and a field element, and an empty array of octets. -/
def dozensSignature : Signature :=
  ⟨[.array (.array .bool 12) 3, .field], [.array (.uint .w8 .whole) 0]⟩

/-- The same with the digits of the sizes on other sides of the brackets. -/
def singlesSignature : Signature :=
  ⟨[.array (.array .bool 1) 23, .field], [.array (.uint .w8 .whole) 0]⟩

theorem signature_text_identifies_dozens :
    (dozensSignature.All SchemaType.StructFree ∧ singlesSignature.All SchemaType.StructFree) ∧
    dozensSignature.text ≠ singlesSignature.text ∧
    (dozensSignature.All (fun t => t.depth ≤ arrayLimit) ∧
      dozensSignature.All (SchemaType.SizesBelow (10 ^ digitLimit))) ∧
    dozensSignature.text? = .ok "(bool[12][3], field) -> (u8[0])" ∧
    dozensSignature.equal dozensSignature = .ok true := by
  have hdozens : dozensSignature.All SchemaType.StructFree := by
    simp [Signature.All, dozensSignature]
  have hsingles : singlesSignature.All SchemaType.StructFree := by
    simp [Signature.All, singlesSignature]
  have hdepth : dozensSignature.All fun t => t.depth ≤ arrayLimit := by
    constructor <;> decide
  have hsizes : dozensSignature.All (SchemaType.SizesBelow (10 ^ digitLimit)) := by
    have htwelve := Decimal.lt_of_le_digitLimit (n := 12) (by decide)
    have hthree := Decimal.lt_of_le_digitLimit (n := 3) (by decide)
    have hzero := Decimal.lt_of_le_digitLimit (n := 0) (by decide)
    simp [Signature.All, dozensSignature, SchemaType.SizesBelow, SchemaType.Everywhere, htwelve,
      hthree, hzero]
  have hshown := (signature_text_identifies hdozens hsingles).2.2 hdepth hsizes
  refine ⟨⟨hdozens, hsingles⟩, ?_, ⟨hdepth, hsizes⟩, hshown, ?_⟩
  · intro h
    cases (signature_text_identifies hdozens hsingles).1 h
  · exact ((signature_text_identifies hdozens hdozens).2.1 _ hshown hshown).2

end CircuitAbi

import CircuitAbi.Failure
import CircuitAbi.Proofs.ArgumentNumeral

/-!
# How refusals read

Where an error is and what it says, spelled out beside the program that prints it.

* `PathText` — the steps to a node: a point before a key, brackets around the numeral of an index.
* `Text.QuotedAs` — a text between quotes; what needs no escape stands there as it is.
* `DecodeFault.Wording` — the sentence for each fault that a document can have.

A place is spelled in this way and no other (`Place.spelledAs_iff`).
-/

set_option autoImplicit false

namespace CircuitAbi

/-! ## Places -/

/-- A decimal numeral without needless zeros, and the number that it denotes. -/
def Decimal.Denotes (numeral : Text) (n : Nat) : Prop :=
  IsNumeral numeral ∧ Nat.ofDigits 10 (numeral.map (· - 48)).reverse = n

theorem Decimal.denotes_iff {numeral : Text} {n : Nat} : Denotes numeral n ↔ numeral = ofNat n := by
  rw [Denotes, ← Hexadecimal.value_eq_ofDigits]
  constructor
  · rintro ⟨hnumeral, rfl⟩
    exact hnumeral.ofNat_read.symm
  · rintro rfl
    exact ⟨isNumeral_ofNat n, read_ofNat n⟩

/-- Steps from node to node as messages spell them. -/
inductive PathText : List Accessor → Text → Prop
  | here : PathText [] []
  | key {name rest : Text} {path : List Accessor} :
    PathText path rest → PathText (.key name :: path) ("." ++ name ++ rest)
  | index {i : Nat} {numeral rest : Text} {path : List Accessor} : Decimal.Denotes numeral i →
    PathText path rest → PathText (.index i :: path) ("[" ++ numeral ++ "]" ++ rest)

/-- A path has one spelling. -/
theorem pathText_iff {path : List Accessor} {suffix : Text} :
    PathText path suffix ↔ suffix = path.flatMap Accessor.text := by
  constructor
  · intro h
    induction h with
    | here => rfl
    | key _ ih => rw [List.flatMap_cons, ← ih, Accessor.text]
    | index hnumeral _ ih =>
      rw [List.flatMap_cons, ← ih, Accessor.text, Decimal.denotes_iff.1 hnumeral]
  · rintro rfl
    induction path with
    | nil => exact .here
    | cons a path ih =>
      cases a with
      | key name => exact .key ih
      | index i => exact .index (Decimal.denotes_iff.2 rfl) ih

/-- A place is spelled as a text, which is the root and the steps after it. -/
def Place.SpelledAs (p : Place) (q : Text) : Prop :=
  p.text = q ∧ ∃ suffix, PathText p.path suffix ∧ q = p.root ++ suffix

theorem Place.spelledAs_iff {p : Place} {q : Text} : p.SpelledAs q ↔ q = p.text := by
  constructor
  · rintro ⟨rfl, -⟩
    rfl
  · rintro rfl
    exact ⟨rfl, _, pathText_iff.2 rfl, rfl⟩

/-! ## Quoted texts -/

namespace Text

/-- Characters that stand between quotes as they are: the printable ones of ASCII, but the single
quote (39) and the backslash (92). -/
def isUnescaped (c : CodePoint) : Bool := 32 ≤ c && c < 127 && c != 39 && c != 92

/-- A text is shown between quotes, single ones if it has no character that needs an escape. -/
structure QuotedAs (t shown : Text) : Prop where
  quoted : shown = Text.quoted t
  unescaped : t.all isUnescaped = true → shown = "'" ++ t ++ "'"

theorem quoteCodePoint_of_isUnescaped {c : CodePoint} (h : isUnescaped c = true) :
    quoteCodePoint singleQuote c = [c] := by
  simp only [isUnescaped, Bool.and_eq_true, decide_eq_true_eq, bne_iff_ne] at h
  obtain ⟨⟨⟨hlow, hhigh⟩, hquote⟩, hslash⟩ := h
  have hshort : shortEscape? singleQuote c = none := by
    have hmark : ¬ (c = singleQuote ∨ c = 92) := not_or.2 ⟨hquote, hslash⟩
    rw [shortEscape?, if_neg hmark, if_neg, if_neg, if_neg] <;>
      rintro rfl <;> revert hlow <;> decide
  have hprintable : isPrintable c = true := by
    rw [isPrintable, if_pos hhigh]
    exact decide_eq_true hlow
  rw [quoteCodePoint, hshort]
  exact if_pos hprintable

theorem quotedAs_quoted (t : Text) : t.QuotedAs (quoted t) := by
  refine ⟨rfl, fun hall => ?_⟩
  have hplain := List.all_eq_true.1 hall
  have hmark : quoteMark t = singleQuote := by
    refine if_neg fun h => ?_
    have hmem : singleQuote ∈ t := List.contains_iff_mem.1 (Bool.and_eq_true_iff.1 h).1
    exact absurd (hplain _ hmem) (by decide)
  have hbody : t.flatMap (quoteCodePoint singleQuote) = t := by
    rw [List.flatMap_congr fun c hc => quoteCodePoint_of_isUnescaped (hplain c hc)]
    exact List.flatMap_singleton' t
  rw [quoted, hmark, hbody]
  rfl

end Text

/-! ## Sentences -/

/-- What is said of a document for a fault of it. -/
inductive DecodeFault.Wording : DecodeFault → Text → Prop
  | notObject {role kind : Text} :
    Wording (.notObject role kind) (role ++ " must be an object, got " ++ kind)
  | notText {key kind shown : Text} : key.QuotedAs shown →
    Wording (.notText key kind) (shown ++ " must be a string, got " ++ kind)
  | notList {key kind shown : Text} : key.QuotedAs shown →
    Wording (.notList key kind) (shown ++ " must be an array, got " ++ kind)
  | notBoolean {key kind shown : Text} : key.QuotedAs shown →
    Wording (.notBoolean key kind) (shown ++ " must be a boolean, got " ++ kind)
  | discriminant {kind : Text} :
    Wording (.discriminant kind) ("type discriminant must be a string, got " ++ kind)
  | sizeNotWhole {kind : Text} :
    Wording (.sizeNotWhole kind) ("array size must be an integer, got " ++ kind)
  | missing {key shown : Text} : key.QuotedAs shown →
    Wording (.missing key) ("missing required field " ++ shown)
  | unexpected {key shown : Text} : key.QuotedAs shown →
    Wording (.unexpected key) ("unexpected field " ++ shown)
  | unknownKind {word shown : Text} : word.QuotedAs shown →
    Wording (.unknownKind word) ("unknown type kind " ++ shown ++
      " (expected one of: field, bool, u8, u16, u32, u64, array, struct)")
  | sizeNegative {n : Nat} {numeral : Text} : Decimal.Denotes numeral n →
    Wording (.sizeNegative (-n)) ("array size must be non-negative, got " ++ ("-" ++ numeral))
  | memberName : Wording (.invalidName .member) "struct member name must be a valid Unicode string"
  | structName : Wording (.invalidName .struct) "struct name must be a valid Unicode string"
  | inputName : Wording (.invalidName .input) "input name must be a valid Unicode string"
  | typeNesting : Wording (.nesting .type) "type document nested too deeply"
  | inputNesting : Wording (.nesting .input) "input document nested too deeply"
  | wholeNesting : Wording (.nesting .whole) "document nested too deeply"

end CircuitAbi

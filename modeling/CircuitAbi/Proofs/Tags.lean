import Mathlib.Data.List.Chain
import CircuitAbi.Markup.Render
import CircuitAbi.Proofs.Numeral
import CircuitAbi.Schema.Basic

/-!
# Texts without tags

A marked-up text can be wrong: its tags may close what is not open. A text in which no tag starts
cannot, and is shown as it stands.

* `Text.join_splitOn` — the pieces of a text, with the separator between them, are the text.
* `Markup.Untagged` — no opening bracket is followed by what a tag starts with.
* `Markup.renders_of_untagged` — such a text is rendered.
* `SchemaType.untagged_text` — the text of a type is such if the name of the struct in it is.
-/

set_option autoImplicit false

namespace CircuitAbi

namespace Text

theorem splitOn_cons (separator c : CodePoint) (t : Text) :
    splitOn separator (c :: t) =
      if c == separator then [] :: splitOn separator t
      else
        match splitOn separator t with
        | [] => [[c]]
        | piece :: rest => (c :: piece) :: rest := rfl

theorem splitOn_ne_nil (separator : CodePoint) (t : Text) : splitOn separator t ≠ [] := by
  cases t with
  | nil => exact nofun
  | cons c t =>
    rw [splitOn_cons]
    split
    · exact nofun
    · split <;> exact nofun

/-- Splitting loses nothing. -/
theorem join_splitOn (separator : CodePoint) (t : Text) :
    join [separator] (splitOn separator t) = t := by
  induction t with
  | nil => rfl
  | cons c t ih =>
    rw [splitOn_cons]
    cases hpieces : splitOn separator t with
    | nil => exact absurd hpieces (splitOn_ne_nil separator t)
    | cons piece rest =>
      rw [hpieces] at ih
      split
      · rename_i hc
        rw [beq_iff_eq] at hc
        subst hc
        show c :: join [c] (piece :: rest) = c :: t
        rw [ih]
      · show c :: join [separator] (piece :: rest) = c :: t
        rw [ih]

theorem cutAt_fst (separator : CodePoint) (t : Text) :
    (cutAt separator t).1 = t.takeWhile (· != separator) := by
  unfold cutAt
  dsimp only
  split <;> rfl

end Text

namespace Markup

/-- A text can be rendered. -/
def Renders (t : Text) : Prop := ∃ shown, render t = .ok shown

/-- No opening bracket (91) in a text is followed by what a tag starts with. -/
def Untagged (t : Text) : Prop := t.IsChain fun b c => b = 91 → Tag.isStart c = false

instance (t : Text) : Decidable (Untagged t) :=
  inferInstanceAs (Decidable (t.IsChain fun b c => b = 91 → Tag.isStart c = false))

theorem untagged_of_not_mem {t : Text} (h : 91 ∉ t) : Untagged t := by
  induction t with
  | nil => exact .nil
  | cons b t ih =>
    have hb : b ≠ 91 := fun heq => h (heq ▸ List.mem_cons_self)
    have ht : 91 ∉ t := fun hmem => h (List.mem_cons_of_mem b hmem)
    exact List.isChain_cons.2 ⟨fun _ _ heq => absurd heq hb, ih ht⟩

/-- A piece that follows a bracket starts no tag. -/
theorem tag?_of_untagged {piece : Text} (h : Untagged (91 :: piece)) :
    TagScan.tag? piece = none := by
  have hstart {c : CodePoint} {content : Text} (hcut : (Text.cutAt 93 piece).1 = c :: content) :
      Tag.isStart c = false := by
    rw [Text.cutAt_fst] at hcut
    cases piece with
    | nil => cases hcut
    | cons b piece =>
      rw [List.takeWhile_cons] at hcut
      split at hcut
      · cases hcut
        exact (List.isChain_cons_cons.1 h).1 rfl
      · cases hcut
  unfold TagScan.tag?
  split
  · rename_i hcut
    rw [if_neg]
    rw [hstart (congrArg Prod.fst hcut)]
    exact Bool.false_ne_true
  · rfl

/-- Pieces that start no tag add none to what was read. -/
theorem pieces_foldl_step {pieces : List Text} (h : ∀ piece ∈ pieces, TagScan.tag? piece = none)
    (s : TagScan) : (pieces.foldl TagScan.step s).pieces = s.pieces := by
  induction pieces generalizing s with
  | nil => rfl
  | cons piece pieces ih =>
    obtain ⟨hpiece, hpieces⟩ := List.forall_mem_cons.1 h
    rw [List.foldl_cons, ih hpieces]
    unfold TagScan.step
    rw [hpiece]

/-- **A text in which no tag starts is rendered.** -/
theorem renders_of_untagged {t : Text} (h : Untagged t) : Renders t := by
  have hjoin := Text.join_splitOn 91 t
  unfold Renders render piecesOf
  cases hsplit : t.splitOn 91 with
  | nil => exact absurd hsplit (Text.splitOn_ne_nil 91 t)
  | cons first rest =>
    rw [hsplit] at hjoin
    -- every piece but the first follows a bracket
    have hnone : ∀ piece ∈ rest, TagScan.tag? piece = none := by
      intro piece hpiece
      obtain ⟨before, after, rfl⟩ := List.append_of_mem hpiece
      unfold Untagged at h
      rw [← hjoin, Text.join, List.flatMap_append, List.flatMap_cons, ← List.append_assoc,
        ← List.append_assoc] at h
      exact tag?_of_untagged h.left_of_append.right_of_append
    -- so the text is one plain piece, and nothing is closed
    dsimp only
    rw [pieces_foldl_step hnone]
    exact ⟨_, rfl⟩

theorem Untagged.append {s t : Text} (hs : Untagged s) (ht : Untagged t)
    (hstart : ∀ c ∈ t.head?, Tag.isStart c = false) : Untagged (s ++ t) :=
  List.IsChain.append hs ht fun _ _ c hc _ => hstart c hc

theorem exists_digit_of_mem_ofNat {n : Nat} {c : CodePoint} (h : c ∈ Decimal.ofNat n) :
    ∃ d < 10, c = 48 + d := by
  rw [Decimal.ofNat_eq_map_digits] at h
  obtain ⟨d, hd, rfl⟩ := List.mem_map.1 h
  exact ⟨d, Decimal.digits_lt n d hd, rfl⟩

theorem untagged_ofNat (n : Nat) : Untagged (Decimal.ofNat n) := by
  exact untagged_of_not_mem fun hmem => absurd (Decimal.mem_ofNat hmem).2 (by decide)

end Markup

namespace SchemaType

/-- The name of the struct that the text of a type shows. -/
def shownName? : SchemaType → Option Name
  | array element _ => element.shownName?
  | struct name _ => some name
  | _ => none

/-- **The text of a type starts no tag** of its own: sizes do not, whatever the name before them
ends in. -/
theorem untagged_text : ∀ {t : SchemaType},
    (∀ name ∈ t.shownName?, Markup.Untagged name.val) → Markup.Untagged t.text
  | .field, _ => by decide
  | .bool, _ => by decide
  | .uint width form, _ => by cases width <;> cases form <;> decide
  | .struct name _, h => h name rfl
  | .array element size, h => by
    have hdigits : ∀ c ∈ (Decimal.ofNat size).head?, Markup.Tag.isStart c = false := by
      have hstart : ∀ d < 10, Markup.Tag.isStart (48 + d) = false := by decide
      intro c hc
      obtain ⟨d, hd, rfl⟩ := Markup.exists_digit_of_mem_ofNat (List.mem_of_mem_head? hc)
      exact hstart d hd
    have helement : Markup.Untagged element.text := untagged_text h
    have hopened : Markup.Untagged (element.text ++ "[") :=
      helement.append (t := Text.ofString "[") (by decide) (by decide)
    exact (hopened.append (Markup.untagged_ofNat size) hdigits).append (t := Text.ofString "]")
      (by decide) (by decide)

end SchemaType

end CircuitAbi

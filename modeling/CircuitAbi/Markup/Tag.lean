import CircuitAbi.Limit
import CircuitAbi.Text.Quoted

/-!
# Tags in a text

A tag stands in square brackets and starts with a small letter, `#`, `/` or `@`; what is in brackets
and starts otherwise is text. Of the backslashes in front of a tag every two stand for one, and an
odd one makes the tag text.

* `Tag` — a name, and parameters after an equals sign.
* `piecesOf` — a text as plain pieces and tags, each tag with the position of its bracket.
* `Fault` — why a text with tags cannot be shown.
-/

set_option autoImplicit false

namespace CircuitAbi.Markup

/-- A tag: its name, and what stands after an equals sign. -/
structure Tag where
  name : Text
  parameters : Option Text

namespace Tag

/-- The tag that the text between brackets spells. -/
def ofText (t : Text) : Tag :=
  let (name, parameters) := Text.cutAt 61 t
  ⟨name, parameters⟩

/-- The tag in its brackets. -/
def text (tag : Tag) : Text :=
  match tag.parameters with
  | none => "[" ++ tag.name ++ "]"
  | some p => "[" ++ tag.name ++ "=" ++ p ++ "]"

/-- What a tag starts with: a small ASCII letter, `#` (35), `/` (47) or `@` (64). -/
def isStart (c : CodePoint) : Bool := (97 ≤ c && c ≤ 122) || c == 35 || c == 47 || c == 64

end Tag

/-- A part of a text: plain text, or a tag and where its bracket is. -/
inductive Piece
  | text (t : Text)
  | tag (position : Nat) (tag : Tag)

/-- Reading so far: the pieces and the plain text since the last of them, both latest first, and how
much has been read. -/
structure TagScan where
  pieces : List Piece
  pending : Text
  position : Nat

namespace TagScan

/-- The tag that a text after an opening bracket starts with, and the text after its closing bracket
(93). -/
def tag? (t : Text) : Option (Text × Text) :=
  match Text.cutAt 93 t with
  | (c :: content, some rest) => if Tag.isStart c then some (c :: content, rest) else none
  | _ => none

/-- One more opening bracket (91), with the text up to the next one. -/
def step (s : TagScan) (t : Text) : TagScan :=
  let position := s.position + 1 + t.length
  match tag? t with
  | none => ⟨s.pieces, t.reverse ++ 91 :: s.pending, position⟩
  | some (content, rest) =>
    let slashes := (s.pending.takeWhile (· == 92)).length
    let last :=
      if slashes % 2 = 1 then Piece.text ("[" ++ content ++ "]")
      else .tag s.position (.ofText content)
    ⟨last :: .text (List.replicate (slashes / 2) 92) :: .text (s.pending.drop slashes).reverse ::
      s.pieces, rest.reverse, position⟩

end TagScan

/-- The pieces of a text. -/
def piecesOf (t : Text) : List Piece :=
  match t.splitOn 91 with
  | [] => []
  | first :: rest =>
    let s := rest.foldl TagScan.step ⟨[], first.reverse, first.length⟩
    (.text s.pending.reverse :: s.pieces).reverse

/-- A fault of a marked-up text. -/
inductive Fault
  | notOpen (tag : Text) (position : Nat)
  | nothingOpen (position : Nat)
  | action (expression parameters reason : Text)
  | notLiteral (parameters : Text)
  | noNumeral
  | limit (limit : Limit)

/-- The wording of a fault; running out of nesting has none. -/
def Fault.message? : Fault → Option Text
  | notOpen tag position =>
    some ("closing tag '" ++ tag ++ "' at position " ++ Decimal.ofNat position ++
      " doesn't match any open tag")
  | nothingOpen position =>
    some ("closing tag '[/]' at position " ++ Decimal.ofNat position ++ " has nothing to close")
  | action expression parameters reason =>
    some ("error parsing " ++ Text.quoted expression ++ " in " ++ Text.quoted parameters ++ "; " ++
      reason)
  | notLiteral parameters => some ("error parsing " ++ Text.quoted parameters ++ "; *")
  | noNumeral => some "invalid literal for int() with base 10: ''"
  | limit l => l.message?

end CircuitAbi.Markup

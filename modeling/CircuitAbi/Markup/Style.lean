import CircuitAbi.Markup.Colour

/-!
# Styles

A style is spelled in words: attributes, each on or after `not` off, a colour, a background after
`on`, and a target after `link`. Styles spelled differently can be the same, so tags are matched by
the normal form of their names.

* `Style.read?` — the style that words spell.
* `Style.text` — the words of a style in a fixed order.
* `normalName` — the normal form of a name: that of the style it spells, or the name in small
  letters when it spells none.
-/

set_option autoImplicit false

namespace CircuitAbi.Markup

/-- What can be switched on and off in a style. -/
inductive Attribute
  | bold
  | dim
  | italic
  | underline
  | blink
  | blink2
  | reverse
  | conceal
  | strike
  | underline2
  | frame
  | encircle
  | overline
  deriving DecidableEq

namespace Attribute

/-- The attributes in the order in which styles are printed, with the full word for each. -/
def words : List (Attribute × Text) :=
  [(bold, "bold"), (dim, "dim"), (italic, "italic"), (underline, "underline"), (blink, "blink"),
    (blink2, "blink2"), (reverse, "reverse"), (conceal, "conceal"), (strike, "strike"),
    (underline2, "underline2"), (frame, "frame"), (encircle, "encircle"), (overline, "overline")]

/-- The short words. -/
def shortWords : List (Text × Attribute) :=
  [("b", bold), ("d", dim), ("i", italic), ("u", underline), ("r", reverse), ("c", conceal),
    ("s", strike), ("uu", underline2), ("o", overline)]

/-- The attribute that a word names. -/
def ofText? (t : Text) : Option Attribute :=
  match shortWords.lookup t with
  | some a => some a
  | none => (words.find? (·.2 == t)).map (·.1)

end Attribute

/-- A style: attributes that are on or off, the latest first, colours and a link. -/
structure Style where
  attributes : List (Attribute × Bool)
  colour : Option Text
  background : Option Text
  link : Option Text

namespace Style

/-- The style that changes nothing. -/
def plain : Style := ⟨[], none, none, none⟩

/-- The style with what words add to it; nothing when one is wrong. -/
def addWords? (s : Style) : List Text → Except Fault (Option Style)
  | [] => return some s
  | word :: rest => do
    let small := Text.lower word
    if small = "on" then
      match rest with
      | [] => return none
      | word :: rest =>
        match ← Colour.read? word with
        | some c => addWords? { s with background := some c } rest
        | none => return none
    else if small = "not" then
      match rest with
      | [] => return none
      | word :: rest =>
        match Attribute.ofText? word with
        | some a => addWords? { s with attributes := (a, false) :: s.attributes } rest
        | none => return none
    else if small = "link" then
      match rest with
      | [] => return none
      | word :: rest => addWords? { s with link := some word } rest
    else
      match Attribute.ofText? small with
      | some a => addWords? { s with attributes := (a, true) :: s.attributes } rest
      | none =>
        match ← Colour.read? small with
        | some c => addWords? { s with colour := some c } rest
        | none => return none

/-- The style that a text spells. -/
def read? (t : Text) : Except Fault (Option Style) :=
  if Text.trim t = "none" then return some plain else addWords? plain (Text.words t)

/-- The words of a style. -/
def text (s : Style) : Text :=
  let attributes := Attribute.words.filterMap fun (a, word) =>
    (s.attributes.lookup a).map fun on => if on then word else "not " ++ word
  let background := s.background.map fun c => ("on " : Text) ++ c
  let link := s.link.map fun target => ("link " : Text) ++ target
  let words := attributes ++ s.colour.toList ++ background.toList ++ link.toList
  if words.isEmpty then "none" else Text.join " " words

end Style

/-- The normal form of the name of a tag. -/
def normalName (t : Text) : Except Fault Text := do
  match ← Style.read? t with
  | some s => return s.text
  | none => return Text.lower (Text.trim t)

end CircuitAbi.Markup

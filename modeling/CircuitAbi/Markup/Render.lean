import CircuitAbi.Markup.Action
import CircuitAbi.Markup.Emoji
import CircuitAbi.Markup.Style

/-!
# Text as a console shows it

* `literal` — a text without regard to tags: emoji in place of their codes, and no cursor controls.
* `render` — a text without its tags. A closing tag closes the latest open tag of its style, or the
  latest of all when it names none; tags may stay open at the end.
-/

set_option autoImplicit false

namespace CircuitAbi.Markup

/-- Characters that only move the cursor or ring the bell; a console shows none. -/
def isCursorControl (c : CodePoint) : Bool := c == 7 || c == 8 || c == 11 || c == 12 || c == 13

/-- A text as it is shown, without regard to tags. -/
def literal (t : Text) : Text := (Emoji.replace t).filter (!isCursorControl ·)

/-- The text without a backslash (92) at its end. -/
def dropSlash (t : Text) : Text := if t.getLast? = some 92 then t.dropLast else t

/-- The text with an opening bracket (91) in place of a backslash and a bracket. -/
def unescaped (t : Text) : Text :=
  let pieces := t.splitOn 91
  Text.join [91] (pieces.dropLast.map dropSlash ++ pieces.getLast?.toList)

/-- Showing so far: what is shown and the tags that are open, both latest first. -/
structure Rendering where
  shown : List Text
  opened : List Tag

namespace Rendering

/-- The tag that a closing tag with a name closes, and the tags that stay open. -/
def close (opened : List Tag) (tag : Tag) (position : Nat) (name : Text) :
    Except Fault (Tag × List Tag) :=
  if name.isEmpty then
    match opened with
    | [] => .error (.nothingOpen position)
    | latest :: rest => .ok (latest, rest)
  else do
    let name ← normalName name
    match opened.find? (·.name == name) with
    | none => .error (.notOpen tag.text position)
    | some found => .ok (found, opened.eraseP (·.name == name))

/-- One more piece; the name of a closing tag starts with a slash (47). -/
def step (r : Rendering) : Piece → Except Fault Rendering
  | .text t => .ok { r with shown := literal (unescaped t) :: r.shown }
  | .tag position tag => do
    match tag.name with
    | 47 :: name =>
      let (closed, opened) ← close r.opened tag position (Text.trim name)
      Action.check closed
      return { r with opened := opened }
    | name => return { r with opened := ⟨← normalName name, tag.parameters⟩ :: r.opened }

end Rendering

/-- A text without its tags, or what is wrong with them. -/
def render (t : Text) : Except Fault Text := do
  let r ← (piecesOf t).foldlM Rendering.step ⟨[], []⟩
  return r.shown.reverse.flatten

end CircuitAbi.Markup

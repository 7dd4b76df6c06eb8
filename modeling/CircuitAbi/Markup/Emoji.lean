import CircuitAbi.Markup.EmojiTable
import CircuitAbi.Number.Decimal
import CircuitAbi.Text.Blank
import CircuitAbi.Text.LetterCase
import Std.Data.HashMap

/-!
# Emoji codes

A code is the name of an emoji between colons, in any case. `-emoji` or `-text` after the name asks
for one of its two presentations. A text between colons that names no emoji stays, and its second
colon opens no other code.
-/

set_option autoImplicit false

namespace CircuitAbi.Markup.Emoji

/-- The code point that hexadecimal digits spell. -/
def codePoint (digits : Text) : CodePoint := Decimal.value 16 (digits.filterMap Hexadecimal.digit?)

/-- An entry of the table: the text before the equals sign (61), and the code points after it with
dashes (45) between them. -/
def entry (t : Text) : Text × Text :=
  let (name, codes) := Text.cutAt 61 t
  (name, ((codes.getD []).splitOn 45).map codePoint)

/-- The emoji by name. -/
def table : Std.HashMap Text Text := .ofList ((Text.words entryList).map entry)

/-- The presentations that a code can ask for, each with the selector that follows the emoji. -/
def presentations : List (Text × CodePoint) := [("-emoji", 0xFE0F), ("-text", 0xFE0E)]

/-- The name in a code, and the selector of the presentation that it asks for. -/
def presentation (code : Text) : Text × Text :=
  match presentations.find? (·.1.isSuffixOf code) with
  | some (ending, selector) => (code.take (code.length - ending.length), [selector])
  | none => (code, [])

/-- What a code between colons stands for. -/
def shown (code : Text) : Text :=
  let (name, selector) := presentation code
  match table[Text.lower name]? with
  | some emoji => emoji ++ selector
  | none => ":" ++ code ++ ":"

/-- Adds pieces that each follow a colon to what is done, latest first. A piece without blanks and
with a colon after it is a code, and the piece after that is none. -/
def addPieces (done : List Text) : List Text → List Text
  | [] => done
  | [last] => (":" ++ last) :: done
  | code :: next :: rest =>
    if code.any Text.isBlank then addPieces ((":" ++ code) :: done) (next :: rest)
    else addPieces (next :: shown code :: done) rest

/-- The text with emoji in place of their codes. Codes stand between colons (58). -/
def replace (t : Text) : Text :=
  match t.splitOn 58 with
  | [] => []
  | first :: pieces => (addPieces [first] pieces).reverse.flatten

end CircuitAbi.Markup.Emoji

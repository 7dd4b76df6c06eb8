import CircuitAbi.Codec.Decode
import CircuitAbi.Codec.Encode
import CircuitAbi.Files.Tree
import CircuitAbi.Json.Parser

/-!
# Interface descriptions from JSON text

A text is given as code points or as octets. Its size is bounded by the settings, which are always
read; then it has to be JSON, and the value a document. In a file the text of an interface has a
newline at its end.
-/

set_option autoImplicit false

namespace CircuitAbi

/-- A text to be read. -/
inductive Source
  | text (t : Text)
  | bytes (b : Bytes)

namespace Source

/-- The octets of a text, if it has a UTF-8 form. -/
def octets? : Source → Option Bytes
  | text t => if t.isUnicode then some (Utf8.encode t) else none
  | bytes b => some b

/-- A refusal of the text, at the root of the document. -/
def refuse {α : Type} (fault : DecodeFault) : Except Failure α :=
  .error (.decode ⟨fault, some ⟨documentRoot, []⟩⟩)

/-- The interface that a text describes, under given settings. -/
def decodeWith (c : Config) (strict : Option Bool) (source : Source) : Except Failure Abi :=
  match source.octets? with
  | none => refuse .notUnicode
  | some octets =>
    if octets.length > c.maxDocumentBytes then
      .error (.decode ⟨.tooLarge octets.length c.maxDocumentBytes.toNat, none⟩)
    else
      match Json.parse octets with
      | .error .malformed => refuse .malformed
      | .error (.notUtf8 fault) => refuse (.notUtf8 fault)
      | .error .nesting => refuse (.nesting .whole)
      | .ok doc => doc.decodeAbi (strict.getD c.strict)

/-- The interface that a text describes. -/
def decode (strict : Option Bool) (source : Source) : Operation Abi := do
  Operation.ofExcept (source.decodeWith (← Operation.settings) strict)

end Source

/-- The tree after writing an interface to a file. -/
def Abi.save (a : Abi) (pretty : Bool) (p : Path) (t : Tree) : Operation Tree := do
  let text ← a.fileText pretty
  Operation.ofExcept ((t.writeText p text).mapError Prod.fst)

/-- The interface that a file describes. -/
def Tree.abi (t : Tree) (p : Path) (strict : Option Bool) : Operation Abi := do
  let content ← Operation.ofExcept (t.load p)
  Source.decode strict (.bytes content)

end CircuitAbi

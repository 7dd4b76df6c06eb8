import CircuitAbi.Proofs.Limits
import CircuitAbi.Proofs.RoundTrip

/-!
# The compact text of what was read

The text of an interface on one line is the shortest of all texts that decode to it. Decoding keeps
what the document holds and drops blanks, unknown keys, repeated keys and needless escapes, so the
compact text is never longer than the text that was read (`compact_text_never_grows`); hence it is
within the same limits, decodes to the same interface and is its own compact text.
-/

set_option autoImplicit false

namespace CircuitAbi

/-- **The compact text never grows**: whatever text, as code points or as octets, was decoded to an
interface, in either mode and under any settings, the interface has a compact text of no more
octets. Under the same settings it decodes to the same interface, whose compact text it is again. -/
theorem compact_text_never_grows {c : Config} {strict : Option Bool} {source : Source} {a : Abi}
    (h : (source.decode strict).run.run c = .ok a) :
    ∃ octets t, source.octets? = some octets ∧ (a.text false none).run.run c = .ok t ∧
      (Utf8.encode t).length ≤ octets.length ∧
      ∀ again ∈ [Source.text t, Source.bytes (Utf8.encode t)], ∀ mode : Option Bool,
        (again.decode mode).run.run c = .ok a ∧
        (again.decode mode >>= fun b => b.text false none).run.run c = .ok t := by
  obtain ⟨octets, doc, hoctets, hsize, hparse, hdecode⟩ := Source.run_decode_eq_ok_iff.1 h
  obtain ⟨hwidths, d, hd, hembedded⟩ := Value.decodeAbi_eq_ok_iff.1 hdecode
  obtain ⟨-, rfl⟩ := Abi.document?_eq_ok_iff.1 hd
  have hplain := a.document_isPlain
  have hwithin := Value.Within.of_embedded hembedded (Json.within_of_parse hparse)
  have htext := Abi.run_text hwithin.numbers hwithin.nesting false none c
  have hlength : (Utf8.encode (Json.print .compact a.document)).length ≤ octets.length := by
    calc (Utf8.encode (Json.print .compact a.document)).length
        = a.document.weight := Json.length_print_compact hplain
      _ ≤ doc.weight := Value.weight_le_of_embedded hplain.isJson hembedded
      _ ≤ octets.length := Json.weight_le_of_parse hparse
  refine ⟨octets, _, hoctets, htext, hlength, fun again hagain mode => ?_⟩
  have hagainOctets :
      again.octets? = some (Utf8.encode (Json.print .compact a.document ++ [])) := by
    rw [List.append_nil]
    rcases List.mem_pair.1 hagain with rfl | rfl
    · exact Source.octets?_text (Json.isUnicode_print .compact hplain)
    · rfl
  have hagainDecode : (again.decode mode).run.run c = .ok a := by
    refine Source.run_decode_print hwidths hwithin.numbers hwithin.nesting .compact
      Json.reads_nil Json.separates_nil hagainOctets mode ?_
    rw [List.append_nil]
    exact Int.le_trans (Int.ofNat_le.2 hlength) hsize
  refine ⟨hagainDecode, ?_⟩
  rw [Operation.run_bind_ok hagainDecode]
  exact htext

/-- A text with a blank, an unknown key, a key that stands twice and a needless escape. -/
def wastefulSource : Source :=
  .text (Text.ofString "\x7b \"outputs\":[],\"v\":2,\"inputs\":[\x7b\"name\":\"b\"," ++
    Text.ofString "\"public\":true,\"type\":\"u8\",\"name\":\"\\u0061\"\x7d]\x7d")

/-- What it describes. -/
def wastefulInterface : Abi := ⟨[⟨"a", true, .uint .w8 .whole⟩], []⟩

-- the text is evaluated octet by octet
set_option maxRecDepth 2000

theorem compact_text_never_grows_wasteful :
    (wastefulSource.decode (some false)).run.run (Config.ofEnvironment []) =
        .ok wastefulInterface ∧
      ∃ octets t, wastefulSource.octets? = some octets ∧
        (wastefulInterface.text false none).run.run (Config.ofEnvironment []) = .ok t ∧
        (Utf8.encode t).length ≤ octets.length ∧
        ((Source.text t).decode (some true)).run.run (Config.ofEnvironment []) =
          .ok wastefulInterface := by
  have hdecode : (wastefulSource.decode (some false)).run.run (Config.ofEnvironment []) =
      .ok wastefulInterface := rfl
  obtain ⟨octets, t, hoctets, htext, hlength, hagain⟩ := compact_text_never_grows hdecode
  exact ⟨hdecode, octets, t, hoctets, htext, hlength, (hagain _ (.head _) (some true)).1⟩

end CircuitAbi

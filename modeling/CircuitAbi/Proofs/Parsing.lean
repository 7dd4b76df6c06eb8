import CircuitAbi.Json.Parser
import CircuitAbi.Proofs.Lexing

/-!
# Printed values read back

The machine of the parser takes the tokens of a value and has the value complete, with whatever
containers were open before still open (`Json.foldl_valueTokens`); the nesting of the value bounds
how far the stack grows meanwhile. With the tokens of printed text this gives the principal result:

* `Json.parse_print` — parsing the text of a plain value, in any style and with or without blanks at
  the end, gives the value.
-/

set_option autoImplicit false

namespace CircuitAbi

namespace Entries

theorem insert_of_not_mem {key : Text} {es : Entries} (h : key ∉ keys es) (v : Value) :
    insert key v es = es ++ [(key, v)] := by
  induction es with
  | nil => rfl
  | cons e es ih =>
    obtain ⟨k, w⟩ := e
    rw [keys_cons, List.mem_cons, not_or] at h
    rw [insert, if_neg (Ne.symm h.1), ih h.2]
    rfl

theorem foldl_insert_of_nodup {done es : Entries} (h : (keys (done ++ es)).Nodup) :
    es.foldl (fun done (k, v) => insert k v done) done = done ++ es := by
  induction es generalizing done with
  | nil => exact (List.append_nil done).symm
  | cons e es ih =>
    obtain ⟨k, v⟩ := e
    have hassoc : done ++ (k, v) :: es = (done ++ [(k, v)]) ++ es := by simp
    have hnew : k ∉ keys done := by
      rw [keys, List.map_append, List.nodup_append] at h
      intro hk
      exact h.2.2 k hk k List.mem_cons_self rfl
    rw [hassoc] at h
    rw [hassoc, ← ih h, ← insert_of_not_mem hnew]
    rfl

/-- Writing entries whose keys stand once leaves them as they are. -/
theorem ofList_of_nodup {es : Entries} (h : (keys es).Nodup) : ofList es = es :=
  @foldl_insert_of_nodup [] es h

end Entries

namespace Json

open Value (itemsNesting entriesNesting)

namespace Reader

theorem enter_of_lt {stack : List Frame} (h : stack.length < nestingLimit) (frame : Frame)
    (expect : Expect) : enter stack frame expect = .reading (frame :: stack) expect := by
  rw [enter, if_neg (Nat.not_le.2 h)]

end Reader

/-- The first token of a value closes no array, so the first item is read as any other. -/
theorem foldl_firstItem (v : Value) (stack : List Frame) (rest : List Token) :
    (valueTokens v ++ rest).foldl Reader.step (.reading stack .firstItem) =
      (valueTokens v ++ rest).foldl Reader.step (.reading stack .value) := by
  cases v with
  | list items => cases items <;> rfl
  | object entries => cases entries <;> rfl
  | _ => rfl

mutual

/-- The tokens of a value complete the value inside the open containers. -/
theorem foldl_valueTokens : ∀ (v : Value) (stack : List Frame) (rest : List Token), v.IsJson →
    stack.length + v.nesting ≤ nestingLimit →
      (valueTokens v ++ rest).foldl Reader.step (.reading stack .value) =
        rest.foldl Reader.step (Reader.complete v stack)
  | .null => fun _ _ _ _ => rfl
  | .bool _ => fun _ _ _ _ => rfl
  | .int _ => fun _ _ _ _ => rfl
  | .real _ => fun _ _ _ _ => rfl
  | .text _ => fun _ _ _ _ => rfl
  | .bytes _ => fun _ _ h => h.elim
  | .type _ => fun _ _ h => h.elim
  | .list [] => by
    intro stack rest _ hnesting
    simp only [Value.nesting] at hnesting
    show rest.foldl _ (Reader.step (Reader.enter stack _ _) _) = _
    rw [Reader.enter_of_lt (by omega)]
    rfl
  | .list (v :: vs) => by
    intro stack rest hjson hnesting
    simp only [Value.nesting, itemsNesting] at hnesting
    have hv := foldl_valueTokens v (.array [] :: stack)
      (itemTokens vs ++ .closeArray :: rest) hjson.1 (by simp only [List.length_cons]; omega)
    have hvs := foldl_itemTokens vs [v] stack rest hjson.2 (by omega)
    simp only [valueTokens, List.cons_append, List.append_assoc, List.nil_append, List.foldl_cons]
    show List.foldl _ (Reader.enter stack _ _) _ = _
    rw [Reader.enter_of_lt (by omega), foldl_firstItem, hv]
    exact hvs
  | .object [] => by
    intro stack rest _ hnesting
    simp only [Value.nesting] at hnesting
    show rest.foldl _ (Reader.step (Reader.enter stack _ _) _) = _
    rw [Reader.enter_of_lt (by omega)]
    rfl
  | .object ((k, v) :: es) => by
    intro stack rest hjson hnesting
    simp only [Value.nesting, entriesNesting] at hnesting
    have hv := foldl_valueTokens v (.object [] k :: stack)
      (entryTokens es ++ .closeObject :: rest) hjson.2.1 (by simp only [List.length_cons]; omega)
    have hes := foldl_entryTokens es [(k, v)] k stack rest hjson.2.2 (by omega)
    have hall : Entries.ofList ([(k, v)] ++ es) = (k, v) :: es := Entries.ofList_of_nodup hjson.1
    simp only [valueTokens, List.cons_append, List.append_assoc, List.nil_append, List.foldl_cons]
    show List.foldl _ (Reader.step (Reader.step (Reader.enter stack _ _) _) _) _ = _
    rw [Reader.enter_of_lt (by omega)]
    refine hv.trans (hes.trans ?_)
    rw [List.reverse_singleton, hall]

/-- The tokens of further items and of the end complete an array. -/
theorem foldl_itemTokens : ∀ (vs items : List Value) (stack : List Frame) (rest : List Token),
    Value.ItemsJson vs → stack.length + 1 + itemsNesting vs ≤ nestingLimit →
      (itemTokens vs ++ .closeArray :: rest).foldl Reader.step
          (.reading (.array items :: stack) .separator) =
        rest.foldl Reader.step (Reader.complete (.list (items.reverse ++ vs)) stack)
  | [] => by
    intro items stack rest _ _
    rw [List.append_nil]
    rfl
  | v :: vs => by
    intro items stack rest hjson hnesting
    simp only [itemsNesting] at hnesting
    have hv := foldl_valueTokens v (.array items :: stack)
      (itemTokens vs ++ .closeArray :: rest) hjson.1 (by simp only [List.length_cons]; omega)
    have hvs := foldl_itemTokens vs (v :: items) stack rest hjson.2 (by omega)
    simp only [itemTokens, List.cons_append, List.append_assoc, List.foldl_cons]
    rw [List.reverse_cons, List.append_assoc] at hvs
    exact hv.trans hvs

/-- The tokens of further entries and of the end complete an object. -/
theorem foldl_entryTokens : ∀ (es entries : List (Text × Value)) (key : Text) (stack : List Frame)
    (rest : List Token), Value.EntriesJson es →
      stack.length + 1 + entriesNesting es ≤ nestingLimit →
        (entryTokens es ++ .closeObject :: rest).foldl Reader.step
            (.reading (.object entries key :: stack) .separator) =
          rest.foldl Reader.step
            (Reader.complete (.object (Entries.ofList (entries.reverse ++ es))) stack)
  | [] => by
    intro entries key stack rest _ _
    rw [List.append_nil]
    rfl
  | (k, v) :: es => by
    intro entries key stack rest hjson hnesting
    simp only [entriesNesting] at hnesting
    have hv := foldl_valueTokens v (.object entries k :: stack)
      (entryTokens es ++ .closeObject :: rest) hjson.1 (by simp only [List.length_cons]; omega)
    have hes := foldl_entryTokens es ((k, v) :: entries) k stack rest hjson.2 (by omega)
    simp only [entryTokens, List.cons_append, List.append_assoc, List.foldl_cons]
    rw [List.reverse_cons, List.append_assoc] at hes
    exact hv.trans hes

end

theorem ofTokens_valueTokens {v : Value} (hjson : v.IsJson) (hnesting : v.nesting ≤ nestingLimit) :
    ofTokens (valueTokens v) = .ok v := by
  have hread := foldl_valueTokens v [] [] hjson (by simpa using hnesting)
  rw [List.append_nil] at hread
  rw [ofTokens, hread]
  rfl

/-- **Printed values read back**, whatever the style, also with blanks at the end. -/
theorem parse_print (s : Style) {v : Value} (hplain : v.IsPlain) (hfit : numbersFit v = true)
    (hnesting : v.nesting ≤ nestingLimit) {ending : Text} (hending : Reads ending [])
    (hends : Separates ending) : parse (Utf8.encode (print s v ++ ending)) = .ok v := by
  rw [parse, lex_print s hplain hfit hending hends]
  exact ofTokens_valueTokens hplain.isJson hnesting

end Json

end CircuitAbi

import CircuitAbi.Json.Parser
import Mathlib.Data.List.Induction

/-!
# What a token does

The effect of one token on the open containers, said once: it leaves them as they are, completes a
value in them, opens or closes one, or is refused. What holds of every value that is read follows
from this by cases.

* `Reader.Effect`, `Reader.effect_step` — one token.
* `Reader.atHeight_foldl` — as many containers are open as were opened and not closed.
* `exists_deep_of_parse` — nesting is refused only in text that opens too many containers.
-/

set_option autoImplicit false

namespace CircuitAbi.Json

namespace Token

/-- The value that a token is by itself. -/
def scalar? : Token → Option Value
  | .null => some .null
  | .bool b => some (.bool b)
  | .int n => some (.int n)
  | .real x => some (.real x)
  | .text (.ok t) => some (.text t)
  | _ => none

/-- How many more containers are open after a token. -/
def opening : Token → Int
  | .openArray | .openObject => 1
  | .closeArray | .closeObject => -1
  | _ => 0

theorem opening_of_scalar? {token : Token} {v : Value} (h : token.scalar? = some v) :
    token.opening = 0 := by
  cases token with
  | openArray | openObject | closeArray | closeObject => cases h
  | _ => rfl

/-- How many containers are open after tokens, of which none was open before. -/
def openings (tokens : List Token) : Int :=
  tokens.foldl (fun height token => height + token.opening) 0

theorem openings_concat (tokens : List Token) (token : Token) :
    openings (tokens ++ [token]) = openings tokens + token.opening := List.foldl_append

end Token

/-- The values that an open container holds so far. -/
def Frame.values : Frame → List Value
  | .array items => items
  | .object entries _ => entries.map Prod.snd

namespace Reader

/-- What a token can do with containers that are open. -/
inductive Effect : List Frame → Token → Reader → Prop
  /-- The containers and their values stay. -/
  | keep {stack stack' : List Frame} {token : Token} (expect : Expect) :
    stack'.map Frame.values = stack.map Frame.values → token.opening = 0 →
      Effect stack token (.reading stack' expect)
  | scalar {stack : List Frame} {token : Token} {v : Value} :
    token.scalar? = some v → Effect stack token (complete v stack)
  | enter {stack : List Frame} {token : Token} {frame : Frame} (expect : Expect) :
    frame.values = [] → token.opening = 1 → Effect stack token (enter stack frame expect)
  | closeArray {items : List Value} {stack : List Frame} :
    Effect (.array items :: stack) .closeArray (complete (.list items.reverse) stack)
  | closeObject {entries : Entries} {key : Text} {stack : List Frame} :
    Effect (.object entries key :: stack) .closeObject
      (complete (.object (Entries.ofList entries.reverse)) stack)
  | refuse {stack : List Frame} {token : Token} {fault : Fault} :
    fault ≠ .nesting → Effect stack token (.failed fault)

theorem effect_malformed {stack : List Frame} {token : Token} :
    Effect stack token (.failed .malformed) := .refuse nofun

theorem effect_value (stack : List Frame) (token : Token) :
    Effect stack token (value stack token) := by
  cases token with
  | null | bool | int | real => exact .scalar rfl
  | text t =>
    cases t with
    | ok t => exact .scalar rfl
    | error fault => exact .refuse nofun
  | openArray => exact .enter .firstItem rfl rfl
  | openObject => exact .enter .firstKey rfl rfl
  | closeObject | closeArray | colon | comma | bad => exact effect_malformed

theorem effect_key (stack : List Frame) (token : Token) : Effect stack token (key stack token) := by
  unfold key
  split
  · exact .keep .colon rfl rfl
  · exact .refuse nofun
  · exact effect_malformed

theorem effect_close (stack : List Frame) (token : Token) :
    Effect stack token (close stack token) := by
  unfold close
  split
  · exact .closeArray
  · exact .closeObject
  · exact effect_malformed

theorem effect_step (stack : List Frame) (expect : Expect) (token : Token) :
    Effect stack token ((Reader.reading stack expect).step token) := by
  cases expect with
  | value => exact effect_value stack token
  | firstItem =>
    simp only [step]
    split
    · exact effect_close stack _
    · exact effect_value stack token
  | firstKey =>
    simp only [step]
    split
    · exact effect_close stack _
    · exact effect_key stack token
  | key => exact effect_key stack token
  | colon =>
    simp only [step]
    split
    · exact .keep .value rfl rfl
    · exact effect_malformed
  | separator =>
    simp only [step, separator]
    split
    · exact .keep .value rfl rfl
    · exact .keep .key rfl rfl
    · exact effect_close stack token

/-! ## Height -/

/-- So many containers are open; where nesting was refused, one more would have been than may. -/
def AtHeight (n : Int) : Reader → Prop
  | .reading stack _ => (stack.length : Int) = n
  | .failed .nesting => (nestingLimit : Int) < n
  | _ => True

theorem atHeight_complete (v : Value) (stack : List Frame) :
    (complete v stack).AtHeight stack.length := by
  match stack with
  | [] => trivial
  | .array _ :: _ => rfl
  | .object _ _ :: _ => rfl

theorem atHeight_close (v : Value) (frame : Frame) (stack : List Frame) :
    (complete v stack).AtHeight ((frame :: stack).length + (-1)) := by
  have hheight : ((frame :: stack).length : Int) + (-1) = stack.length := by
    rw [List.length_cons]
    omega
  rw [hheight]
  exact atHeight_complete v stack

theorem Effect.atHeight {stack : List Frame} {token : Token} {r : Reader}
    (h : Effect stack token r) : r.AtHeight (stack.length + token.opening) := by
  cases h with
  | keep expect hvalues hopening =>
    have hlength := congrArg List.length hvalues
    rw [List.length_map, List.length_map] at hlength
    rw [hopening, Int.add_zero, AtHeight, hlength]
  | scalar hscalar =>
    rw [Token.opening_of_scalar? hscalar, Int.add_zero]
    exact atHeight_complete _ stack
  | enter expect hvalues hopening =>
    rw [hopening]
    unfold Reader.enter
    split
    · rename_i hfull
      show (nestingLimit : Int) < stack.length + 1
      omega
    · rfl
  | closeArray => exact atHeight_close _ _ _
  | closeObject => exact atHeight_close _ _ _
  | @refuse _ _ fault hfault =>
    cases fault with
    | nesting => exact absurd rfl hfault
    | malformed | notUtf8 => trivial

/-- After tokens as many containers are open as were opened and not closed, unless too many were
open before. -/
theorem atHeight_foldl (tokens : List Token) :
    (tokens.foldl step (.reading [] .value)).AtHeight (Token.openings tokens) ∨
      ∃ front, front <+: tokens ∧ (nestingLimit : Int) < Token.openings front := by
  induction tokens using List.reverseRecOn with
  | nil => exact .inl rfl
  | append_singleton tokens token ih =>
    rcases ih with hheight | ⟨front, hfront, hdeep⟩
    · rw [List.foldl_append, List.foldl_cons, List.foldl_nil, Token.openings_concat]
      generalize tokens.foldl step (.reading [] .value) = r at hheight ⊢
      match r with
      | .reading stack expect =>
        rw [← (hheight : (stack.length : Int) = Token.openings tokens)]
        exact .inl (effect_step stack expect token).atHeight
      | .finished v => exact .inl trivial
      | .failed .nesting => exact .inr ⟨tokens, List.prefix_append _ _, hheight⟩
      | .failed .malformed => exact .inl trivial
      | .failed (.notUtf8 _) => exact .inl trivial
    · exact .inr ⟨front, hfront.trans (List.prefix_append _ _), hdeep⟩

theorem foldl_step_failed (tokens : List Token) (fault : Fault) :
    tokens.foldl step (.failed fault) = .failed fault := by
  induction tokens with
  | nil => rfl
  | cons token tokens ih => exact ih

/-- One opening bracket after another, until no more containers may be open. -/
theorem foldl_step_openArray {n : Nat} {stack : List Frame} {expect : Expect}
    (hexpect : expect = .value ∨ expect = .firstItem) (hroom : stack.length ≤ nestingLimit)
    (h : nestingLimit < stack.length + n) :
    (List.replicate n Token.openArray).foldl step (.reading stack expect) = .failed .nesting := by
  induction n generalizing stack expect with
  | zero => exact absurd h (Nat.not_lt.2 hroom)
  | succ n ih =>
    have hstep : step (.reading stack expect) .openArray = enter stack (.array []) .firstItem := by
      rcases hexpect with rfl | rfl <;> rfl
    rw [List.replicate_succ, List.foldl_cons, hstep, enter]
    split
    · exact foldl_step_failed _ _
    · rename_i hlt
      refine ih (.inr rfl) (Nat.not_le.1 hlt) ?_
      rw [List.length_cons]
      omega

end Reader

/-- Nesting is refused only in text that opens too many containers. -/
theorem exists_deep_of_parse {bytes : Bytes} (h : parse bytes = .error .nesting) :
    ∃ front, front <+: lex bytes ∧ (nestingLimit : Int) < Token.openings front := by
  have hheight := Reader.atHeight_foldl (lex bytes)
  unfold parse ofTokens at h
  generalize (lex bytes).foldl Reader.step (.reading [] .value) = r at h hheight
  match r with
  | .reading _ _ | .finished _ | .failed .malformed | .failed (.notUtf8 _) => cases h
  | .failed .nesting =>
    rcases hheight with hdeep | hdeep
    · exact ⟨lex bytes, List.prefix_refl _, hdeep⟩
    · exact hdeep

end CircuitAbi.Json

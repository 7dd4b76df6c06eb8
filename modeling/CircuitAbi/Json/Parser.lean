import CircuitAbi.Json.Lexer
import CircuitAbi.Limit
import CircuitAbi.Value.Basic

/-!
# From tokens to a value

A machine that takes one token at a time. Containers that are still open stand on a stack, so the
limit on nesting is a bound on its height, met at the bracket that passes it even if it is never
closed. The first token that cannot stand where it does decides what is wrong with the text.
-/

set_option autoImplicit false

namespace CircuitAbi.Json

/-- Why a text is no value. -/
inductive Fault
  | malformed
  | notUtf8 (fault : Utf8.Fault)
  | nesting

/-- An open container with what it holds so far, latest first; an object also with the key whose
value is being read. -/
inductive Frame
  | array (items : List Value)
  | object (entries : List (Text × Value)) (key : Text)

/-- What may stand next. -/
inductive Expect
  | value
  | firstItem
  | firstKey
  | key
  | colon
  | separator

/-- The state of reading a value. -/
inductive Reader
  | reading (stack : List Frame) (expect : Expect)
  | finished (v : Value)
  | failed (fault : Fault)

namespace Reader

/-- A value has been read inside the open containers. -/
def complete (v : Value) : List Frame → Reader
  | [] => .finished v
  | .array items :: stack => .reading (.array (v :: items) :: stack) .separator
  | .object entries key :: stack => .reading (.object ((key, v) :: entries) key :: stack) .separator

/-- A container opens. -/
def enter (stack : List Frame) (frame : Frame) (expect : Expect) : Reader :=
  if stack.length ≥ nestingLimit then .failed .nesting
  else .reading (frame :: stack) expect

/-- The token with which a value begins. -/
def value (stack : List Frame) : Token → Reader
  | .null => complete .null stack
  | .bool b => complete (.bool b) stack
  | .int n => complete (.int n) stack
  | .real x => complete (.real x) stack
  | .text (.ok t) => complete (.text t) stack
  | .text (.error fault) => .failed (.notUtf8 fault)
  | .openArray => enter stack (.array []) .firstItem
  | .openObject => enter stack (.object [] []) .firstKey
  | _ => .failed .malformed

/-- The token of a key in the innermost object. -/
def key (stack : List Frame) (token : Token) : Reader :=
  match stack, token with
  | .object entries _ :: stack, .text (.ok t) => .reading (.object entries t :: stack) .colon
  | _, .text (.error fault) => .failed (.notUtf8 fault)
  | _, _ => .failed .malformed

/-- The innermost container closes. -/
def close (stack : List Frame) (token : Token) : Reader :=
  match stack, token with
  | .array items :: stack, .closeArray => complete (.list items.reverse) stack
  | .object entries _ :: stack, .closeObject =>
    complete (.object (Entries.ofList entries.reverse)) stack
  | _, _ => .failed .malformed

/-- The token after an item: a comma, or the end of the innermost container. -/
def separator (stack : List Frame) (token : Token) : Reader :=
  match stack, token with
  | .array _ :: _, .comma => .reading stack .value
  | .object _ _ :: _, .comma => .reading stack .key
  | _, _ => close stack token

/-- The state after one more token. -/
def step (reader : Reader) (token : Token) : Reader :=
  match reader with
  | .reading stack .value => value stack token
  | .reading stack .firstItem =>
    match token with
    | .closeArray => close stack token
    | _ => value stack token
  | .reading stack .firstKey =>
    match token with
    | .closeObject => close stack token
    | _ => key stack token
  | .reading stack .key => key stack token
  | .reading stack .colon =>
    match token with
    | .colon => .reading stack .value
    | _ => .failed .malformed
  | .reading stack .separator => separator stack token
  | .finished _ => .failed .malformed
  | .failed fault => .failed fault

/-- The outcome when the text ends here. -/
def finish : Reader → Except Fault Value
  | .finished v => .ok v
  | .failed fault => .error fault
  | .reading _ _ => .error .malformed

end Reader

/-- The value of tokens. -/
def ofTokens (tokens : List Token) : Except Fault Value :=
  (tokens.foldl Reader.step (.reading [] .value)).finish

/-- The value of JSON text. -/
def parse (bytes : Bytes) : Except Fault Value := ofTokens (lex bytes)

end CircuitAbi.Json

/-!
# Text as code points

A document may spell any sequence of code points, halves of surrogate pairs included, so text is a
list of code points rather than a `String`.

* `Text` — any sequence of code points.
* `Text.isUnicode` — no surrogate, nothing beyond the last plane: text that has a UTF-8 form.
* `Name` — text known to be Unicode; what types and inputs are called.
-/

set_option autoImplicit false

namespace CircuitAbi

/-- A code point, surrogates included. -/
abbrev CodePoint := Nat

/-- Any sequence of code points. -/
abbrev Text := List CodePoint

namespace Text

/-- The code points of a string. -/
def ofString (s : String) : Text := s.toList.map Char.toNat

/-- A code point that is a character: in range and no surrogate. -/
def isScalar (c : CodePoint) : Bool := c < 0xD800 || (0xE000 ≤ c && c < 0x110000)

/-- Half of a surrogate pair. -/
def isSurrogate (c : CodePoint) : Bool := 0xD800 ≤ c && c < 0xE000

/-- Text that has a UTF-8 form. -/
def isUnicode (t : Text) : Bool := t.all isScalar

/-- The texts one after the other, with a separator between neighbours. -/
def join (separator : Text) : List Text → Text
  | [] => []
  | t :: ts => t ++ ts.flatMap (separator ++ ·)

/-- The text without its longest ending of members of a class. -/
def dropEnding (p : CodePoint → Bool) (t : Text) : Text := (t.reverse.dropWhile p).reverse

/-- The text without the members of a class at either end. -/
def trimBy (p : CodePoint → Bool) (t : Text) : Text := dropEnding p (t.dropWhile p)

/-- The texts between the members of a class; one more than there are members. -/
def splitBy (p : CodePoint → Bool) (t : Text) : List Text :=
  t.foldr
    (fun c pieces =>
      if p c then [] :: pieces
      else
        match pieces with
        | [] => [[c]]
        | piece :: rest => (c :: piece) :: rest)
    [[]]

/-- The texts between occurrences of a separator. -/
def splitOn (separator : CodePoint) (t : Text) : List Text := splitBy (· == separator) t

/-- The text before the first separator, and the text after it if there is one. -/
def cutAt (separator : CodePoint) (t : Text) : Text × Option Text :=
  let before := t.takeWhile (· != separator)
  match t.drop before.length with
  | [] => (before, none)
  | _ :: after => (before, some after)

/-- An ASCII capital as its small letter, anything else as it is. -/
def asciiLower (c : CodePoint) : CodePoint := if 65 ≤ c && c ≤ 90 then c + 32 else c

end Text

instance : Coe String Text := ⟨Text.ofString⟩

/-- Text that has a UTF-8 form. -/
abbrev Name := { t : Text // t.isUnicode = true }

namespace Name

/-- The text as a name, when it is one. -/
def ofText? (t : Text) : Option Name :=
  if h : t.isUnicode = true then some ⟨t, h⟩ else none

@[simp] theorem ofText?_val (n : Name) : ofText? n.val = some n := by
  simp [ofText?, n.property]

theorem ofText?_eq_some_iff {t : Text} {n : Name} : ofText? t = some n ↔ n.val = t := by
  constructor
  · intro h
    unfold ofText? at h
    split at h
    · exact (Option.some.inj h) ▸ rfl
    · cases h
  · rintro rfl
    exact ofText?_val n

theorem isScalar_toNat (c : Char) : Text.isScalar c.toNat = true := by
  have h := c.valid
  simp only [UInt32.isValidChar, Nat.isValidChar] at h
  simp only [Text.isScalar, Bool.or_eq_true, Bool.and_eq_true, decide_eq_true_eq]
  show c.val.toNat < _ ∨ _ ≤ c.val.toNat ∧ c.val.toNat < _
  omega

/-- A string as a name; every character is Unicode. -/
def ofString (s : String) : Name :=
  ⟨Text.ofString s, by
    simp only [Text.isUnicode, Text.ofString, List.all_map, List.all_eq_true]
    exact fun c _ => isScalar_toNat c⟩

end Name

instance : Coe String Name := ⟨Name.ofString⟩

end CircuitAbi

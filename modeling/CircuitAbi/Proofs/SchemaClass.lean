import CircuitAbi.Schema.Abi

/-!
# Classes of types

A property of all types inside a type, the type itself included, and the classes that it gives:

* `SchemaType.WholeWidths` — every width was given as a whole number.
* `SchemaType.SizesBelow` — every array size is below a bound.
* `SchemaType.DistinctMembers` — the members of every struct have different names.
* `SchemaType.StructFree` — there is no struct.

An interface, or a signature, is of a class when all its inputs and outputs are.
-/

set_option autoImplicit false

namespace CircuitAbi

namespace SchemaType

mutual

/-- The property holds of the type and of every type inside it. -/
def Everywhere (p : SchemaType → Prop) : SchemaType → Prop
  | field => p field
  | bool => p bool
  | uint width form => p (uint width form)
  | array element size => p (array element size) ∧ element.Everywhere p
  | struct name members => p (struct name members) ∧ MembersEverywhere p members
termination_by structural t => t

/-- The property holds everywhere in the types of members. -/
def MembersEverywhere (p : SchemaType → Prop) : List (Name × SchemaType) → Prop
  | [] => True
  | (_, t) :: rest => t.Everywhere p ∧ MembersEverywhere p rest
termination_by structural ms => ms

end

theorem membersEverywhere_iff {p : SchemaType → Prop} {ms : List (Name × SchemaType)} :
    MembersEverywhere p ms ↔ ∀ m ∈ ms, m.2.Everywhere p := by
  induction ms with
  | nil => simp [MembersEverywhere]
  | cons m ms ih => simp [MembersEverywhere, ih]

/-- Every width was given as a whole number. -/
def WholeWidths : SchemaType → Prop := Everywhere fun t => ∀ w, t ≠ .uint w .real

@[simp] theorem wholeWidths_field : WholeWidths field := fun _ h => nomatch h

@[simp] theorem wholeWidths_bool : WholeWidths bool := fun _ h => nomatch h

@[simp] theorem wholeWidths_uint {w : Width} {form : NumberForm} :
    WholeWidths (uint w form) ↔ form = .whole := by
  cases form with
  | whole => simp [WholeWidths, Everywhere]
  | real => simp [WholeWidths, Everywhere]

@[simp] theorem wholeWidths_array {element : SchemaType} {size : Nat} :
    WholeWidths (array element size) ↔ element.WholeWidths := by
  simp [WholeWidths, Everywhere]

/-- Every array size is below a bound. -/
def SizesBelow (bound : Nat) : SchemaType → Prop :=
  Everywhere fun t => ∀ element size, t = .array element size → size < bound

theorem sizesBelow_array {bound : Nat} {element : SchemaType} {size : Nat} :
    SizesBelow bound (array element size) ↔ size < bound ∧ element.SizesBelow bound := by
  simp [SizesBelow, Everywhere]

theorem sizesBelow_struct {bound : Nat} {name : Name} {ms : List (Name × SchemaType)} :
    SizesBelow bound (struct name ms) ↔ ∀ m ∈ ms, m.2.SizesBelow bound := by
  simp [SizesBelow, Everywhere, membersEverywhere_iff]

/-- The members of every struct have different names. -/
def DistinctMembers : SchemaType → Prop :=
  Everywhere fun t => ∀ name ms, t = .struct name ms → (ms.map Prod.fst).Nodup

theorem distinctMembers_array {element : SchemaType} {size : Nat} :
    DistinctMembers (array element size) ↔ element.DistinctMembers := by
  simp [DistinctMembers, Everywhere]

theorem distinctMembers_struct {name : Name} {ms : List (Name × SchemaType)} :
    DistinctMembers (struct name ms) ↔
      (ms.map Prod.fst).Nodup ∧ ∀ m ∈ ms, m.2.DistinctMembers := by
  simp [DistinctMembers, Everywhere, membersEverywhere_iff]

/-- No struct stands in the type. -/
def StructFree : SchemaType → Prop := Everywhere fun t => ∀ name ms, t ≠ .struct name ms

@[simp] theorem structFree_field : StructFree field := fun _ _ h => nomatch h

@[simp] theorem structFree_bool : StructFree bool := fun _ _ h => nomatch h

@[simp] theorem structFree_uint {w : Width} {form : NumberForm} : StructFree (uint w form) :=
  fun _ _ h => nomatch h

@[simp] theorem structFree_array {element : SchemaType} {size : Nat} :
    StructFree (array element size) ↔ element.StructFree := by
  simp [StructFree, Everywhere]

@[simp] theorem not_structFree_struct {name : Name} {ms : List (Name × SchemaType)} :
    ¬ StructFree (struct name ms) :=
  fun h => h.1 name ms rfl

theorem depth_pos (t : SchemaType) : 1 ≤ t.depth := by
  cases t <;> simp [depth]

/-- Arrays of one item inside each other, around a boolean: a type for every depth. -/
def tower : Nat → SchemaType
  | 0 => bool
  | n + 1 => array (tower n) 1

theorem depth_tower (n : Nat) : (tower n).depth = n + 1 := by
  induction n with
  | zero => rfl
  | succ n ih => rw [tower, depth, ih]

theorem tower_distinctMembers (n : Nat) : (tower n).DistinctMembers := by
  induction n with
  | zero => exact fun _ _ h => nomatch h
  | succ n ih => exact distinctMembers_array.2 ih

end SchemaType

/-- Every input and output of an interface is of a class. -/
def Abi.All (p : SchemaType → Prop) (a : Abi) : Prop :=
  (∀ i ∈ a.inputs, p i.type) ∧ ∀ t ∈ a.outputs, p t

/-- Every input and output of a signature is of a class. -/
def Signature.All (p : SchemaType → Prop) (s : Signature) : Prop :=
  (∀ t ∈ s.inputs, p t) ∧ ∀ t ∈ s.outputs, p t

end CircuitAbi

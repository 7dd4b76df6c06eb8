import Mathlib.Data.List.Forall2

/-!
# Results one after the other

When a computation that may fail succeeds, and with what: a sequence of two, and one for each member
of a list. Decoding and checking are both built from these.

* `mapM_zipIdx_eq_ok` — numbered members succeed one by one.
* `mapM_eq_error` — what goes wrong with a list goes wrong with a member of it;
  `mapM_zipIdx_eq_error` — with the first member that fails.
* `FailsWith` — what can be said of every failure; kept by sequences and by members.
* `Agree` — two computations both return, or both fail; kept by sequences (`Agree.bind`) and by
  numbered members (`Agree.mapM_zipIdx`).
-/

set_option autoImplicit false

namespace CircuitAbi

variable {ε α β : Type}

theorem bind_eq_ok {x : Except ε α} {f : α → Except ε β} {b : β} :
    (x >>= f) = .ok b ↔ ∃ a, x = .ok a ∧ f a = .ok b := by
  cases x <;> simp [bind, Except.bind]

theorem ok_bind {a : α} {f : α → Except ε β} : ((.ok a : Except ε α) >>= f) = f a := rfl

theorem pure_eq_ok {a b : α} : (pure a : Except ε α) = .ok b ↔ a = b := by
  simp [pure, Except.pure]

/-- Numbered members have results one by one, where the number does not decide which. -/
theorem mapM_zipIdx_eq_ok {p : β → α → Prop} {f : β × Nat → Except ε α}
    (hf : ∀ {x i y}, f (x, i) = .ok y ↔ p x y) {xs : List β} {ys : List α} {start : Nat} :
    (xs.zipIdx start).mapM f = .ok ys ↔ List.Forall₂ p xs ys := by
  induction xs generalizing ys start with
  | nil => cases ys <;> simp [pure, Except.pure]
  | cons x xs ih =>
    rw [List.zipIdx_cons, List.mapM_cons]
    simp only [bind_eq_ok, hf, pure_eq_ok, ih, List.forall₂_cons_left_iff]
    constructor
    · rintro ⟨y, hy, rest, hrest, rfl⟩
      exact ⟨y, rest, hy, hrest, rfl⟩
    · rintro ⟨y, rest, hy, hrest, rfl⟩
      exact ⟨y, hy, rest, hrest, rfl⟩

/-- Members have results together when each has one. -/
theorem exists_mapM_eq_ok_iff {f : β → Except ε α} {xs : List β} :
    (∃ ys, xs.mapM f = .ok ys) ↔ ∀ x ∈ xs, ∃ y, f x = .ok y := by
  induction xs with
  | nil => simp [pure, Except.pure]
  | cons x xs ih =>
    rw [List.forall_mem_cons, ← ih, List.mapM_cons]
    simp only [bind_eq_ok, pure_eq_ok]
    constructor
    · rintro ⟨_, y, hy, ys, hys, -⟩
      exact ⟨⟨y, hy⟩, ys, hys⟩
    · rintro ⟨⟨y, hy⟩, ys, hys⟩
      exact ⟨y :: ys, y, hy, ys, hys, rfl⟩

/-- Members whose results are known have them together. -/
theorem mapM_eq_ok_map {f : β → Except ε α} {g : β → α} {xs : List β}
    (h : ∀ x ∈ xs, f x = .ok (g x)) : xs.mapM f = .ok (xs.map g) := by
  induction xs with
  | nil => rfl
  | cons x xs ih =>
    obtain ⟨hx, hxs⟩ := List.forall_mem_cons.1 h
    rw [List.mapM_cons, hx, ok_bind, ih hxs, ok_bind, pure_eq_ok, List.map_cons]

theorem bind_eq_error {x : Except ε α} {f : α → Except ε β} {e : ε} :
    (x >>= f) = .error e ↔ x = .error e ∨ ∃ a, x = .ok a ∧ f a = .error e := by
  cases x <;> simp [bind, Except.bind]

/-- What goes wrong with a list goes wrong with a member of it. -/
theorem mapM_eq_error {f : β → Except ε α} {xs : List β} {e : ε} (h : xs.mapM f = .error e) :
    ∃ x ∈ xs, f x = .error e := by
  induction xs with
  | nil => cases h
  | cons x xs ih =>
    rw [List.mapM_cons] at h
    rcases bind_eq_error.1 h with hx | ⟨y, -, hrest⟩
    · exact ⟨x, List.mem_cons_self, hx⟩
    · rcases bind_eq_error.1 hrest with hxs | ⟨ys, -, hys⟩
      · obtain ⟨x', hx', herror⟩ := ih hxs
        exact ⟨x', List.mem_cons_of_mem _ hx', herror⟩
      · cases hys

/-- What goes wrong with numbered members goes wrong with the first of them that fails. -/
theorem mapM_zipIdx_eq_error {f : β × Nat → Except ε α} {xs : List β} {start : Nat} {e : ε}
    (h : (xs.zipIdx start).mapM f = .error e) :
    ∃ k x, xs[k]? = some x ∧ f (x, start + k) = .error e ∧
      ∀ j < k, ∀ y, xs[j]? = some y → ∃ b, f (y, start + j) = .ok b := by
  induction xs generalizing start with
  | nil => cases h
  | cons x xs ih =>
    rw [List.zipIdx_cons, List.mapM_cons] at h
    rcases bind_eq_error.1 h with hx | ⟨b, hb, hrest⟩
    · exact ⟨0, x, rfl, hx, fun j hj => absurd hj (Nat.not_lt_zero j)⟩
    rcases bind_eq_error.1 hrest with hxs | ⟨_, _, hpure⟩
    · obtain ⟨k, y, hk, hy, hbefore⟩ := ih hxs
      refine ⟨k + 1, y, hk, ?_, fun j hj z hz => ?_⟩
      · rw [Nat.add_comm k, ← Nat.add_assoc]
        exact hy
      · cases j with
        | zero =>
          cases hz
          exact ⟨b, hb⟩
        | succ j =>
          rw [Nat.add_comm j, ← Nat.add_assoc]
          exact hbefore j (Nat.lt_of_succ_lt_succ hj) z hz
    · cases hpure

/-- Whenever a computation fails, the reason has a property. -/
def FailsWith (P : ε → Prop) (x : Except ε α) : Prop := ∀ e, x = .error e → P e

namespace FailsWith

variable {P : ε → Prop}

theorem ok (a : α) : FailsWith P (.ok a : Except ε α) := nofun

theorem error {e : ε} (h : P e) : FailsWith P (.error e : Except ε α) := by
  intro e' he
  cases he
  exact h

theorem bind {x : Except ε α} {f : α → Except ε β} (hx : FailsWith P x)
    (hf : ∀ a, x = .ok a → FailsWith P (f a)) : FailsWith P (x >>= f) := by
  intro e he
  rcases bind_eq_error.1 he with he | ⟨a, ha, he⟩
  · exact hx e he
  · exact hf a ha e he

theorem mapM {f : β → Except ε α} {xs : List β} (h : ∀ x ∈ xs, FailsWith P (f x)) :
    FailsWith P (xs.mapM f) := by
  intro e he
  obtain ⟨x, hx, he⟩ := mapM_eq_error he
  exact h x hx e he

end FailsWith

/-! ## Two computations -/

/-- Two computations agree: both return, with related results, or both fail, for related reasons. -/
inductive Agree (E : ε → ε → Prop) (R : α → β → Prop) : Except ε α → Except ε β → Prop
  | ok {a : α} {b : β} : R a b → Agree E R (.ok a) (.ok b)
  | error {e e' : ε} : E e e' → Agree E R (.error e) (.error e')

namespace Agree

variable {γ δ : Type} {E : ε → ε → Prop}

theorem refl (hE : ∀ e, E e e) (x : Except ε α) : Agree E Eq x x := by
  cases x with
  | ok a => exact .ok rfl
  | error e => exact .error (hE e)

theorem bind {R : α → β → Prop} {S : γ → δ → Prop} {x : Except ε α} {y : Except ε β}
    {f : α → Except ε γ} {g : β → Except ε δ} (h : Agree E R x y)
    (hf : ∀ a b, R a b → Agree E S (f a) (g b)) : Agree E S (x >>= f) (y >>= g) := by
  cases h with
  | ok hab => exact hf _ _ hab
  | error he => exact .error he

/-- Numbered members agree when those with the same number do. -/
theorem mapM_zipIdx {P : α → β → Prop} {f : α × Nat → Except ε γ} {g : β × Nat → Except ε γ}
    {xs : List α} {ys : List β} (h : List.Forall₂ P xs ys) {start : Nat}
    (hf : ∀ x y i, P x y → Agree E Eq (f (x, i)) (g (y, i))) :
    Agree E Eq ((xs.zipIdx start).mapM f) ((ys.zipIdx start).mapM g) := by
  induction h generalizing start with
  | nil => exact .ok rfl
  | cons hxy _ ih =>
    rw [List.zipIdx_cons, List.zipIdx_cons, List.mapM_cons, List.mapM_cons]
    refine (hf _ _ start hxy).bind ?_
    rintro z _ rfl
    refine ih.bind ?_
    rintro zs _ rfl
    exact .ok rfl

end Agree

end CircuitAbi

import CircuitAbi.Text.Basic

/-!
# Environment variables

The variables from which settings come, as names with values.
-/

set_option autoImplicit false

namespace CircuitAbi

/-- Variables with their values; the first of a name counts. -/
abbrev Environment := List (Text × Text)

namespace Environment

/-- The value of a variable. -/
def get? (name : Text) (env : Environment) : Option Text := env.lookup name

/-- The environment without a variable. -/
def unset (name : Text) (env : Environment) : Environment := env.filter (·.1 != name)

/-- The environment with a variable set. -/
def set (name value : Text) (env : Environment) : Environment := (name, value) :: unset name env

theorem get?_unset (name other : Text) (env : Environment) :
    get? other (unset name env) = if other = name then none else get? other env := by
  induction env with
  | nil => simp [unset, get?]
  | cons e env ih =>
    obtain ⟨n, v⟩ := e
    simp only [get?, unset] at ih
    simp only [get?, unset, List.filter_cons, List.lookup_cons]
    by_cases hn : n = name
    · subst hn
      by_cases ho : other = n
      · simpa [ho] using ih
      · have : (other == n) = false := by simpa using ho
        simpa [this, ho] using ih
    · by_cases ho : other = n
      · subst ho
        simp [hn]
      · have : (other == n) = false := by simpa using ho
        simpa [hn, this, List.lookup_cons] using ih

/-- Setting a variable gives it the value and changes no other. -/
theorem get?_set (name value other : Text) (env : Environment) :
    get? other (set name value env) = if other = name then some value else get? other env := by
  by_cases ho : other = name
  · subst ho
    simp [set, get?]
  · have hne : (other == name) = false := by simpa using ho
    have := get?_unset name other env
    simp only [get?] at this
    simpa [set, get?, List.lookup_cons, hne, ho] using this

end Environment

end CircuitAbi

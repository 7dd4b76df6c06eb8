import CircuitAbi.Failure
import CircuitAbi.Settings.Config

/-!
# Operations that may read the settings

An operation either is done without the settings or asks for them. Asking twice is asking once: both
times the same settings answer. Whether an operation asks can depend on its arguments, and a session
takes its snapshot of the settings at the first operation that does.

* `Reading` — done, or asking.
* `Operation` — a reading that may fail.
-/

set_option autoImplicit false

namespace CircuitAbi

/-- A result, or a result for each settings. -/
inductive Reading (α : Type)
  | done (a : α)
  | ask (answer : Config → α)

namespace Reading

variable {α β : Type}

/-- The result under given settings. -/
def run (c : Config) : Reading α → α
  | done a => a
  | ask answer => answer c

/-- One reading after another; both see the same settings. -/
def bind : Reading α → (α → Reading β) → Reading β
  | done a, next => next a
  | ask answer, next => ask fun c => (next (answer c)).run c

/-- Under given settings, one reading after another is one result after another. -/
@[simp] theorem run_bind (c : Config) (r : Reading α) (next : α → Reading β) :
    (r.bind next).run c = (next (r.run c)).run c := by
  cases r <;> rfl

instance : Monad Reading where
  pure := done
  bind := bind

/-- The settings. -/
def settings : Reading Config := ask id

end Reading

/-- An operation that may read the settings and may fail. -/
abbrev Operation := ExceptT Failure Reading

namespace Operation

variable {α β : Type}

/-- A result that needs no settings. -/
def ofExcept (r : Except Failure α) : Operation α := ExceptT.mk (.done r)

/-- A result that needs no settings, unless it meets a limit. -/
def ofLimited (r : Except Limit α) : Operation α :=
  ofExcept (match r with
    | .ok a => .ok a
    | .error l => .error (.limit l))

/-- The settings. -/
def settings : Operation Config := ExceptT.mk (.ask .ok)

/-- The outcome of an operation, failures included. -/
def attempt (op : Operation α) : Operation (Except Failure α) :=
  ExceptT.mk (op.run.bind fun r => .done (.ok r))

/-- A given value, or else one from the settings, which are read only then. -/
def orSetting (given : Option α) (setting : Config → α) : Operation α :=
  match given with
  | some a => pure a
  | none => return setting (← settings)

variable {ε : Type}

/-- An operation that succeeds under given settings hands its result to the next, whatever it may
fail with. -/
theorem run_bind_ok {c : Config} {op : ExceptT ε Reading α} {x : α} (h : op.run.run c = .ok x)
    (next : α → ExceptT ε Reading β) : (op >>= next).run.run c = (next x).run.run c := by
  show (Reading.bind op.run _).run c = _
  rw [Reading.run_bind, h]
  rfl

/-- One that fails leaves the next out. -/
theorem run_bind_error {c : Config} {op : ExceptT ε Reading α} {e : ε} (h : op.run.run c = .error e)
    (next : α → ExceptT ε Reading β) : (op >>= next).run.run c = .error e := by
  show (Reading.bind op.run _).run c = _
  rw [Reading.run_bind, h]
  rfl

theorem run_orSetting (c : Config) (given : Option α) (setting : Config → α) :
    (orSetting given setting).run.run c = .ok (given.getD (setting c)) := by
  cases given <;> rfl

end Operation

end CircuitAbi

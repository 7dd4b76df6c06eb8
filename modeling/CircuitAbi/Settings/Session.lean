import CircuitAbi.Settings.Reading

/-!
# Sessions

A session carries an environment and, once some operation has asked for the settings, the snapshot
it took then. Later changes of the environment reach the settings only after the snapshot is
dropped.
-/

set_option autoImplicit false

namespace CircuitAbi

/-- The environment, and the settings if they have been read. -/
structure Session where
  environment : Environment
  snapshot : Option Config

namespace Session

variable {α : Type}

/-- A session that has read nothing yet. -/
def start (env : Environment) : Session := ⟨env, none⟩

/-- The settings that an operation would see. -/
def settings (s : Session) : Config := s.snapshot.getD (.ofEnvironment s.environment)

/-- Performs a reading: one that asks sees the snapshot, and leaves one. -/
def perform (s : Session) : Reading α → α × Session
  | .done a => (a, s)
  | .ask answer => (answer s.settings, { s with snapshot := some s.settings })

/-- A reading answers as under the settings that the session shows. -/
theorem perform_fst (s : Session) (r : Reading α) : (s.perform r).1 = r.run s.settings := by
  cases r <;> rfl

/-- A reading leaves the settings that later readings see. -/
@[simp] theorem settings_perform (s : Session) (r : Reading α) :
    (s.perform r).2.settings = s.settings := by
  cases r <;> rfl

/-- Once there is a snapshot, the environment does not matter. -/
theorem settings_of_snapshot (s : Session) (c : Config) (h : s.snapshot = some c) :
    s.settings = c := by
  simp [settings, h]

/-- One step of a session: a change of the environment, dropping the snapshot, an operation, or a
look at the environment itself. -/
inductive Step (α : Type)
  | set (name value : Text)
  | unset (name : Text)
  | forget
  | perform (r : Reading α)
  | observe (look : Environment → α)

/-- The session after a step, and the step's answer if it has one. -/
def step (s : Session) : Step α → Option α × Session
  | .set name value => (none, { s with environment := s.environment.set name value })
  | .unset name => (none, { s with environment := s.environment.unset name })
  | .forget => (none, { s with snapshot := none })
  | .perform r => let (a, s) := s.perform r; (some a, s)
  | .observe look => (some (look s.environment), s)

/-- The answers of steps one after the other. -/
def run (s : Session) : List (Step α) → List (Option α)
  | [] => []
  | step :: rest => let (a, s) := s.step step; a :: s.run rest

end Session

end CircuitAbi

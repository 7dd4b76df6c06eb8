import CircuitAbi.Codec.Encode
import CircuitAbi.Codec.Text
import CircuitAbi.Program
import CircuitAbi.Settings.Session
import CircuitAbi.Witness.Argument
import Mathlib.Data.List.DropRight
import Mathlib.Data.List.Induction

/-!
# One snapshot of the settings

Which settings the operations of a session see, said of its steps and not of its state.

* `Session.beforeRead` — of the steps so far, those before the first that read the settings since
  they were last dropped.
* `Session.settings_after` — an operation sees the settings of the environment that those steps
  leave; `Session.settings_after_eq` — that is, of each variable what the last of them made it.
* `Session.operationAnswers_of_snapshot` — once there is a snapshot, the answers of operations
  depend on it alone until it is dropped.
* `Operation.Silent` — an operation that neither sees nor leaves a snapshot.

Principal result: `session_uses_one_snapshot`.
-/

set_option autoImplicit false

namespace CircuitAbi

variable {α β : Type}

/-- Whether a reading asks for the settings. -/
def Reading.asks : Reading α → Bool
  | .done _ => false
  | .ask _ => true

namespace Session

/-! ## Steps -/

namespace Step

/-- The step performs an operation that asks for the settings. -/
def reads : Step α → Bool
  | .perform r => r.asks
  | _ => false

/-- The step drops the snapshot. -/
def forgets : Step α → Bool
  | .forget => true
  | _ => false

/-- The step changes the environment. -/
def changes : Step α → Bool
  | .set _ _ => true
  | .unset _ => true
  | _ => false

/-- The environment after the step. -/
def environment (env : Environment) : Step α → Environment
  | .set name value => env.set name value
  | .unset name => env.unset name
  | _ => env

/-- The answer of the operation that the step performs, under given settings. -/
def answer? (c : Config) : Step α → Option α
  | .perform r => some (r.run c)
  | _ => none

end Step

/-- The environment after steps. -/
def environmentAfter (env : Environment) (steps : List (Step α)) : Environment :=
  steps.foldl Step.environment env

/-- The steps since the snapshot was last dropped. -/
def era (history : List (Step α)) : List (Step α) := history.rtakeWhile (!·.forgets)

/-- The steps before the first of the era that reads the settings; all of them if none does. -/
def beforeRead (history : List (Step α)) : List (Step α) :=
  history.rdropWhile (!·.forgets) ++ (era history).takeWhile (!·.reads)

/-- The session after steps. -/
def after (s : Session) (steps : List (Step α)) : Session :=
  steps.foldl (fun s step => (s.step step).2) s

/-- The answers of the operations among the steps, without those of other steps. -/
def operationAnswers (s : Session) (steps : List (Step α)) : List α :=
  (steps.zip (s.run steps)).filterMap fun (step, answer) =>
    match step with
    | .perform _ => answer
    | _ => none

/-! ## Runs -/

theorem run_append (s : Session) (steps rest : List (Step α)) :
    s.run (steps ++ rest) = s.run steps ++ (s.after steps).run rest := by
  induction steps generalizing s with
  | nil => rfl
  | cons step steps ih =>
    simp only [List.cons_append, run, ih]
    rfl

theorem length_run (s : Session) (steps : List (Step α)) : (s.run steps).length = steps.length := by
  induction steps generalizing s with
  | nil => rfl
  | cons step steps ih => simp only [run, List.length_cons, ih]

theorem after_concat (s : Session) (steps : List (Step α)) (step : Step α) :
    s.after (steps ++ [step]) = ((s.after steps).step step).2 := by
  rw [after, List.foldl_append]
  rfl

theorem environment_after (s : Session) (steps : List (Step α)) :
    (s.after steps).environment = environmentAfter s.environment steps := by
  induction steps using List.reverseRecOn with
  | nil => rfl
  | append_singleton steps step ih =>
    rw [after_concat, environmentAfter, List.foldl_append]
    show _ = Step.environment (environmentAfter s.environment steps) step
    rw [← ih]
    cases step with
    | perform r => cases r <;> rfl
    | _ => rfl

theorem operationAnswers_append (s : Session) (steps rest : List (Step α)) :
    s.operationAnswers (steps ++ rest) =
      s.operationAnswers steps ++ (s.after steps).operationAnswers rest := by
  rw [operationAnswers, run_append, List.zip_append (length_run s steps).symm,
    List.filterMap_append]
  rfl

/-! ## The snapshot -/

theorem era_concat (history : List (Step α)) (step : Step α) :
    era (history ++ [step]) = if step.forgets then [] else era history ++ [step] := by
  rw [era, List.rtakeWhile_concat]
  cases step.forgets <;> rfl

theorem beforeRead_of_not_read {history : List (Step α)}
    (h : (era history).any Step.reads = false) : beforeRead history = history := by
  have hall : (era history).takeWhile (!·.reads) = era history := by
    refine List.takeWhile_eq_self_iff.2 fun step hstep => ?_
    rw [List.any_eq_false] at h
    simpa using h step hstep
  rw [beforeRead, hall, era, List.rdropWhile_append_rtakeWhile]

/-- Once a step of the era reads, neither it nor a later one adds to the steps before it. -/
theorem beforeRead_concat_of_read {history : List (Step α)} {step : Step α}
    (hstep : step.forgets = false) (hread : (era history ++ [step]).any Step.reads = true) :
    beforeRead (history ++ [step]) = beforeRead history := by
  have htake : (era history ++ [step]).takeWhile (!·.reads) =
      (era history).takeWhile (!·.reads) := by
    rw [List.takeWhile_append]
    split
    · rename_i hlength
      -- no earlier step of the era reads, so it is this one
      have hself := (List.takeWhile_prefix (l := era history) (!·.reads)).eq_of_length hlength
      have hnone := List.takeWhile_eq_self_iff.1 hself
      have hreads : step.reads = true := by
        obtain ⟨reader, hmem, hreader⟩ := List.any_eq_true.1 hread
        rcases List.mem_append.1 hmem with hmem | hmem
        · exact absurd hreader (by simpa using hnone reader hmem)
        · rwa [List.mem_singleton.1 hmem] at hreader
      rw [hself, List.takeWhile_cons_of_neg (by simp [hreads]), List.append_nil]
    · rfl
  rw [beforeRead, beforeRead, era_concat, hstep, if_neg Bool.false_ne_true, htake,
    List.rdropWhile_concat_pos _ _ _ (by rw [hstep]; rfl)]

/-- The snapshot that steps leave: that of the first read of the era, if there was one. -/
def snapshotAfter (env : Environment) (history : List (Step α)) : Option Config :=
  if (era history).any Step.reads then
    some (.ofEnvironment (environmentAfter env (beforeRead history)))
  else none

/-- A session that holds what its steps leave shows the settings of the environment at the first
read, or as it stands when nothing was read. -/
theorem settings_eq {s : Session} {env : Environment} {history : List (Step α)}
    (henv : s.environment = environmentAfter env history)
    (hsnapshot : s.snapshot = snapshotAfter env history) :
    s.settings = .ofEnvironment (environmentAfter env (beforeRead history)) := by
  rw [settings, hsnapshot, snapshotAfter]
  split
  · rfl
  · rename_i hread
    rw [beforeRead_of_not_read (Bool.not_eq_true _ ▸ hread), ← henv]
    rfl

theorem snapshot_step (s : Session) (step : Step α) :
    (s.step step).2.snapshot =
      if step.forgets then none else if step.reads then some s.settings else s.snapshot := by
  cases step with
  | perform r => cases r <;> rfl
  | _ => rfl

/-- **What a session remembers** can be read off its steps. -/
theorem snapshot_after (env : Environment) (history : List (Step α)) :
    ((start env).after history).snapshot = snapshotAfter env history := by
  induction history using List.reverseRecOn with
  | nil => rfl
  | append_singleton history step ih =>
    have hsettings : ((start env).after history).settings =
        .ofEnvironment (environmentAfter env (beforeRead history)) :=
      settings_eq (environment_after (start env) history) ih
    rw [after_concat, snapshot_step, snapshotAfter, era_concat]
    by_cases hforgets : step.forgets = true
    · rw [if_pos hforgets, if_pos hforgets]
      rfl
    · rw [if_neg hforgets, if_neg hforgets]
      rw [Bool.not_eq_true] at hforgets
      by_cases hread : (era history ++ [step]).any Step.reads = true
      · rw [if_pos hread, beforeRead_concat_of_read hforgets hread, ← hsettings]
        split
        · rfl
        · rename_i hreads
          have hearlier : (era history).any Step.reads = true := by simpa [hreads] using hread
          rw [hsettings, ih, snapshotAfter, if_pos hearlier]
      · have hnone : (era history).any Step.reads = false ∧ step.reads = false := by
          simpa using hread
        rw [if_neg hread, hnone.2, if_neg Bool.false_ne_true, ih, snapshotAfter, hnone.1,
          if_neg Bool.false_ne_true]

/-- **The settings that the next operation sees** are those of the environment at the first read of
the era. -/
theorem settings_after (env : Environment) (history : List (Step α)) :
    ((start env).after history).settings =
      .ofEnvironment (environmentAfter env (beforeRead history)) :=
  settings_eq (environment_after (start env) history) (snapshot_after env history)

/-! ## Variables -/

/-- What a step makes of a variable: a value, or that there is none; nothing if it leaves it. -/
def Step.effect? (name : Text) : Step α → Option (Option Text)
  | .set other value => if name = other then some (some value) else none
  | .unset other => if name = other then some none else none
  | _ => none

/-- What the last step with an effect on a variable made of it. -/
def lastEffect? (name : Text) (steps : List (Step α)) : Option (Option Text) :=
  steps.reverse.findSome? (Step.effect? name)

/-- A step has its effect on a variable, and else leaves it as it is. -/
theorem get?_environment (env : Environment) (name : Text) (step : Step α) :
    (step.environment env).get? name = (step.effect? name).getD (env.get? name) := by
  cases step with
  | set other value =>
    rw [Step.environment, Environment.get?_set, Step.effect?]
    split <;> rfl
  | unset other =>
    rw [Step.environment, Environment.get?_unset, Step.effect?]
    split <;> rfl
  | _ => rfl

theorem get?_environmentAfter (env : Environment) (name : Text) (steps : List (Step α)) :
    (environmentAfter env steps).get? name = (lastEffect? name steps).getD (env.get? name) := by
  induction steps using List.reverseRecOn with
  | nil => rfl
  | append_singleton steps step ih =>
    have hlast : lastEffect? name (steps ++ [step]) =
        (step.effect? name).or (lastEffect? name steps) := by
      rw [lastEffect?, List.reverse_concat, List.findSome?_cons]
      cases step.effect? name <;> rfl
    rw [environmentAfter, List.foldl_concat, get?_environment, hlast]
    cases step.effect? name with
    | some effect => rfl
    | none => exact ih

/-- **What set and unset do to the settings that are seen**: of each variable, what the last step
before the first read made it counts, and nothing else of the steps. -/
theorem settings_after_eq (env : Environment) {history others : List (Step α)}
    (h : ∀ name, lastEffect? name (beforeRead history) = lastEffect? name (beforeRead others)) :
    ((start env).after history).settings = ((start env).after others).settings := by
  rw [settings_after, settings_after]
  simp only [Config.ofEnvironment, get?_environmentAfter, h]

/-! ## Answers after a read -/

theorem operationAnswers_singleton (s : Session) (step : Step α) :
    s.operationAnswers [step] = (step.answer? s.settings).toList := by
  cases step with
  | perform r => cases r <;> rfl
  | _ => rfl

/-- Once there is a snapshot, operations answer as it says, until it is dropped. -/
theorem operationAnswers_of_snapshot {s : Session} {c : Config} {steps : List (Step α)}
    (hsnapshot : s.snapshot = some c) (hsteps : ∀ step ∈ steps, step.forgets = false) :
    s.operationAnswers steps = steps.filterMap (Step.answer? c) := by
  induction steps generalizing s with
  | nil => rfl
  | cons step steps ih =>
    obtain ⟨hstep, hrest⟩ := List.forall_mem_cons.1 hsteps
    have hsettings : s.settings = c := settings_of_snapshot s c hsnapshot
    have hnext : (s.step step).2.snapshot = some c := by
      rw [snapshot_step, hstep, if_neg Bool.false_ne_true, hsettings, hsnapshot]
      split <;> rfl
    rw [← List.singleton_append, operationAnswers_append, operationAnswers_singleton,
      List.filterMap_append, hsettings]
    show _ ++ (s.step step).2.operationAnswers steps = _
    rw [ih hnext hrest]
    cases h : step.answer? c <;> simp [h]

/-- Changes of the environment have no answers of their own. -/
theorem filterMap_answer?_filter (c : Config) (steps : List (Step α)) :
    (steps.filter (!·.changes)).filterMap (Step.answer? c) = steps.filterMap (Step.answer? c) := by
  rw [List.filterMap_filter]
  congr 1
  funext step
  cases step <;> rfl

/-- **Changes of the environment after a read** reach no operation before the snapshot is
dropped. -/
theorem operationAnswers_of_read {env : Environment} {history steps others : List (Step α)}
    (hread : (era history).any Step.reads = true)
    (hsteps : ∀ step ∈ steps, step.forgets = false)
    (hothers : ∀ step ∈ others, step.forgets = false)
    (hsame : steps.filter (!·.changes) = others.filter (!·.changes)) :
    (start env).operationAnswers (history ++ steps) =
      (start env).operationAnswers (history ++ others) := by
  have hsnapshot := snapshot_after env history
  rw [snapshotAfter, if_pos hread] at hsnapshot
  rw [operationAnswers_append, operationAnswers_append,
    operationAnswers_of_snapshot hsnapshot hsteps, operationAnswers_of_snapshot hsnapshot hothers,
    ← filterMap_answer?_filter, hsame, filterMap_answer?_filter]

theorem getElem?_run (env : Environment) (history rest : List (Step α)) (r : Reading α) :
    ((start env).run (history ++ .perform r :: rest))[history.length]? =
      some (some (r.run (.ofEnvironment (environmentAfter env (beforeRead history))))) := by
  have hlength := length_run (start env) history
  rw [run_append, List.getElem?_append_right (Nat.le_of_eq hlength), hlength, Nat.sub_self,
    ← settings_after, ← perform_fst]
  rfl

end Session

/-! ## Operations without a snapshot -/

namespace Operation

/-- The operation has the same answer in every session and leaves the session as it was. -/
def Silent (op : Operation α) : Prop := ∃ answer, ∀ s : Session, s.perform op.run = (answer, s)

theorem silent_iff {op : Operation α} : op.Silent ↔ ∃ answer, op.run = .done answer := by
  constructor
  · rintro ⟨answer, hsilent⟩
    have hstart := hsilent (.start [])
    cases hrun : op.run with
    | done r => exact ⟨r, rfl⟩
    | ask f =>
      rw [hrun] at hstart
      cases hstart
  · rintro ⟨answer, hrun⟩
    exact ⟨answer, fun s => by rw [hrun]; rfl⟩

theorem silent_ofExcept (r : Except Failure α) : (ofExcept r).Silent := silent_iff.2 ⟨r, rfl⟩

theorem silent_ofLimited (r : Except Limit α) : (ofLimited r).Silent := silent_ofExcept _

theorem silent_orSetting (a : α) (setting : Config → α) : (orSetting (some a) setting).Silent :=
  silent_ofExcept (.ok a)

/-- One silent operation after another is silent. -/
theorem Silent.bind {op : Operation α} {next : α → Operation β} (hop : op.Silent)
    (hnext : ∀ a, (next a).Silent) : (op >>= next).Silent := by
  obtain ⟨r, hr⟩ := silent_iff.1 hop
  have hrun : (op >>= next).run = Reading.bind op.run (ExceptT.bindCont next) := rfl
  rw [silent_iff, hrun, hr]
  cases r with
  | ok a => exact silent_iff.1 (hnext a)
  | error e => exact ⟨.error e, rfl⟩

end Operation

open Operation

theorem Abi.silent_text_compact (a : Abi) : (a.text false none).Silent :=
  (silent_ofExcept _).bind fun _ => silent_ofLimited _

theorem Abi.silent_text_indent (a : Abi) (pretty : Bool) (spaces : Int) :
    (a.text pretty (some spaces)).Silent := by
  refine (silent_ofExcept _).bind fun doc => ?_
  rw [Option.isSome_some, Bool.or_true, if_pos rfl]
  exact (silent_orSetting _ _).bind fun _ => silent_ofLimited _

theorem Program.silent_entry (p : Program) {name : Text} (hname : name ≠ []) :
    (p.entry (some name)).Silent := by
  have hgiven : (some name).filter (!·.isEmpty) = some name := by
    simpa using hname
  rw [Program.entry, hgiven]
  exact (silent_orSetting _ _).bind fun _ => silent_ofExcept _

/-! ## Sessions -/

/-- **One snapshot of the settings.** Whatever the steps of a session, an operation answers as under
the settings of the environment at the first read since the snapshot was last dropped, or as it
stands when nothing has been read. So changes of the environment that are put in or left out after a
read change no answer of an operation before the snapshot is dropped. Decoding in a given mode,
checking below a given modulus, text on one line or with a given indentation and looking up an entry
by a given name have one answer in all sessions and leave them as they were; decoding text reads the
settings and leaves a snapshot, also in a given mode. -/
theorem session_uses_one_snapshot (env : Environment) :
    (∀ {α : Type} (history rest : List (Session.Step α)) (r : Reading α),
      ((Session.start env).run (history ++ .perform r :: rest))[history.length]? =
        some (some (r.run (.ofEnvironment
          (Session.environmentAfter env (Session.beforeRead history)))))) ∧
    (∀ {α : Type} (history steps others : List (Session.Step α)),
      (Session.era history).any Session.Step.reads = true →
      (∀ step ∈ steps ++ others, step.forgets = false) →
      steps.filter (!·.changes) = others.filter (!·.changes) →
      (Session.start env).operationAnswers (history ++ steps) =
        (Session.start env).operationAnswers (history ++ others)) ∧
    (∀ (strict : Bool) (root : Text) (doc : Value),
      (doc.typeOperation (some strict) root).Silent ∧
      (doc.inputOperation (some strict) root).Silent ∧ (doc.abiOperation (some strict)).Silent) ∧
    (∀ (v type : Value) (root : Text) (s : Signature) (modulus : Int),
      (checkArgument v type root (some modulus)).Silent ∧
      (checkArguments s v (some modulus)).Silent) ∧
    (∀ (a : Abi) (pretty : Bool) (spaces : Int),
      (a.text false none).Silent ∧ (a.text pretty (some spaces)).Silent) ∧
    (∀ (p : Program) (name : Text), name ≠ [] →
      (p.entry (some name)).Silent ∧ (p.abi (some name)).Silent) ∧
    ∀ (s : Session) (strict : Option Bool) (source : Source),
      s.perform (source.decode strict).run =
        (source.decodeWith s.settings strict, { s with snapshot := some s.settings }) := by
  refine ⟨fun history rest r => Session.getElem?_run env history rest r,
    fun history steps others hread hkept hsame => ?_, fun strict root doc => ?_,
    fun v type root s modulus => ?_, fun a pretty spaces => ?_, fun p name hname => ?_,
    fun s strict source => rfl⟩
  · rw [List.forall_mem_append] at hkept
    exact Session.operationAnswers_of_read hread hkept.1 hkept.2 hsame
  · have hmode := silent_orSetting strict Config.strict
    exact ⟨hmode.bind fun _ => silent_ofExcept _, hmode.bind fun _ => silent_ofExcept _,
      hmode.bind fun _ => silent_ofExcept _⟩
  · have hmodulus := silent_orSetting modulus Config.fieldModulus
    exact ⟨hmodulus.bind fun _ => silent_ofExcept _, hmodulus.bind fun _ => silent_ofExcept _⟩
  · exact ⟨a.silent_text_compact, a.silent_text_indent pretty spaces⟩
  · have hentry := p.silent_entry hname
    exact ⟨hentry, hentry.bind fun f => silent_ofExcept (.ok f.abi)⟩

/-- Decoding a document with an unknown key, in the mode that is set. -/
def annotatedReading : Reading (Except Failure Abi) :=
  (Value.abiOperation none
    (.object [("inputs", .list []), ("outputs", .list []), ("note", .null)])).run

/-- Lenient mode is read and then strict mode is set, which reaches no operation until the snapshot
is dropped. -/
theorem session_uses_one_snapshot_switched :
    (Session.era [.perform annotatedReading]).any Session.Step.reads = true ∧
    (Session.start [("ZKABI_STRICT", "off")]).operationAnswers
        ([.perform annotatedReading] ++ [.set "ZKABI_STRICT" "on", .perform annotatedReading]) =
      (Session.start [("ZKABI_STRICT", "off")]).operationAnswers
        ([.perform annotatedReading] ++ [.perform annotatedReading, .unset "ZKABI_STRICT"]) ∧
    (Session.start [("ZKABI_STRICT", "off")]).operationAnswers
        ([.perform annotatedReading] ++ [.perform annotatedReading, .unset "ZKABI_STRICT"]) =
      [.ok ⟨[], []⟩, .ok ⟨[], []⟩] ∧
    (Session.start [("ZKABI_STRICT", "off")]).operationAnswers
        [.perform annotatedReading, .set "ZKABI_STRICT" "on", .forget,
          .perform annotatedReading] =
      [.ok ⟨[], []⟩, .error (.decode ⟨.unexpected "note", some ⟨documentRoot, []⟩⟩)] ∧
    ("main" : Text) ≠ [] ∧ (Program.entry ⟨"m", []⟩ (some "main")).Silent := by
  have hall := session_uses_one_snapshot [("ZKABI_STRICT", "off")]
  have hname : ("main" : Text) ≠ [] := by decide
  exact ⟨rfl, hall.2.1 [.perform annotatedReading] _ _ rfl (by decide) rfl, rfl, rfl, hname,
    (hall.2.2.2.2.2.1 ⟨"m", []⟩ "main" hname).1⟩

end CircuitAbi

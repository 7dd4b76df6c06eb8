import CircuitAbi.Proofs.Refusals

/-!
# What a command line asks for

A run of the tool divides its arguments, sets up its log and performs a command. The division says
what is asked for; the rest of the run depends on the arguments through that alone.

* `exitCode?` — the exit code of a run; one that fails has none. `treeAfter` — the tree that it
  leaves.
* `run_eq` — the run as these three steps.
* `Asks` — arguments that ask for a task on the document at a path; `run_of_asks`,
  `run_of_not_asks`.
* `asks_of_positional` — the plain command line of every task does, whatever word gives the path.
-/

set_option autoImplicit false

namespace CircuitAbi.Command

/-- The exit code of a run, if it ends with one. -/
def exitCode? : Except Stop Outcome → Option Nat
  | .ok (.completed done) => some done.exit
  | .ok (.usage exit _) => some exit
  | .error _ => none

/-- The tree that a run leaves. -/
def treeAfter : Except Stop Outcome → Tree
  | .ok (.completed done) => done.tree
  | .ok (.usage _ tree) => tree
  | .error stop => stop.tree

/-- What can be asked of a document. -/
inductive Task
  | inspect (json : Bool)
  | check
  | fmt (compact : Bool) (out : Option Path)
  | signature
  | checkArgs (argsPath : Path)

/-- What a command line asks for: a task on the document at a path, or the version. -/
inductive Request
  | on (p : Path) (task : Task)
  | version

/-- What a task does with the interface of the document. -/
def Task.perform (p : Path) : Task → Run → Abi → Running Outcome
  | inspect json => Run.inspect json
  | check => Run.check p
  | fmt compact out => Run.fmt compact out
  | signature => Run.signature
  | checkArgs argsPath => Run.checkArgs argsPath

/-- What a request does. -/
def Request.perform (r : Run) : Request → Running Outcome
  | on p task => r.withAbi p (task.perform p)
  | version => return r.succeed (printed Release.baseVersion)

/-- What a command is asked for with options and paths. -/
def Verb.requestOf (verb : Verb) (given : Arguments) (out : Option Path) (paths : List Path) :
    Request :=
  match verb, paths with
  | .inspect, [p] => .on p (.inspect (given.has "--json"))
  | .check, [p] => .on p .check
  | .fmt, [p] => .on p (.fmt (given.has "--compact") out)
  | .signature, [p] => .on p .signature
  | .checkArgs, [p, argsPath] => .on p (.checkArgs argsPath)
  | _, _ => .version

/-- What a command is asked for with its own arguments, or the exit code of help or a complaint. -/
def Verb.request (verb : Verb) (own : List Text) : Except Nat Request :=
  match Arguments.ofList? verb.rules true own with
  | none => .error 2
  | some given =>
    if given.has "--help" then .error 0 else
    match optionPath? (given.value? "--out"), positionalPaths? verb.arity given.positional with
    | some out, some paths => .ok (verb.requestOf given out paths)
    | _, _ => .error 2

/-- A command with its own arguments, and whether debug lines are asked for before it. -/
structure Chosen where
  verbose : Bool
  verb : Verb
  own : List Text

/-- The command that arguments choose, or the exit code of help or a complaint. -/
def choose (setup : Setup) (args : List Text) : Except Nat Chosen :=
  let args :=
    match args with
    | first :: rest => if setup.dispatched && first == Release.distribution then rest else args
    | [] => []
  if args.isEmpty then .error 2 else
  match Arguments.ofList? rootRules false args with
  | none => .error 2
  | some given =>
    if given.has "--help" then .error 0 else
    match given.positional with
    | [] => .error 2
    | name :: own =>
      match Verb.names.lookup name with
      | none => .error (unknownExit given.positional)
      | some verb => .ok ⟨given.has "--verbose", verb, own⟩

/-- The least rank of the log lines that are shown, if any are. -/
def leastRank (setup : Setup) (verbose : Bool) (c : Config) : Except Failure (Option Nat) :=
  if setup.logging then
    some <$> (threshold (if verbose then "DEBUG" else c.logLevel)).mapError Failure.level
  else .ok none

theorem Verb.run_eq (verb : Verb) (own : List Text) (r : Run) (c : Config) :
    (verb.run own r).run.run c =
      match verb.request own with
      | .error exit => .ok (.usage exit r.tree)
      | .ok request => (request.perform r).run.run c := by
  unfold Verb.run Verb.request
  cases Arguments.ofList? verb.rules true own with
  | none => rfl
  | some given =>
    dsimp only
    by_cases hhelp : given.has "--help" = true
    · rw [if_pos hhelp, if_pos hhelp]
      rfl
    · rw [if_neg hhelp, if_neg hhelp]
      generalize positionalPaths? verb.arity given.positional = paths
      generalize optionPath? (given.value? "--out") = out
      match out, paths with
      | none, _ => rfl
      | some _, none => rfl
      | some out, some paths =>
        -- no command has more than two paths
        rcases paths with _ | ⟨p, _ | ⟨q, _ | ⟨_, _⟩⟩⟩ <;> cases verb <;> rfl

theorem run_eq (setup : Setup) (args : List Text) (tree : Tree) (c : Config) :
    (run setup args tree).run.run c =
      match choose setup args with
      | .error exit => .ok (.usage exit tree)
      | .ok chosen =>
        match leastRank setup chosen.verbose c with
        | .error e => .error ⟨e, tree⟩
        | .ok least => (chosen.verb.run chosen.own ⟨setup.logger, least, [], tree⟩).run.run c := by
  unfold run choose
  rcases args with _ | ⟨first, rest⟩
  · rfl
  dsimp only
  generalize (if (setup.dispatched && first == Release.distribution) = true then rest
    else first :: rest) = args
  by_cases hempty : args.isEmpty = true
  · rw [if_pos hempty, if_pos hempty]
    rfl
  rw [if_neg hempty, if_neg hempty]
  cases Arguments.ofList? rootRules false args with
  | none => rfl
  | some given =>
    dsimp only
    by_cases hhelp : given.has "--help" = true
    · rw [if_pos hhelp, if_pos hhelp]
      rfl
    rw [if_neg hhelp, if_neg hhelp]
    cases given.positional with
    | nil => rfl
    | cons name own =>
      dsimp only
      cases Verb.names.lookup name with
      | none => rfl
      | some verb =>
        generalize given.has "--verbose" = verbose
        cases hlogging : setup.logging with
        | false =>
          dsimp only [leastRank]
          rw [hlogging]
          cases verbose <;> rfl
        | true =>
          dsimp only [leastRank]
          rw [hlogging]
          cases verbose with
          | true => rfl
          | false =>
            -- the settings are read only when no debug lines are asked for
            have hlevel : (Config.logLevel <$> Running.lift tree .settings).run.run c =
                .ok c.logLevel := rfl
            refine (Operation.run_bind_ok hlevel _).trans ?_
            rw [if_neg Bool.false_ne_true]
            cases threshold c.logLevel <;> rfl

/-- Arguments ask for a task or the version: they choose a command, and what follows it is such as
the command takes. -/
def Asks (setup : Setup) (args : List Text) (verbose : Bool) (request : Request) : Prop :=
  ∃ verb own, choose setup args = .ok ⟨verbose, verb, own⟩ ∧ verb.request own = .ok request

/-- A run that is asked for something sets up its log and does it. -/
theorem run_of_asks {setup : Setup} {args : List Text} {verbose : Bool} {request : Request}
    (h : Asks setup args verbose request) (tree : Tree) (c : Config) :
    (run setup args tree).run.run c =
      match leastRank setup verbose c with
      | .error e => .error ⟨e, tree⟩
      | .ok least => (request.perform ⟨setup.logger, least, [], tree⟩).run.run c := by
  obtain ⟨verb, own, hchoose, hrequest⟩ := h
  rw [run_eq, hchoose]
  dsimp only
  cases leastRank setup verbose c with
  | error e => rfl
  | ok least =>
    dsimp only
    rw [Verb.run_eq, hrequest]

/-- Any other run ends without a command, and with the tree as it was. -/
theorem run_of_not_asks {setup : Setup} {args : List Text}
    (h : ∀ verbose request, ¬ Asks setup args verbose request) (tree : Tree) (c : Config) :
    (∃ exit, (run setup args tree).run.run c = .ok (.usage exit tree)) ∨
      ∃ e, (run setup args tree).run.run c = .error ⟨e, tree⟩ := by
  rw [run_eq]
  cases hchoose : choose setup args with
  | error exit => exact .inl ⟨exit, rfl⟩
  | ok chosen =>
    obtain ⟨verbose, verb, own⟩ := chosen
    dsimp only
    cases leastRank setup verbose c with
    | error e => exact .inr ⟨e, rfl⟩
    | ok least =>
      refine .inl ?_
      show ∃ exit, (verb.run own _).run.run c = .ok (.usage exit tree)
      rw [Verb.run_eq]
      cases hrequest : verb.request own with
      | error exit => exact ⟨exit, rfl⟩
      | ok request => exact absurd ⟨verb, own, hchoose, hrequest⟩ (h verbose request)

/-! ## Plain command lines -/

/-- A word that gives a path: it does not look like an option, and has no NUL. -/
structure Positional (t : Text) : Prop where
  notOption : isOption t = false
  noNul : (Path.ofText t).hasNul = false

theorem Positional.ofArgument? {t : Text} (h : Positional t) :
    Path.ofArgument? t = some (.ofText t) := by
  rw [Path.ofArgument?, h.noNul]
  rfl

/-- Such a word is taken as it is, before and after options. -/
theorem Arguments.scan_positional {t : Text} (h : Positional t) (rules : List OptionRule)
    (done : Arguments) (rest : List Text) : scan rules true done (t :: rest) =
      scan rules true { done with positional := done.positional ++ [t] } rest := by
  have hend : t ≠ "--" := by
    rintro rfl
    cases h.notOption
  rw [scan.eq_def]
  dsimp only
  rw [if_neg hend, h.notOption, if_neg Bool.false_ne_true, if_pos rfl]

theorem choose_of_mem (setup : Setup) {word : Text} {verb : Verb} (h : (word, verb) ∈ Verb.names)
    (own : List Text) : choose setup (word :: own) = .ok ⟨false, verb, own⟩ := by
  have hnames : ∀ n ∈ Verb.names, (n.1 == Release.distribution) = false ∧ isOption n.1 = false ∧
      n.1 ≠ "--" ∧ Verb.names.lookup n.1 = some n.2 := by decide
  obtain ⟨hdistribution, hoption, hend, hlookup⟩ := hnames _ h
  have hgiven : Arguments.ofList? rootRules false (word :: own) = some ⟨[], word :: own⟩ := by
    rw [Arguments.ofList?, Arguments.scan.eq_def]
    dsimp only
    rw [if_neg hend, hoption, if_neg Bool.false_ne_true, if_neg Bool.false_ne_true]
    rfl
  unfold choose
  simp only [hdistribution, Bool.and_false, Bool.false_eq_true, if_false, List.isEmpty_cons, hgiven,
    hlookup, Arguments.has, List.any_nil]

theorem Verb.request_eq_ok {verb : Verb} {own : List Text} {given : Arguments}
    {out : Option Path} {paths : List Path}
    (hgiven : Arguments.ofList? verb.rules true own = some given)
    (hhelp : given.has "--help" = false) (hout : optionPath? (given.value? "--out") = some out)
    (hpaths : positionalPaths? verb.arity given.positional = some paths) :
    verb.request own = .ok (verb.requestOf given out paths) := by
  unfold Verb.request
  rw [hgiven]
  dsimp only
  rw [hhelp, if_neg Bool.false_ne_true, hout, hpaths]

/-- A command of one path is asked for with a word that gives it and options after it. -/
theorem Verb.request_positional {verb : Verb} {t : Text} (ht : Positional t)
    (harity : verb.arity = 1) {flags : List Text} (options : List GivenOption) {out : Option Path}
    (hflags : Arguments.scan verb.rules true ⟨[], [t]⟩ flags = some ⟨options, [t]⟩)
    (hhelp : Arguments.has ⟨options, [t]⟩ "--help" = false)
    (hout : optionPath? (Arguments.value? ⟨options, [t]⟩ "--out") = some out) :
    verb.request (t :: flags) = .ok (verb.requestOf ⟨options, [t]⟩ out [.ofText t]) := by
  refine request_eq_ok ((Arguments.scan_positional ht _ _ _).trans hflags) hhelp hout ?_
  rw [harity, positionalPaths?, if_pos List.length_singleton, List.mapM_cons, ht.ofArgument?]
  rfl

/-- **Every task can be asked for**, by the name of its command, a word for the path, and what the
task takes beside it. -/
theorem asks_of_positional (setup : Setup) {t : Text} (ht : Positional t) :
    Asks setup ["check", t] false (.on (.ofText t) .check) ∧
    Asks setup ["signature", t] false (.on (.ofText t) .signature) ∧
    Asks setup ["inspect", t] false (.on (.ofText t) (.inspect false)) ∧
    Asks setup ["inspect", t, "--json"] false (.on (.ofText t) (.inspect true)) ∧
    Asks setup ["fmt", t] false (.on (.ofText t) (.fmt false none)) ∧
    Asks setup ["fmt", t, "--compact"] false (.on (.ofText t) (.fmt true none)) ∧
    (∀ o, (Path.ofText o).hasNul = false → Asks setup ["fmt", t, "--out", o] false
      (.on (.ofText t) (.fmt false (some (.ofText o))))) ∧
    ∀ o, Positional o → Asks setup ["check-args", t, o] false
      (.on (.ofText t) (.checkArgs (.ofText o))) := by
  refine ⟨⟨.check, _, choose_of_mem setup (by decide) _, ?_⟩,
    ⟨.signature, _, choose_of_mem setup (by decide) _, ?_⟩,
    ⟨.inspect, _, choose_of_mem setup (by decide) _, ?_⟩,
    ⟨.inspect, _, choose_of_mem setup (by decide) _, ?_⟩,
    ⟨.fmt, _, choose_of_mem setup (by decide) _, ?_⟩,
    ⟨.fmt, _, choose_of_mem setup (by decide) _, ?_⟩,
    fun o ho => ⟨.fmt, _, choose_of_mem setup (by decide) _, ?_⟩,
    fun o ho => ⟨.checkArgs, _, choose_of_mem setup (by decide) _, ?_⟩⟩
  · exact Verb.request_positional ht rfl [] rfl rfl rfl
  · exact Verb.request_positional ht rfl [] rfl rfl rfl
  · exact Verb.request_positional ht rfl [] rfl rfl rfl
  · exact Verb.request_positional ht rfl [("--json", [])] rfl rfl rfl
  · exact Verb.request_positional ht rfl [] rfl rfl rfl
  · exact Verb.request_positional ht rfl [("--compact", [])] rfl rfl rfl
  · have hout : optionPath? (some o) = some (some (.ofText o)) := by
      rw [optionPath?, Option.mapM_some, Path.ofArgument?, ho]
      rfl
    exact Verb.request_positional ht rfl [("--out", o)] rfl rfl hout
  · have hpaths : positionalPaths? 2 [t, o] = some [.ofText t, .ofText o] := by
      simp [positionalPaths?, ht.ofArgument?, ho.ofArgument?]
    have hgiven : Arguments.ofList? Verb.checkArgs.rules true [t, o] = some ⟨[], [t, o]⟩ :=
      (Arguments.scan_positional ht _ _ _).trans (Arguments.scan_positional ho _ _ _)
    exact Verb.request_eq_ok hgiven rfl rfl hpaths

end CircuitAbi.Command

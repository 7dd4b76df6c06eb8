import CircuitAbi.Proofs.Invocation

/-!
# The verdict on a document

Every command reads its document first. A file that cannot be read and one that describes no
interface end all of them alike; `check` tells whether there is anything more to do.

* `Tree.Describes` — a file can be read and describes an interface.
* `Rejected` — why no command goes on, with exit code and message.
* `run_of_rejected`, `run_of_describes` — a rejection does not depend on what is asked; on any other
  document the task is performed. `run_cases` — there is no third way, unless the log cannot be set
  up.

Principal result: `check_decides_documents`. A path with a NUL character is no path, and a command
line with one is refused before any document is read (`nul_argument_is_refused`).
-/

set_option autoImplicit false

namespace CircuitAbi

/-- The file at a path can be read, and its content describes an interface. -/
def Tree.Describes (t : Tree) (c : Config) (p : Path) (a : Abi) : Prop :=
  ∃ content, t.read p = .ok content ∧ (Source.decode none (.bytes content)).run.run c = .ok a

theorem Tree.Describes.unique {t : Tree} {c : Config} {p : Path} {a b : Abi}
    (ha : t.Describes c p a) (hb : t.Describes c p b) : a = b := by
  obtain ⟨content, hread, hdecode⟩ := ha
  obtain ⟨content', hread', hdecode'⟩ := hb
  rw [hread] at hread'
  cases hread'
  rw [hdecode] at hdecode'
  cases hdecode'
  rfl

namespace Command

/-- Why no command goes on with a document: its file cannot be read, or describes no interface; with
the exit code and the message. -/
inductive Rejected (t : Tree) (c : Config) (p : Path) : Nat → Text → Prop
  | unreadable {fault : FileFault} :
    t.read p = .error fault → Rejected t c p 2 ("cannot read " ++ p.text ++ ": " ++ fault.reason)
  | malformed {content : Bytes} {e : DecodeError} :
    t.read p = .ok content →
    (Source.decode none (.bytes content)).run.run c = .error (.decode e) →
    Rejected t c p 1 (p.text ++ ": " ++ Failure.located e.fault.message e.place)

/-- A document describes an interface or is rejected. -/
theorem describes_or_rejected (t : Tree) (c : Config) (p : Path) :
    (∃ a, t.Describes c p a) ∨ ∃ exit message, Rejected t c p exit message := by
  cases hread : t.read p with
  | error fault => exact .inr ⟨_, _, .unreadable hread⟩
  | ok content =>
    rcases (Source.bytes content).run_decode_cases none c with ⟨a, ha⟩ | ⟨e, he⟩
    · exact .inl ⟨a, content, hread, ha⟩
    · exact .inr ⟨_, _, .malformed hread he⟩

theorem Rejected.not_describes {t : Tree} {c : Config} {p : Path} {exit : Nat} {message : Text}
    (h : Rejected t c p exit message) (a : Abi) : ¬ t.Describes c p a := by
  rintro ⟨content, hread, hdecode⟩
  cases h with
  | unreadable hfault =>
    rw [hfault] at hread
    cases hread
  | malformed hcontent he =>
    rw [hcontent] at hread
    cases hread
    rw [he] at hdecode
    cases hdecode

/-- The exit code of a rejection tells its reason. -/
theorem Rejected.exit_cases {t : Tree} {c : Config} {p : Path} {exit : Nat} {message : Text}
    (h : Rejected t c p exit message) :
    (exit = 2 ∧ ∃ fault, t.read p = .error fault) ∨
      exit = 1 ∧ ∃ content, t.read p = .ok content := by
  cases h with
  | unreadable hfault => exact .inl ⟨rfl, _, hfault⟩
  | malformed hcontent _ => exact .inr ⟨rfl, _, hcontent⟩

theorem Rejected.exit_ne_zero {t : Tree} {c : Config} {p : Path} {exit : Nat} {message : Text}
    (h : Rejected t c p exit message) : exit ≠ 0 := by
  rcases h.exit_cases with ⟨rfl, -⟩ | ⟨rfl, -⟩ <;> decide

namespace Run

theorem run_withAbi_of_describes {r : Run} {p : Path} {c : Config} {a : Abi}
    (h : r.tree.Describes c p a) (next : Run → Abi → Running Outcome) :
    (r.withAbi p next).run.run c =
      (next (r.log .debug "zkabi.abi.decoding" ("decoded abi: " ++ sizes a)) a).run.run c := by
  obtain ⟨content, hread, hdecode⟩ := h
  rw [run_withAbi hread, hdecode]

/-- A rejected document ends every command in the same way. -/
theorem run_withAbi_of_rejected {r : Run} {p : Path} {c : Config} {exit : Nat} {message : Text}
    (h : Rejected r.tree c p exit message) (next : Run → Abi → Running Outcome) :
    (r.withAbi p next).run.run c = .ok (r.die exit message) := by
  cases h with
  | unreadable hfault =>
    unfold withAbi
    rw [hfault]
    rfl
  | malformed hcontent he => rw [run_withAbi hcontent, he]

end Run

/-- A run that has decoded its document. -/
def decoded (setup : Setup) (least : Option Nat) (t : Tree) (a : Abi) : Run :=
  Run.log ⟨setup.logger, least, [], t⟩ .debug "zkabi.abi.decoding" ("decoded abi: " ++ Run.sizes a)

section Asked

variable {setup : Setup} {args : List Text} {verbose : Bool} {p : Path} {task : Task} {t : Tree}
  {c : Config} {least : Option Nat}

/-- A rejected document ends every task asked of it with the exit code and the message, and nothing
on the output. -/
theorem run_of_rejected (hasks : Asks setup args verbose (.on p task))
    (hleast : leastRank setup verbose c = .ok least) {exit : Nat} {message : Text}
    (h : Rejected t c p exit message) :
    (run setup args t).run.run c =
      .ok (.completed ⟨exit, [], Text.trimEnd message ++ "\n", t⟩) := by
  rw [run_of_asks hasks, hleast]
  exact Run.run_withAbi_of_rejected (r := ⟨setup.logger, least, [], t⟩) h (task.perform p)

/-- On any other document the task is performed. -/
theorem run_of_describes (hasks : Asks setup args verbose (.on p task))
    (hleast : leastRank setup verbose c = .ok least) {a : Abi} (h : t.Describes c p a) :
    (run setup args t).run.run c = (task.perform p (decoded setup least t a) a).run.run c := by
  rw [run_of_asks hasks, hleast]
  exact Run.run_withAbi_of_describes (r := ⟨setup.logger, least, [], t⟩) h (task.perform p)

/-- **How a task asked of a document can end**: the log cannot be set up, the document is rejected,
or it describes an interface and the task is performed. -/
theorem run_cases (hasks : Asks setup args verbose (.on p task)) (t : Tree) (c : Config) :
    (∃ e, leastRank setup verbose c = .error e ∧
      (run setup args t).run.run c = .error ⟨e, t⟩) ∨
    (∃ exit message, Rejected t c p exit message ∧ (run setup args t).run.run c =
      .ok (.completed ⟨exit, [], Text.trimEnd message ++ "\n", t⟩)) ∨
    ∃ least a, leastRank setup verbose c = .ok least ∧ t.Describes c p a ∧
      (run setup args t).run.run c = (task.perform p (decoded setup least t a) a).run.run c := by
  cases hleast : leastRank setup verbose c with
  | error e =>
    refine .inl ⟨e, rfl, ?_⟩
    rw [run_of_asks hasks, hleast]
  | ok least =>
    rcases describes_or_rejected t c p with ⟨a, ha⟩ | ⟨exit, message, hrejected⟩
    · exact .inr (.inr ⟨least, a, rfl, ha, run_of_describes hasks hleast ha⟩)
    · exact .inr (.inl ⟨exit, message, hrejected, run_of_rejected hasks hleast hrejected⟩)

end Asked

end Command

/-! ## Levels -/

/-- The variable for the level of the log is not set, or names a level, in any case and with blanks
around it. -/
def Environment.NamesLevel (env : Environment) : Prop :=
  ∀ raw, env.get? "ZKABI_LOG_LEVEL" = some raw →
    Text.upper (Text.trim raw) ∈ Command.levels.map Prod.fst

theorem Environment.namesLevel_nil : Environment.NamesLevel [] := nofun

namespace Command

theorem logLevel_mem_levels {env : Environment} (h : env.NamesLevel) :
    (Config.ofEnvironment env).logLevel ∈ levels.map Prod.fst := by
  have hdefault : Text.upper "WARNING" ∈ levels.map Prod.fst := by decide
  show Text.upper (Setting.word "WARNING" (env.get? "ZKABI_LOG_LEVEL")) ∈ _
  cases hget : env.get? "ZKABI_LOG_LEVEL" with
  | none => exact hdefault
  | some raw =>
    unfold Setting.word
    dsimp only
    split
    · exact hdefault
    · exact h raw hget

/-- The log can be set up at every level that has a name. -/
theorem exists_leastRank {env : Environment} (h : env.NamesLevel) (setup : Setup)
    (verbose : Bool) : ∃ least, leastRank setup verbose (.ofEnvironment env) = .ok least := by
  have hthreshold : ∀ level ∈ levels.map Prod.fst, ∃ rank, threshold level = .ok rank := by
    intro level hlevel
    have hnone : ∀ level ∈ levels.map Prod.fst, LevelFault.names.lookup level = none := by decide
    unfold threshold
    rw [hnone level hlevel]
    exact ⟨_, rfl⟩
  have hlevel : (if verbose then ("DEBUG" : Text) else (Config.ofEnvironment env).logLevel) ∈
      levels.map Prod.fst := by
    cases verbose with
    | true => exact (by decide : ("DEBUG" : Text) ∈ levels.map Prod.fst)
    | false => exact logLevel_mem_levels h
  unfold leastRank
  split
  · obtain ⟨rank, hrank⟩ := hthreshold _ hlevel
    rw [hrank]
    exact ⟨_, rfl⟩
  · exact ⟨_, rfl⟩

/-- **The check decides whether a document describes an interface**, and every command rejects the
others in the same way. Where the log can be set up, the check of a document ends with an exit code:
0, and the word on the output, exactly when the file can be read and describes an interface under
the settings of the environment; 2 exactly when it cannot be read; and else 1. Where it is not 0,
every other task asked of the document ends with the same code and the same message, and with
nothing on the output. -/
theorem check_decides_documents {setup : Setup} {args : List Text} {verbose : Bool} {p : Path}
    (hasks : Asks setup args verbose (.on p .check)) (t : Tree) {env : Environment}
    (hlevel : env.NamesLevel) :
    ∃ done, (run setup args t).run.run (.ofEnvironment env) = .ok (.completed done) ∧
      ((done.exit = 0 ∧ done.stdout = "ok\n") ↔ ∃ a, t.Describes (.ofEnvironment env) p a) ∧
      (done.exit = 2 ↔ ∃ fault, t.read p = .error fault) ∧
      (done.exit = 1 ↔
        (∃ content, t.read p = .ok content) ∧ ¬ ∃ a, t.Describes (.ofEnvironment env) p a) ∧
      (done.exit ≠ 0 →
        ∀ (other : Setup) (args' : List Text) (verbose' : Bool) (task : Task),
          Asks other args' verbose' (.on p task) →
          ∃ done', (run other args' t).run.run (.ofEnvironment env) = .ok (.completed done') ∧
            done'.exit = done.exit ∧ done'.stderr = done.stderr ∧ done'.stdout = []) := by
  obtain ⟨least, hleast⟩ := exists_leastRank hlevel setup verbose
  rcases describes_or_rejected t (.ofEnvironment env) p with ⟨a, ha⟩ | ⟨exit, message, hrejected⟩
  · obtain ⟨content, hread, -⟩ := id ha
    refine ⟨_, run_of_describes hasks hleast ha, iff_of_true ⟨rfl, rfl⟩ ⟨a, ha⟩,
      iff_of_false (by simp) ?_, iff_of_false (by simp) fun h => h.2 ⟨a, ha⟩,
      fun h => absurd rfl h⟩
    rintro ⟨fault, hfault⟩
    rw [hread] at hfault
    cases hfault
  · have hnone : ¬ ∃ a, t.Describes (.ofEnvironment env) p a := fun ⟨a, ha⟩ =>
      hrejected.not_describes a ha
    refine ⟨_, run_of_rejected hasks hleast hrejected, iff_of_false ?_ hnone, ?_, ?_, ?_⟩
    · rintro ⟨-, hout⟩
      cases hout
    · rcases hrejected.exit_cases with ⟨rfl, hfault⟩ | ⟨rfl, content, hread⟩
      · exact iff_of_true rfl hfault
      · refine iff_of_false (by simp) ?_
        rintro ⟨fault, hfault⟩
        rw [hread] at hfault
        cases hfault
    · rcases hrejected.exit_cases with ⟨rfl, fault, hfault⟩ | ⟨rfl, hread⟩
      · refine iff_of_false (by simp) ?_
        rintro ⟨⟨content, hread⟩, -⟩
        rw [hread] at hfault
        cases hfault
      · exact iff_of_true rfl ⟨hread, hnone⟩
    · intro _ other args' verbose' task hother
      obtain ⟨least', hleast'⟩ := exists_leastRank hlevel other verbose'
      exact ⟨_, run_of_rejected hother hleast' hrejected, rfl, rfl, rfl⟩

/-- The tool as it is installed. -/
def installed : Setup := ⟨true, "zkabi.cli.abi_tool", true⟩

/-- A tree with one file, which holds a list in place of a document. -/
def listTree : Tree := Tree.ofList ["home"] [("abi.json", some (Utf8.encode "[]"))]

/-- An environment that asks for all log lines. -/
def debugEnvironment : Environment := [("ZKABI_LOG_LEVEL", " debug")]

theorem debugEnvironment_namesLevel : debugEnvironment.NamesLevel := by
  intro raw hraw
  cases hraw
  decide

theorem positional_abi : Positional "abi.json" := ⟨rfl, rfl⟩

theorem asks_check :
    Asks installed ["check", "abi.json"] false (.on (.ofText "abi.json") .check) :=
  (asks_of_positional installed positional_abi).1

theorem rejected_list : ∃ message,
    Rejected listTree (.ofEnvironment debugEnvironment) (.ofText "abi.json") 1 message := by
  have hread : listTree.read (.ofText "abi.json") = .ok (Utf8.encode "[]") := rfl
  have hdecode : (Source.decode none (.bytes (Utf8.encode "[]"))).run.run
      (.ofEnvironment debugEnvironment) =
        .error (.decode ⟨.notObject "ABI document" "array", some ⟨documentRoot, []⟩⟩) := rfl
  exact ⟨_, .malformed hread hdecode⟩

theorem check_decides_documents_list :
    (Asks installed ["check", "abi.json"] false (.on (.ofText "abi.json") .check) ∧
      debugEnvironment.NamesLevel) ∧
    (¬ ∃ a, listTree.Describes (.ofEnvironment debugEnvironment) (.ofText "abi.json") a) ∧
    ∃ done done',
      (run installed ["check", "abi.json"] listTree).run.run (.ofEnvironment debugEnvironment) =
        .ok (.completed done) ∧
      (run installed ["-v", "fmt", "--out", "o", "--compact", "abi.json"] listTree).run.run
        (.ofEnvironment debugEnvironment) = .ok (.completed done') ∧
      done.exit = 1 ∧ done'.exit = 1 ∧ done'.stderr = done.stderr ∧ done'.stdout = [] := by
  have hother : Asks installed ["-v", "fmt", "--out", "o", "--compact", "abi.json"] true
      (.on (.ofText "abi.json") (.fmt true (some (.ofText "o")))) :=
    ⟨.fmt, ["--out", "o", "--compact", "abi.json"], rfl, rfl⟩
  obtain ⟨message, hrejected⟩ := rejected_list
  have hnone : ¬ ∃ a, listTree.Describes (.ofEnvironment debugEnvironment) (.ofText "abi.json") a :=
    fun ⟨a, ha⟩ => hrejected.not_describes a ha
  obtain ⟨done, hdone, -, -, hmalformed, hagree⟩ :=
    check_decides_documents asks_check listTree debugEnvironment_namesLevel
  have hexit : done.exit = 1 := hmalformed.2 ⟨⟨Utf8.encode "[]", rfl⟩, hnone⟩
  obtain ⟨done', hdone', hsame, hstderr, hstdout⟩ :=
    hagree (by rw [hexit]; decide) installed _ true _ hother
  exact ⟨⟨asks_check, debugEnvironment_namesLevel⟩, hnone, done, done', hdone, hdone', hexit,
    hsame.trans hexit, hstderr, hstdout⟩

/-- A NUL character makes a command line wrong: where the document is malformed, which a check ends
with exit code 1, a path of arguments and a path of an output with a NUL in them are complaints
about the arguments, with exit code 2. -/
theorem nul_argument_is_refused :
    exitCode? ((run installed ["check", "abi.json"] listTree).run.run
      (.ofEnvironment debugEnvironment)) = some 1 ∧
    (run installed ["check-args", "abi.json", [97, 0, 98]] listTree).run.run
        (.ofEnvironment debugEnvironment) = .ok (.usage 2 listTree) ∧
    (run installed ["fmt", "abi.json", "--out", [97, 0, 98]] listTree).run.run
        (.ofEnvironment debugEnvironment) = .ok (.usage 2 listTree) := by
  obtain ⟨least, hleast⟩ := exists_leastRank debugEnvironment_namesLevel installed false
  have hchosen (args : List Text) (verb : Verb) (own : List Text)
      (hchoose : choose installed args = .ok ⟨false, verb, own⟩)
      (hrequest : verb.request own = .error 2) :
      (run installed args listTree).run.run (.ofEnvironment debugEnvironment) =
        .ok (.usage 2 listTree) := by
    rw [run_eq, hchoose]
    dsimp only
    rw [hleast]
    refine (Verb.run_eq verb own _ _).trans ?_
    rw [hrequest]
  refine ⟨?_, hchosen _ .checkArgs ["abi.json", [97, 0, 98]] rfl rfl,
    hchosen _ .fmt ["abi.json", "--out", [97, 0, 98]] rfl rfl⟩
  obtain ⟨message, hrejected⟩ := rejected_list
  rw [run_of_rejected asks_check hleast hrejected]
  rfl

end Command

end CircuitAbi

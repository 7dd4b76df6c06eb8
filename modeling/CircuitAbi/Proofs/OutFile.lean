import CircuitAbi.Codec.Text
import CircuitAbi.Proofs.Verdict

/-!
# The one file that a run writes

A run of the tool changes no file but the one that formatting is told to write, and that one only
when it succeeds. The file is emptied before the text is written, so this takes that nothing fails
in between: a canonical text has a UTF-8 form.

* `Tree.eq_of_writeText_error` — where such a text is not written the tree stays as it was.
* `Tree.read_of_writeText` — what was written is read back; the directories on the way to it stay.
* `Source.decode_text_of_decode` — what was decoded has texts in all forms, which decode to it.
* `Command.keeps_run` — a run that is not asked to format into a file leaves the tree.
* `Command.run_fmt_out` — one that is asked leaves it too, or has written the canonical text.

Principal result: `only_out_file_changes`.
-/

set_option autoImplicit false

namespace CircuitAbi

/-! ## Trees -/

namespace Tree

/-- Every route that had a file still has one. -/
theorem exists_mem_put (route : Route) (content : Bytes) {files : List (Route × Bytes)}
    {f : Route × Bytes} (h : f ∈ files) : ∃ f' ∈ put route content files, f'.1 = f.1 := by
  induction files with
  | nil => cases h
  | cons g files ih =>
    obtain ⟨r, old⟩ := g
    unfold put
    split
    · rcases List.mem_cons.1 h with rfl | hf
      · exact ⟨_, List.mem_cons_self, rfl⟩
      · exact ⟨f, List.mem_cons_of_mem _ hf, rfl⟩
    · rcases List.mem_cons.1 h with rfl | hf
      · exact ⟨_, List.mem_cons_self, rfl⟩
      · obtain ⟨f', hf', hroute⟩ := ih hf
        exact ⟨f', List.mem_cons_of_mem _ hf', hroute⟩

/-- Writing what is there changes nothing. -/
theorem put_of_lookup {route : Route} {content : Bytes} {files : List (Route × Bytes)}
    (h : files.lookup route = some content) : put route content files = files := by
  induction files with
  | nil => cases h
  | cons f files ih =>
    obtain ⟨r, old⟩ := f
    rw [List.lookup_cons] at h
    unfold put
    by_cases hr : r = route
    · subst hr
      rw [beq_self_eq_true] at h
      cases h
      rw [if_pos rfl]
    · have hne : (route == r) = false := by simpa using Ne.symm hr
      rw [hne] at h
      rw [if_neg hr, ih h]

/-- What is written twice was written once. -/
theorem put_put (route : Route) (content content' : Bytes) (files : List (Route × Bytes)) :
    put route content' (put route content files) = put route content' files := by
  induction files with
  | nil => simp [put]
  | cons f files ih =>
    obtain ⟨r, old⟩ := f
    by_cases hr : r = route
    · simp [put, hr]
    · simp [put, hr, ih]

theorem withFile_withFile (t : Tree) (route : Route) (content content' : Bytes) :
    (t.withFile route content).withFile route content' = t.withFile route content' := by
  simp only [withFile, put_put]

theorem isDirectory_withFile {t : Tree} {r : Route} (h : t.isDirectory r = true) (route : Route)
    (content : Bytes) : (t.withFile route content).isDirectory r = true := by
  unfold isDirectory at h ⊢
  rw [Bool.or_eq_true] at h ⊢
  rcases h with h | h
  · exact .inl h
  · obtain ⟨f, hf, hbelow⟩ := List.any_eq_true.1 h
    obtain ⟨f', hf', hroute⟩ := exists_mem_put route content hf
    refine .inr (List.any_eq_true.2 ⟨f', hf', ?_⟩)
    rw [hroute]
    exact hbelow

/-- A directory stays one when a file is written where there is no directory. -/
theorem node?_withFile {t : Tree} {r route : Route} (hr : t.node? r = some .directory)
    (hroute : t.node? route ≠ some .directory) (content : Bytes) :
    (t.withFile route content).node? r = some .directory := by
  have hne : r ≠ route := by
    rintro rfl
    exact hroute hr
  unfold node? at hr ⊢
  have hlookup : (t.withFile route content).files.lookup r = t.files.lookup r := by
    rw [withFile, lookup_put, if_neg hne]
  rw [hlookup]
  cases hold : t.files.lookup r with
  | some old =>
    rw [hold] at hr
    cases hr
  | none =>
    rw [hold] at hr
    dsimp only at hr ⊢
    split at hr
    · rename_i hdirectory
      rw [if_pos (isDirectory_withFile hdirectory route content)]
    · cases hr

/-- The way to a route stays the same, since it goes through directories. -/
theorem walk_withFile {t : Tree} {route : Route} (hroute : t.node? route ≠ some .directory)
    (content : Bytes) {names : List Text} {start r : Route} (h : t.walk start names = .ok r) :
    (t.withFile route content).walk start names = .ok r := by
  -- the way goes through directories alone, and the file is none of them
  induction names generalizing start with
  | nil => exact h
  | cons name names ih =>
    unfold walk at h ⊢
    cases hstart : t.node? start with
    | none =>
      rw [hstart] at h
      cases h
    | some node =>
      rw [hstart] at h
      cases node with
      | file old => cases h
      | directory =>
        rw [node?_withFile hstart hroute content]
        dsimp only at h ⊢
        split at h
        · cases h
        · rename_i hshort
          rw [if_neg hshort]
          exact ih h

theorem locate_withFile {t : Tree} {route : Route} (hroute : t.node? route ≠ some .directory)
    (content : Bytes) {p : Path} {r : Route} (h : t.locate p = .ok r) :
    (t.withFile route content).locate p = .ok r := by
  unfold locate at h ⊢
  split at h
  · cases h
  · rename_i hshort
    rw [if_neg hshort]
    exact walk_withFile hroute content h

theorem read_eq_ok_iff {t : Tree} {p : Path} {content : Bytes} :
    t.read p = .ok content ↔ ∃ route, t.locate p = .ok route ∧
      t.files.lookup route = some content := by
  unfold read
  cases t.locate p with
  | error fault => simp [bind, Except.bind]
  | ok route =>
    rw [ok_bind]
    unfold node?
    cases hlookup : t.files.lookup route with
    | some old => simp [hlookup, pure, Except.pure]
    | none => cases t.isDirectory route <;> simp [hlookup, throw, throwThe, MonadExceptOf.throw]

theorem create_eq_ok_iff {t opened : Tree} {p : Path} {route : Route} :
    t.create p = .ok (route, opened) ↔ t.locate p = .ok route ∧
      t.node? route ≠ some .directory ∧ opened = t.withFile route [] := by
  unfold create
  cases t.locate p with
  | error fault => simp [bind, Except.bind]
  | ok found =>
    rw [ok_bind]
    split
    · rename_i hdirectory
      simp only [throw, throwThe, MonadExceptOf.throw, reduceCtorEq, Except.ok.injEq, false_iff]
      rintro ⟨rfl, hnode, -⟩
      exact hnode hdirectory
    · rename_i hnode
      simp only [pure_eq_ok, Prod.mk.injEq, Except.ok.injEq]
      constructor
      · rintro ⟨rfl, rfl⟩
        exact ⟨rfl, hnode, rfl⟩
      · rintro ⟨rfl, -, rfl⟩
        exact ⟨rfl, rfl⟩

theorem writeText_eq_ok_iff {t t' : Tree} {p : Path} {text : Text} :
    t.writeText p text = .ok t' ↔ p.hasNul = false ∧ Utf8.surrogateRun? text = none ∧
      ∃ route, t.locate p = .ok route ∧ t.node? route ≠ some .directory ∧
        t' = t.withFile route (Utf8.encode text) := by
  unfold writeText
  cases p.hasNul with
  | true => simp
  | false =>
    simp only [Bool.false_eq_true, if_false, true_and]
    cases hcreate : t.create p with
    | error fault =>
      simp only [reduceCtorEq, false_iff]
      rintro ⟨-, route, hlocate, hnode, -⟩
      rw [create_eq_ok_iff.2 ⟨hlocate, hnode, rfl⟩] at hcreate
      cases hcreate
    | ok opened =>
      obtain ⟨route, opened⟩ := opened
      obtain ⟨hlocate, hnode, rfl⟩ := create_eq_ok_iff.1 hcreate
      cases Utf8.surrogateRun? text with
      | some run => simp
      | none =>
        simp only [Except.ok.injEq, true_and, withFile_withFile]
        constructor
        · rintro rfl
          exact ⟨route, hlocate, hnode, rfl⟩
        · rintro ⟨found, hfound, -, rfl⟩
          rw [hlocate] at hfound
          cases hfound
          rfl

/-- Where a text is not written, either the file could not be opened and the tree is as it was, or
the text has no UTF-8 form. -/
theorem eq_of_writeText_error {t t' : Tree} {p : Path} {text : Text} {e : Failure}
    (hunicode : text.isUnicode = true) (h : t.writeText p text = .error (e, t')) : t' = t := by
  unfold writeText at h
  split at h
  · cases h
    rfl
  · split at h
    · cases h
      rfl
    · rw [Utf8.surrogateRun?_of_isUnicode hunicode] at h
      cases h

/-- **What was written is read back.** -/
theorem read_of_writeText {t t' : Tree} {p : Path} {text : Text}
    (h : t.writeText p text = .ok t') : t'.read p = .ok (Utf8.encode text) := by
  obtain ⟨-, -, route, hlocate, hnode, rfl⟩ := writeText_eq_ok_iff.1 h
  refine read_eq_ok_iff.2 ⟨route, locate_withFile hnode _ hlocate, ?_⟩
  rw [withFile, lookup_put, if_pos rfl]

/-- Writing what a file holds changes nothing. -/
theorem eq_of_writeText_of_read {t t' : Tree} {p : Path} {text : Text}
    (hread : t.read p = .ok (Utf8.encode text)) (h : t.writeText p text = .ok t') : t' = t := by
  obtain ⟨-, -, route, hlocate, -, rfl⟩ := writeText_eq_ok_iff.1 h
  obtain ⟨route', hlocate', hlookup⟩ := read_eq_ok_iff.1 hread
  rw [hlocate] at hlocate'
  cases hlocate'
  rw [withFile, put_of_lookup hlookup]

/-- A file at a path without NUL that describes an interface can be loaded. -/
theorem run_abi_of_describes {t : Tree} {p : Path} {c : Config} {a : Abi}
    (hpath : p.hasNul = false) (h : t.Describes c p a) : (t.abi p none).run.run c = .ok a := by
  obtain ⟨content, hread, hdecode⟩ := h
  have hload : (Operation.ofExcept (t.load p)).run.run c = .ok content := by
    show t.load p = .ok content
    unfold load
    rw [hpath, hread]
    rfl
  unfold Tree.abi
  rw [Operation.run_bind_ok hload]
  exact hdecode

end Tree

/-! ## Canonical texts -/

namespace Source

variable {source : Source} {strict : Option Bool} {c : Config} {a : Abi}

/-- The text of what was decoded, with the newline that files have at its end, has a UTF-8 form. -/
theorem isUnicode_text_of_decode (h : (source.decode strict).run.run c = .ok a) {pretty : Bool}
    {text : Text} (htext : (a.text pretty none).run.run c = .ok text) :
    (text ++ "\n").isUnicode = true := by
  rw [run_text_of_decode h] at htext
  cases htext
  rw [Text.isUnicode_append, Json.isUnicode_print _ a.document_isPlain]
  rfl

/-- And it decodes to the same interface where it is within the limit on size. -/
theorem decode_text_of_decode (h : (source.decode strict).run.run c = .ok a) {pretty : Bool}
    {text : Text} (htext : (a.text pretty none).run.run c = .ok text) {mode : Option Bool}
    (hsize : (Utf8.encode (text ++ "\n")).length ≤ c.maxDocumentBytes) :
    ((Source.bytes (Utf8.encode (text ++ "\n"))).decode mode).run.run c = .ok a := by
  have hwithin := document_within_of_decode h
  rw [run_text_of_decode h] at htext
  cases htext
  obtain ⟨_, _, _, _, -, hdecode⟩ := Source.run_decode_eq_ok_iff.1 h
  obtain ⟨hwidths, -⟩ := Value.decodeAbi_eq_ok_iff.1 hdecode
  exact Source.run_decode_print hwidths hwithin.numbers hwithin.nesting _ Json.reads_newline
    (fun rest _ => Json.ends_newline_append [] rest) rfl mode hsize

end Source

/-! ## Runs -/

namespace Command

/-- Whatever a part of a run ends with, it leaves a tree. -/
def Keeps (t : Tree) (part : Running Outcome) : Prop := ∀ c, treeAfter (part.run.run c) = t

namespace Run

/-- An operation of the run does not touch the tree, nor does it when it fails. -/
theorem keeps_lift_bind {α : Type} {r : Run} {next : α → Running Outcome}
    (h : ∀ x, Keeps r.tree (next x)) (op : Operation α) : Keeps r.tree (r.lift op >>= next) := by
  intro c
  cases hop : op.run.run c with
  | ok x =>
    rw [Operation.run_bind_ok (run_lift_ok hop)]
    exact h x c
  | error e =>
    rw [Operation.run_bind_error (run_lift_error hop)]
    rfl

theorem keeps_throw (r : Run) (e : Failure) : Keeps r.tree (throw ⟨e, r.tree⟩) := fun _ => rfl

theorem keeps_succeed (r : Run) (stdout : Text) : Keeps r.tree (return r.succeed stdout) :=
  fun _ => rfl

theorem keeps_die (r : Run) (exit : Nat) (message : Text) :
    Keeps r.tree (return r.die exit message) := fun _ => rfl

theorem keeps_inspect (json : Bool) (r : Run) (a : Abi) : Keeps r.tree (inspect json r a) := by
  unfold inspect
  refine keeps_lift_bind (fun report => ?_) _
  split
  · refine keeps_lift_bind (fun c => ?_) _
    exact keeps_lift_bind (fun text => r.keeps_succeed _) _
  · exact keeps_lift_bind (fun text => r.keeps_succeed _) _

theorem keeps_checkArgs (argsPath : Path) (r : Run) (a : Abi) :
    Keeps r.tree (checkArgs argsPath r a) := by
  unfold checkArgs
  split
  · exact r.keeps_die _ _
  · refine keeps_lift_bind (fun parsed => ?_) _
    split
    · exact keeps_lift_bind (fun shown => r.keeps_succeed _) _
    · exact r.keeps_die _ _
    · exact r.keeps_throw _

end Run

/-- No task but formatting into a file changes the tree. -/
theorem Task.keeps_perform {task : Task} (h : ∀ compact out, task ≠ .fmt compact (some out))
    (p : Path) (r : Run) (a : Abi) : Keeps r.tree (task.perform p r a) := by
  cases task with
  | inspect json => exact Run.keeps_inspect json r a
  | check => exact Run.keeps_succeed (r.log .info r.logger (p.text ++ ": " ++ Run.sizes a)) _
  | signature => exact Run.keeps_lift_bind (fun shown => r.keeps_succeed _) _
  | checkArgs argsPath => exact Run.keeps_checkArgs argsPath r a
  | fmt compact out =>
    cases out with
    | none => exact Run.keeps_lift_bind (fun text => r.keeps_succeed _) _
    | some out => exact absurd rfl (h compact out)

/-- **A run that is not asked to format into a file leaves the tree.** -/
theorem keeps_run {setup : Setup} {args : List Text} (t : Tree)
    (h : ∀ verbose p compact out, ¬ Asks setup args verbose (.on p (.fmt compact (some out)))) :
    Keeps t (run setup args t) := by
  intro c
  by_cases hasks : ∃ verbose request, Asks setup args verbose request
  · obtain ⟨verbose, request, hasks⟩ := hasks
    cases request with
    | version =>
      rw [run_of_asks hasks]
      cases leastRank setup verbose c <;> rfl
    | on p task =>
      have htask : ∀ compact out, task ≠ .fmt compact (some out) := by
        rintro compact out rfl
        exact h verbose p compact out hasks
      rcases run_cases hasks t c with
        ⟨e, -, hrun⟩ | ⟨exit, message, -, hrun⟩ | ⟨least, a, -, -, hrun⟩
      · rw [hrun]
        rfl
      · rw [hrun]
        rfl
      · rw [hrun]
        exact Task.keeps_perform htask p (decoded setup least t a) a c
  · have hnone : ∀ verbose request, ¬ Asks setup args verbose request := by
      intro verbose request hrequest
      exact hasks ⟨verbose, request, hrequest⟩
    rcases run_of_not_asks hnone t c with ⟨exit, hrun⟩ | ⟨e, hrun⟩
    · rw [hrun]
      rfl
    · rw [hrun]
      rfl

/-- The document at one path describes an interface, and its canonical text, with a newline at its
end, can be written to another path; with the tree this gives. -/
def Formats (t : Tree) (c : Config) (compact : Bool) (p out : Path) (t' : Tree) : Prop :=
  ∃ a text, t.Describes c p a ∧ (a.text (!compact) none).run.run c = .ok text ∧
    t.writeText out (text ++ "\n") = .ok t'

/-- On a document that describes an interface, formatting into a file succeeds exactly when the
canonical text can be written, and else leaves the tree. -/
theorem Run.run_fmt_out (r : Run) (compact : Bool) {p : Path} (out : Path) {a : Abi} {c : Config}
    (ha : r.tree.Describes c p a) :
    (∃ t' stderr, Formats r.tree c compact p out t' ∧
      (fmt compact (some out) r a).run.run c = .ok (.completed ⟨0, [], stderr, t'⟩)) ∨
    (¬ ∃ t', Formats r.tree c compact p out t') ∧
      ∃ e, (fmt compact (some out) r a).run.run c = .error ⟨e, r.tree⟩ := by
  obtain ⟨content, -, hdecode⟩ := id ha
  have htext := Source.run_text_of_decode hdecode (!compact)
  have hunicode := Source.isUnicode_text_of_decode hdecode htext
  unfold fmt
  rw [Operation.run_bind_ok (run_lift_ok htext)]
  dsimp only
  unfold write
  cases hwrite : r.tree.writeText out (Json.print (Abi.style c (!compact) none) a.document ++ "\n")
  with
  | ok t' => exact .inl ⟨t', _, ⟨a, _, ha, htext, hwrite⟩, rfl⟩
  | error stopped =>
    obtain ⟨e, t'⟩ := stopped
    obtain rfl := Tree.eq_of_writeText_error hunicode hwrite
    refine .inr ⟨?_, e, rfl⟩
    rintro ⟨_, b, text, hb, htext', hwrite'⟩
    rw [hb.unique ha, htext] at htext'
    cases htext'
    rw [hwrite] at hwrite'
    cases hwrite'

/-- **Formatting into a file** succeeds and has written the text, or fails and leaves the tree. It
does the first exactly when the log can be set up and the text can be written: nothing fails once it
is. -/
theorem run_fmt_out {setup : Setup} {args : List Text} {verbose compact : Bool} {p out : Path}
    (hasks : Asks setup args verbose (.on p (.fmt compact (some out)))) (t : Tree) (c : Config) :
    (∃ least t' stderr, leastRank setup verbose c = .ok least ∧ Formats t c compact p out t' ∧
      (run setup args t).run.run c = .ok (.completed ⟨0, [], stderr, t'⟩)) ∨
    (¬ ∃ least t', leastRank setup verbose c = .ok least ∧ Formats t c compact p out t') ∧
      treeAfter ((run setup args t).run.run c) = t ∧
      exitCode? ((run setup args t).run.run c) ≠ some 0 := by
  rcases run_cases hasks t c with
    ⟨e, hleast, hrun⟩ | ⟨exit, message, hrejected, hrun⟩ | ⟨least, a, hleast, ha, hrun⟩
  · rw [hrun, hleast]
    exact .inr ⟨nofun, rfl, nofun⟩
  · rw [hrun]
    refine .inr ⟨?_, rfl, ?_⟩
    · rintro ⟨least, t', -, a, text, ha, -⟩
      exact hrejected.not_describes a ha
    · intro hexit
      exact hrejected.exit_ne_zero (Option.some.inj hexit)
  · rw [hrun, hleast]
    dsimp only [Task.perform]
    rcases Run.run_fmt_out (decoded setup least t a) compact out ha with
      ⟨t', stderr, hformats, hfmt⟩ | ⟨hnone, e, hfmt⟩
    · exact .inl ⟨least, t', stderr, rfl, hformats, hfmt⟩
    · rw [hfmt]
      refine .inr ⟨?_, rfl, nofun⟩
      rintro ⟨_, t', -, hformats⟩
      exact hnone ⟨t', hformats⟩

/-- A text that was written and is within the limit on size describes the interface it is the text
of. -/
theorem describes_of_writeText {t t' : Tree} {c : Config} {p out : Path} {a : Abi} {pretty : Bool}
    {text : Text} (ha : t.Describes c p a) (htext : (a.text pretty none).run.run c = .ok text)
    (hwrite : t.writeText out (text ++ "\n") = .ok t')
    (hsize : (Utf8.encode (text ++ "\n")).length ≤ c.maxDocumentBytes) : t'.Describes c out a := by
  obtain ⟨content, -, hdecode⟩ := ha
  exact ⟨_, Tree.read_of_writeText hwrite, Source.decode_text_of_decode hdecode htext hsize⟩

/-- Formatting into a file that holds the canonical text of what it describes leaves the tree. -/
theorem treeAfter_fmt_of_canonical {setup : Setup} {args : List Text} {verbose compact : Bool}
    {p : Path} (hasks : Asks setup args verbose (.on p (.fmt compact (some p)))) {t : Tree}
    {c : Config} {a : Abi} {text : Text} (ha : t.Describes c p a)
    (htext : (a.text (!compact) none).run.run c = .ok text)
    (hread : t.read p = .ok (Utf8.encode (text ++ "\n"))) :
    treeAfter ((run setup args t).run.run c) = t := by
  rcases run_fmt_out hasks t c with ⟨_, t', stderr, -, ⟨b, text', hb, htext', hwrite⟩, hrun⟩ | hkept
  · -- it was decoded to the same interface, so the same text was written again
    rw [hb.unique ha, htext] at htext'
    cases htext'
    obtain rfl := Tree.eq_of_writeText_of_read hread hwrite
    rw [hrun]
    rfl
  · exact hkept.2.1

/-- **Only the output file changes.** Whatever the arguments, a run that does not end with exit code
0 leaves the tree, and so does one that is not asked to format into a file. One that is asked
succeeds exactly when the log can be set up, the document describes an interface and its canonical
text can be written. Then the file holds this text, with a newline at its end, and every other file
and the directories are as they were. Where the text is within the limit on size, the file can be
loaded and describes the same interface; and where it is the document itself, formatting it in the
same form once more leaves the tree. -/
theorem only_out_file_changes (setup : Setup) (args : List Text) (t : Tree) (c : Config) :
    (exitCode? ((run setup args t).run.run c) ≠ some 0 →
      treeAfter ((run setup args t).run.run c) = t) ∧
    (treeAfter ((run setup args t).run.run c) ≠ t →
      ∃ verbose p compact out, Asks setup args verbose (.on p (.fmt compact (some out)))) ∧
    ∀ verbose p compact out, Asks setup args verbose (.on p (.fmt compact (some out))) →
      (exitCode? ((run setup args t).run.run c) = some 0 ↔
        ∃ least t', leastRank setup verbose c = .ok least ∧ Formats t c compact p out t') ∧
      (exitCode? ((run setup args t).run.run c) = some 0 →
        ∃ a text route t', treeAfter ((run setup args t).run.run c) = t' ∧
          t.Describes c p a ∧ (a.text (!compact) none).run.run c = .ok text ∧
          t.locate out = .ok route ∧
          t'.read out = .ok (Utf8.encode (text ++ "\n")) ∧
          (∀ other ≠ route, t'.files.lookup other = t.files.lookup other) ∧
          t'.directories = t.directories ∧ t'.working = t.working ∧
          ((Utf8.encode (text ++ "\n")).length ≤ c.maxDocumentBytes →
            (t'.abi out none).run.run c = .ok a ∧
            (out = p → ∀ (again : Setup) (args' : List Text) (verbose' : Bool),
              Asks again args' verbose' (.on p (.fmt compact (some p))) →
              treeAfter ((run again args' t').run.run c) = t'))) := by
  refine ⟨fun hexit => ?_, fun hchanged => ?_, fun verbose p compact out hasks => ?_⟩
  · by_cases hfmt : ∃ verbose p compact out,
        Asks setup args verbose (.on p (.fmt compact (some out)))
    · obtain ⟨verbose, p, compact, out, hasks⟩ := hfmt
      rcases run_fmt_out hasks t c with ⟨_, t', stderr, -, -, hrun⟩ | hkept
      · rw [hrun] at hexit
        exact absurd rfl hexit
      · exact hkept.2.1
    · refine keeps_run t (fun verbose p compact out hasks => ?_) c
      exact hfmt ⟨verbose, p, compact, out, hasks⟩
  · refine Classical.byContradiction fun hnone => hchanged (keeps_run t ?_ c)
    intro verbose p compact out hasks
    exact hnone ⟨verbose, p, compact, out, hasks⟩
  · rcases run_fmt_out hasks t c with ⟨least, t', stderr, hleast, hformats, hrun⟩ | hkept
    · refine ⟨iff_of_true (by rw [hrun]; rfl) ⟨least, t', hleast, hformats⟩, fun _ => ?_⟩
      obtain ⟨a, text, ha, htext, hwrite⟩ := hformats
      obtain ⟨hpath, -, route, hlocate, -, ht'⟩ := Tree.writeText_eq_ok_iff.1 hwrite
      have hread := Tree.read_of_writeText hwrite
      refine ⟨a, text, route, t', by rw [hrun]; rfl, ha, htext, hlocate, hread, ?_,
        by rw [ht']; rfl, by rw [ht']; rfl, fun hsize => ?_⟩
      · intro other hother
        rw [ht', Tree.withFile, Tree.lookup_put, if_neg hother]
      · have hdescribes := describes_of_writeText ha htext hwrite hsize
        refine ⟨Tree.run_abi_of_describes hpath hdescribes, ?_⟩
        rintro rfl again args' verbose' hagain
        exact treeAfter_fmt_of_canonical hagain hdescribes htext hread
    · exact ⟨iff_of_false hkept.2.2 hkept.1, fun hexit => absurd hexit hkept.2.2⟩

/-- A tree with a document in a directory, in one line, and another file. -/
def fieldTree : Tree :=
  Tree.ofList ["home"] [("d/abi.json", some fieldDocument), ("b", some [7])]

/-- The document of a field element with indentation and a newline at its end. -/
def fieldLines : Text := Json.print (.indented 2) fieldInterface.document ++ "\n"

theorem asks_fmt_field :
    Asks installed ["fmt", "d/abi.json", "--out", "d/abi.json"] false
      (.on (.ofText "d/abi.json") (.fmt false (some (.ofText "d/abi.json")))) := by
  obtain ⟨-, -, -, -, -, -, hout, -⟩ := asks_of_positional installed (t := "d/abi.json") ⟨rfl, rfl⟩
  exact hout _ rfl

theorem text_fieldInterface :
    (fieldInterface.text true none).run.run (.ofEnvironment []) =
      .ok (Json.print (.indented 2) fieldInterface.document) :=
  Abi.run_text rfl (by decide) true none _

theorem describes_fieldTree :
    fieldTree.Describes (.ofEnvironment []) (.ofText "d/abi.json") fieldInterface :=
  ⟨fieldDocument, rfl, decode_fieldDocument⟩

theorem formats_fieldTree :
    Formats fieldTree (.ofEnvironment []) false (.ofText "d/abi.json") (.ofText "d/abi.json")
      (fieldTree.withFile ["home", "d", "abi.json"] (Utf8.encode fieldLines)) := by
  refine ⟨fieldInterface, _, describes_fieldTree, text_fieldInterface, ?_⟩
  refine Tree.writeText_eq_ok_iff.2 ⟨rfl, by decide, _, rfl, ?_, rfl⟩
  exact nofun

theorem only_out_file_changes_field :
    exitCode? ((run installed ["fmt", "d/abi.json", "--out", "d/abi.json"] fieldTree).run.run
        (.ofEnvironment [])) = some 0 ∧
    ∃ t', treeAfter ((run installed ["fmt", "d/abi.json", "--out", "d/abi.json"]
        fieldTree).run.run (.ofEnvironment [])) = t' ∧
      t'.read (.ofText "d/abi.json") = .ok (Utf8.encode fieldLines) ∧
      t'.files.lookup (["home", "b"] : Route) = some [7] ∧
      (t'.abi (.ofText "d/abi.json") none).run.run (.ofEnvironment []) = .ok fieldInterface ∧
      treeAfter ((run installed ["fmt", "d/abi.json", "--out", "d/abi.json"] t').run.run
        (.ofEnvironment [])) = t' := by
  obtain ⟨least, hleast⟩ := exists_leastRank Environment.namesLevel_nil installed false
  obtain ⟨-, -, hout⟩ := only_out_file_changes installed
    ["fmt", "d/abi.json", "--out", "d/abi.json"] fieldTree (.ofEnvironment [])
  obtain ⟨hdone, hwrote⟩ := hout _ _ _ _ asks_fmt_field
  have hexit := hdone.2 ⟨least, _, hleast, formats_fieldTree⟩
  obtain ⟨a, text, route, t', ht', ha, htext, hroute, hread, hothers, -, -, hagain⟩ := hwrote hexit
  obtain rfl := ha.unique describes_fieldTree
  obtain rfl : text = _ := Except.ok.inj (htext.symm.trans text_fieldInterface)
  obtain rfl : route = ["home", "d", "abi.json"] := Except.ok.inj (hroute.symm.trans rfl)
  obtain ⟨hload, hstable⟩ := hagain (by decide +kernel)
  refine ⟨hexit, t', ht', hread, ?_, hload, hstable rfl _ _ _ asks_fmt_field⟩
  rw [hothers ["home", "b"] (by decide)]
  rfl

end Command

end CircuitAbi

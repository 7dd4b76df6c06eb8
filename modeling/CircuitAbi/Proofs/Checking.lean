import CircuitAbi.Proofs.Embedding
import CircuitAbi.Proofs.Outcome
import CircuitAbi.Witness.Argument
import Mathlib.Data.List.Induction

/-!
# What checking accepts

One lemma for each step of the checker says when it succeeds and with what:

* `Checking.members_eq_ok` — the members of a struct have results one by one, which are written into
  the struct in order.
* `Checking.argument_succ_eq_ok` — one level of a value against one level of a type.
* `run_checkArgument`, `run_checkArguments` — the operations, under given settings.
-/

set_option autoImplicit false

namespace CircuitAbi

/-! ## Writing a struct -/

namespace Argument

/-- The entries of a struct after more of them are written, one after the other. -/
def write (done written : List (Name × Argument)) : List (Name × Argument) :=
  written.foldl (fun done entry => insert entry.1 entry.2 done) done

variable {done written : List (Name × Argument)} {name : Name}

theorem write_concat (entry : Name × Argument) :
    write done (written ++ [entry]) = insert entry.1 entry.2 (write done written) := by
  rw [write, List.foldl_append]
  rfl

theorem insert_of_not_mem (h : name ∉ done.map Prod.fst) (a : Argument) :
    insert name a done = done ++ [(name, a)] := by
  induction done with
  | nil => rfl
  | cons entry done ih =>
    rw [List.map_cons, List.mem_cons, not_or] at h
    rw [insert, if_neg (Ne.symm h.1), ih h.2, List.cons_append]

theorem map_fst_insert_of_mem (h : name ∈ done.map Prod.fst) (a : Argument) :
    (insert name a done).map Prod.fst = done.map Prod.fst := by
  induction done with
  | nil => cases h
  | cons entry done ih =>
    obtain ⟨other, b⟩ := entry
    rw [insert]
    split
    · rfl
    · rename_i hother
      rcases List.mem_cons.1 h with rfl | h
      · exact absurd rfl hother
      · rw [List.map_cons, List.map_cons, ih h]

theorem lookup_cons (key : Name) (a : Argument) :
    ((name, a) :: done).lookup key = if key = name then some a else done.lookup key := by
  rw [List.lookup_cons]
  split <;> simp_all [Subtype.ext_iff]

theorem lookup_insert (key : Name) (a : Argument) :
    (insert name a done).lookup key = if key = name then some a else done.lookup key := by
  induction done with
  | nil => rw [insert, lookup_cons]
  | cons entry done ih =>
    obtain ⟨other, b⟩ := entry
    rw [insert]
    split
    · rename_i hother
      rw [hother, lookup_cons, lookup_cons]
      split <;> rfl
    · rename_i hother
      rw [lookup_cons, lookup_cons, ih]
      split
      · rename_i hkey
        rw [if_neg (hkey ▸ hother)]
      · rfl

/-- The names stand in the order in which they were first written. -/
theorem map_fst_write : (write [] written).map Prod.fst = (written.map Prod.fst).eraseDups := by
  induction written using List.reverseRecOn with
  | nil => rfl
  | append_singleton written entry ih =>
    have hmem : entry.1 ∈ (write [] written).map Prod.fst ↔ entry.1 ∈ written.map Prod.fst := by
      rw [ih, List.mem_eraseDups]
    rw [write_concat, List.map_append, List.map_singleton, List.eraseDups_append, ← ih]
    by_cases h : entry.1 ∈ written.map Prod.fst
    · have hold : [entry.1].removeAll (written.map Prod.fst) = [] := by
        simpa [List.removeAll] using h
      rw [map_fst_insert_of_mem (hmem.2 h), hold]
      simp
    · have hnew : [entry.1].removeAll (written.map Prod.fst) = [entry.1] := by
        simpa [List.removeAll] using h
      rw [insert_of_not_mem (mt hmem.1 h), List.map_append, hnew]
      rfl

/-- What was written under a name stays when only other names are written. -/
theorem lookup_write_of_not_mem (h : name ∉ written.map Prod.fst) :
    (write done written).lookup name = done.lookup name := by
  induction written generalizing done with
  | nil => rfl
  | cons entry written ih =>
    rw [List.map_cons, List.mem_cons, not_or] at h
    show (write (insert entry.1 entry.2 done) written).lookup name = _
    rw [ih h.2, lookup_insert, if_neg h.1]

theorem lookup_of_mem (h : (done.map Prod.fst).Nodup) {entry : Name × Argument}
    (hmem : entry ∈ done) : done.lookup entry.1 = some entry.2 := by
  induction done with
  | nil => cases hmem
  | cons first done ih =>
    rw [List.map_cons, List.nodup_cons] at h
    rw [lookup_cons]
    rcases List.mem_cons.1 hmem with rfl | hmem
    · rw [if_pos rfl]
    · have hother : entry.1 ≠ first.1 := fun heq => h.1 (heq ▸ List.mem_map_of_mem hmem)
      rw [if_neg hother, ih h.2 hmem]

/-- Entries with different names are written as they are. -/
theorem write_of_nodup (h : (written.map Prod.fst).Nodup) : write [] written = written := by
  induction written using List.reverseRecOn with
  | nil => rfl
  | append_singleton written entry ih =>
    rw [List.map_append, List.map_singleton, List.nodup_append] at h
    have hnew : entry.1 ∉ written.map Prod.fst := fun hmem =>
      h.2.2 _ hmem _ List.mem_cons_self rfl
    rw [write_concat, ih h.1, insert_of_not_mem hnew]

end Argument

namespace Checking

variable {α : Type}

/-! ## The steps -/

theorem fail_ne_ok {fault : ArgumentFault} {a : α} : (fail fault : Checking α) ≠ .ok a := by
  simp [fail]

theorem failShowing_ne_ok {v : Value} {fault : Text → ArgumentFault} {a : α} :
    (failShowing v fault : Checking α) ≠ .ok a := by
  unfold failShowing
  split <;> simp [fail]

theorem failSized_ne_ok {size : Nat} {fault : ArgumentFault} {a : α} :
    (failSized size fault : Checking α) ≠ .ok a := by
  unfold failSized
  split <;> simp [fail]

theorem within_eq_ok {step : Accessor} {x : Checking α} {a : α} :
    within step x = .ok a ↔ x = .ok a := by
  cases x with
  | ok b => rfl
  | error stop => cases stop <;> simp [within]

theorem report_eq_ok {root : Text} {x : Checking α} {a : α} :
    report root x = .ok a ↔ x = .ok a := by
  cases x with
  | ok b => simp [report]
  | error stop => cases stop <;> simp [report]

theorem bool_eq_ok {v : Value} {a : Argument} :
    bool v = .ok a ↔ ∃ b, v = .bool b ∧ a = .bool b := by
  cases v with
  | bool b => simp [bool, eq_comm]
  | _ =>
    simp only [bool, reduceCtorEq, false_and, exists_false, iff_false]
    exact failShowing_ne_ok

/-- A member of a struct, and what is written for it: under its name, the result for the value that
stands under its name in the object. -/
def MemberChecked (check : Value → SchemaType → Checking Argument) (es : Entries)
    (member : Name × SchemaType) (entry : Name × Argument) : Prop :=
  entry.1 = member.1 ∧ ∃ v, es.get? member.1.val = some v ∧ check v member.2 = .ok entry.2

theorem map_fst_of_forall₂ {check : Value → SchemaType → Checking Argument} {es : Entries}
    {ms : List (Name × SchemaType)} {written : List (Name × Argument)}
    (h : List.Forall₂ (MemberChecked check es) ms written) :
    ms.map Prod.fst = written.map Prod.fst := by
  induction h with
  | nil => rfl
  | cons hm _ ih => rw [List.map_cons, List.map_cons, hm.1, ih]

theorem members_eq_ok {check : Value → SchemaType → Checking Argument} {struct : Name}
    {es : Entries} {done result : List (Name × Argument)} {ms : List (Name × SchemaType)} :
    members check struct es done ms = .ok result ↔
      ∃ written, List.Forall₂ (MemberChecked check es) ms written ∧
        result = Argument.write done written := by
  induction ms generalizing done with
  | nil =>
    simp only [members, Except.ok.injEq, List.forall₂_nil_left_iff, exists_eq_left, Argument.write,
      List.foldl_nil]
    exact eq_comm
  | cons m ms ih =>
    obtain ⟨name, t⟩ := m
    rw [members]
    constructor
    · intro h
      split at h
      · cases h
      rename_i v hv
      obtain ⟨a, ha, hrest⟩ := bind_eq_ok.1 h
      obtain ⟨written, hwritten, rfl⟩ := ih.1 hrest
      exact ⟨(name, a) :: written, .cons ⟨rfl, v, hv, within_eq_ok.1 ha⟩ hwritten, rfl⟩
    · rintro ⟨_, hchecked, rfl⟩
      obtain ⟨⟨_, a⟩, written, ⟨rfl, v, hv, ha⟩, hwritten, rfl⟩ :=
        List.forall₂_cons_left_iff.1 hchecked
      simp only at hv ha
      simp only [hv]
      exact bind_eq_ok.2 ⟨a, within_eq_ok.2 ha, ih.2 ⟨written, hwritten, rfl⟩⟩

/-! ## Arguments -/

/-- What the checker asks of a value for it to have a type, and the result, one level of the type at
a time. -/
def Level (m : Int) (check : Value → SchemaType → Checking Argument) (v : Value) (a : Argument) :
    SchemaType → Prop
  | .field => field m v = .ok a
  | .bool => ∃ b, v = .bool b ∧ a = .bool b
  | .uint width form => uint width form v = .ok a
  | .array element size =>
    ∃ vs as, v = .list vs ∧ a = .list as ∧ vs.length = size ∧
      List.Forall₂ (fun v a => check v element = .ok a) vs as
  | .struct _ ms =>
    ∃ es written, v = .object es ∧ a = .struct (Argument.write [] written) ∧
      (∀ k ∈ Entries.keys es, k ∈ ms.map (·.1.val)) ∧
      List.Forall₂ (MemberChecked check es) ms written

/-- A level is passed again where field elements and the parts are accepted again. -/
theorem Level.imp {m m' : Int} {check check' : Value → SchemaType → Checking Argument} {v : Value}
    {a : Argument} {t : SchemaType} (hfield : ∀ a, field m v = .ok a → field m' v = .ok a)
    (hcheck : ∀ v t a, check v t = .ok a → check' v t = .ok a) (h : Level m check v a t) :
    Level m' check' v a t := by
  cases t with
  | field => exact hfield a h
  | bool => exact h
  | uint width form => exact h
  | array element size =>
    obtain ⟨vs, as, hv, ha, hlength, hitems⟩ := h
    exact ⟨vs, as, hv, ha, hlength, hitems.imp fun v a => hcheck v element a⟩
  | struct name ms =>
    obtain ⟨es, written, hv, ha, hkeys, hmembers⟩ := h
    refine ⟨es, written, hv, ha, hkeys, hmembers.imp ?_⟩
    rintro member entry ⟨hname, w, hw, hchecked⟩
    exact ⟨hname, w, hw, hcheck w member.2 entry.2 hchecked⟩

theorem argument_list {m : Int} {room : Nat} {vs : List Value} {element : SchemaType}
    {size : Nat} : argument m (room + 1) (.list vs) (.array element size) =
      if vs.length = size then do
        let items ← vs.zipIdx.mapM fun (v, i) => within (.index i) (argument m room v element)
        return .list items
      else failSized size (.itemCount size vs.length) := rfl

theorem argument_object {m : Int} {room : Nat} {es : Entries} {name : Name}
    {ms : List (Name × SchemaType)} : argument m (room + 1) (.object es) (.struct name ms) =
      match es.find? fun e => !ms.any (·.1.val == e.1) with
      | some (key, _) => fail (.unexpectedMember key name)
      | none => do return .struct (← members (argument m room) name es [] ms) := rfl

/-- No key of an object is left over when each is the name of a member. -/
theorem find?_extra_eq_none_iff {es : Entries} {ms : List (Name × SchemaType)} :
    (es.find? fun e => !ms.any (·.1.val == e.1)) = none ↔
      ∀ k ∈ Entries.keys es, k ∈ ms.map (·.1.val) := by
  rw [Entries.keys, List.forall_mem_map]
  simp only [List.find?_eq_none, Bool.not_eq_true, Bool.not_eq_false', List.any_eq_true, beq_iff_eq,
    List.mem_map]

/-- One level of a value against one level of a type. -/
theorem argument_succ_eq_ok {m : Int} {room : Nat} {v : Value} {t : SchemaType} {a : Argument} :
    argument m (room + 1) v t = .ok a ↔ Level m (argument m room) v a t := by
  cases t with
  | field => exact Iff.rfl
  | bool => exact bool_eq_ok
  | uint width form => exact Iff.rfl
  | array element size =>
    cases v with
    | list vs =>
      have hitems {as : List Argument} := @mapM_zipIdx_eq_ok _ _ _ _
        (fun (v, i) => within (.index i) (argument m room v element)) within_eq_ok vs as 0
      simp only [Level, Value.list.injEq, exists_and_left, exists_eq_left']
      rw [argument_list]
      split
      · rename_i hlength
        simp only [bind_eq_ok, hitems, pure_eq_ok]
        constructor
        · rintro ⟨as, has, rfl⟩
          exact ⟨as, rfl, hlength, has⟩
        · rintro ⟨as, rfl, -, has⟩
          exact ⟨as, has, rfl⟩
      · rename_i hlength
        simp only [hlength, false_and, and_false, exists_false, iff_false]
        exact failSized_ne_ok
    | _ =>
      refine iff_of_false ?_ (by simp [Level])
      exact failSized_ne_ok
  | struct name ms =>
    cases v with
    | object es =>
      simp only [Level, Value.object.injEq, exists_and_left, exists_eq_left']
      rw [argument_object, ← find?_extra_eq_none_iff]
      split
      · rename_i key _ hfind
        simp only [hfind, reduceCtorEq, false_and, and_false, exists_false, iff_false]
        exact fail_ne_ok
      · rename_i hfind
        simp only [hfind, true_and, bind_eq_ok, members_eq_ok, pure_eq_ok]
        constructor
        · rintro ⟨_, ⟨written, hwritten, rfl⟩, rfl⟩
          exact ⟨written, rfl, hwritten⟩
        · rintro ⟨written, rfl, hwritten⟩
          exact ⟨_, ⟨written, hwritten, rfl⟩, rfl⟩
    | _ =>
      refine iff_of_false ?_ (by simp [Level])
      exact fail_ne_ok

theorem argument_zero_ne_ok {m : Int} {v : Value} {t : SchemaType} {a : Argument} :
    argument m 0 v t ≠ .ok a := by
  show (.error (.limit .nesting) : Checking Argument) ≠ .ok a
  exact fun h => nomatch h

/-- Every type has a level of its own, so that checking with no room for one accepts nothing. -/
theorem argument_eq_ok {m : Int} {room : Nat} {v : Value} {t : SchemaType} {a : Argument} :
    argument m room v t = .ok a ↔
      ∃ below, room = below + 1 ∧ Level m (argument m below) v a t := by
  cases room with
  | zero => exact iff_of_false argument_zero_ne_ok (by simp)
  | succ below => simp [argument_succ_eq_ok]

/-- Arguments are accepted when there is one for each input and each has the type of its input. -/
theorem arguments_eq_ok {m : Int} {types : List SchemaType} {v : Value} {as : List Argument} :
    arguments m types v = .ok as ↔ ∃ vs, v = .list vs ∧ vs.length = types.length ∧
      List.Forall₂ (fun (p : Value × SchemaType) a => argument m argumentLimit p.1 p.2 = .ok a)
        (vs.zip types) as := by
  cases v with
  | list vs =>
    simp only [arguments, Value.list.injEq, exists_eq_left']
    split
    · rename_i hlength
      rw [mapM_zipIdx_eq_ok (p := fun q a => argument m argumentLimit q.1 q.2 = .ok a) within_eq_ok]
      exact (and_iff_right hlength).symm
    · rename_i hlength
      exact iff_of_false fail_ne_ok fun h => hlength h.1
  | _ =>
    refine iff_of_false ?_ (by simp)
    exact fail_ne_ok

end Checking

/-! ## Operations -/

theorem run_checkArgument_value (v type : Value) (root : Text) (modulus : Option Int) (c : Config) :
    (checkArgument v type root modulus).run.run c =
      Checking.report root (Checking.value (modulus.getD c.fieldModulus) v type) := by
  rw [checkArgument, Operation.run_bind_ok (Operation.run_orSetting c modulus Config.fieldModulus)]
  rfl

/-- An argument is checked against a type below the modulus that is given or set. -/
theorem run_checkArgument (v : Value) (t : SchemaType) (root : Text) (modulus : Option Int)
    (c : Config) : (checkArgument v (.type t) root modulus).run.run c =
      Checking.report root
        (Checking.argument (modulus.getD c.fieldModulus) argumentLimit v t) :=
  run_checkArgument_value v (.type t) root modulus c

theorem run_checkArguments (s : Signature) (v : Value) (modulus : Option Int) (c : Config) :
    (checkArguments s v modulus).run.run c =
      Checking.report documentRoot
        (Checking.arguments (modulus.getD c.fieldModulus) s.inputs v) := by
  rw [checkArguments, Operation.run_bind_ok (Operation.run_orSetting c modulus Config.fieldModulus)]
  rfl

end CircuitAbi

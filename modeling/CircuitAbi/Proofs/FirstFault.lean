import CircuitAbi.Proofs.Checking
import CircuitAbi.Proofs.Wording

/-!
# The first fault of an argument

Checking goes depth first and stops at the first fault. What it reports is a fault of one position
in the value and its type, which is found there just so when the position is checked by itself, and
every position before it is accepted.

* `Checking.parts` — the parts of a value and its type, in the order in which they are checked.
* `Checking.FirstAt` — a position below which nothing was refused before.
* `Checking.argument_mono` — a value that is accepted is accepted with more room.
* `Checking.firstAt_of_fault` — a reported fault, one level of the type at a time.

Principal result: `argument_fault_local_and_first`.
-/

set_option autoImplicit false

namespace CircuitAbi

/-- Checking stopped at the node itself, or at a limit. -/
def CheckStop.AtNode : CheckStop → Prop
  | .fault path _ => path = []
  | .limit _ => True

namespace Checking

/-! ## Positions -/

/-- A part of a value and its type: the step that leads to it, the value if there is one, and the
type. -/
structure Part where
  step : Accessor
  value? : Option Value
  type : SchemaType

/-- The parts of a value and its type in order: the items of a list, and for each member of a struct
what stands under its name. -/
def parts : Value → SchemaType → List Part
  | .list vs, .array element _ => vs.mapIdx fun i v => ⟨.index i, some v, element⟩
  | .object es, .struct _ ms =>
    ms.map fun member => ⟨.key member.1.val, Entries.get? member.1.val es, member.2⟩
  | _, _ => []

/-- The part is there and has its type. -/
def Part.Accepted (ok : Value → SchemaType → Prop) (p : Part) : Prop :=
  ∃ v, p.value? = some v ∧ ok v p.type

/-- Steps lead from a value and its type to a position inside of both, and on each level all parts
before the one that is entered are accepted. -/
inductive FirstAt (ok : Value → SchemaType → Prop) :
    Value → SchemaType → List Accessor → Value → SchemaType → Prop
  | here {v : Value} {t : SchemaType} : FirstAt ok v t [] v t
  | inside {v w v' : Value} {t t' : SchemaType} {k : Nat} {part : Part} {path : List Accessor} :
    (parts v t)[k]? = some part → part.value? = some w →
      (∀ j < k, ∀ p, (parts v t)[j]? = some p → p.Accepted ok) →
      FirstAt ok w part.type path v' t' → FirstAt ok v t (part.step :: path) v' t'

theorem getElem?_parts_list {vs : List Value} {element : SchemaType} {size k : Nat} :
    (parts (.list vs) (.array element size))[k]? =
      vs[k]?.map fun v => ⟨.index k, some v, element⟩ := List.getElem?_mapIdx

theorem getElem?_parts_object {es : Entries} {name : Name} {ms : List (Name × SchemaType)}
    {k : Nat} : (parts (.object es) (.struct name ms))[k]? =
      ms[k]?.map fun member => ⟨.key member.1.val, es.get? member.1.val, member.2⟩ :=
  List.getElem?_map

theorem follow?_of_mem_parts {v : Value} {t : SchemaType} {k : Nat} {part : Part}
    (h : (parts v t)[k]? = some part) : part.step.follow? v = part.value? := by
  unfold parts at h
  split at h
  · rw [List.getElem?_mapIdx, Option.map_eq_some_iff] at h
    obtain ⟨v, hv, rfl⟩ := h
    exact hv
  · rw [List.getElem?_map, Option.map_eq_some_iff] at h
    obtain ⟨member, -, rfl⟩ := h
    rfl
  · cases h

theorem FirstAt.resolve? {ok : Value → SchemaType → Prop} {v v' : Value} {t t' : SchemaType}
    {path : List Accessor} (h : FirstAt ok v t path v' t') : v.resolve? path = some v' := by
  induction h with
  | here => rfl
  | inside hpart hvalue _ _ ih =>
    rw [Value.resolve?, follow?_of_mem_parts hpart, hvalue]
    exact ih

theorem FirstAt.imp {ok ok' : Value → SchemaType → Prop} {v v' : Value} {t t' : SchemaType}
    {path : List Accessor} (hok : ∀ v t, ok v t → ok' v t) (h : FirstAt ok v t path v' t') :
    FirstAt ok' v t path v' t' := by
  induction h with
  | here => exact .here
  | inside hpart hvalue hbefore _ ih =>
    refine .inside hpart hvalue (fun j hj p hp => ?_) ih
    obtain ⟨u, hu, haccepted⟩ := hbefore j hj p hp
    exact ⟨u, hu, hok _ _ haccepted⟩

/-! ## Faults at a node -/

section Scalars

variable {α : Type}

/-- Whatever is wrong is wrong with the node itself. -/
abbrev FailsAtNode (x : Checking α) : Prop := FailsWith CheckStop.AtNode x

theorem failsAtNode_fail (fault : ArgumentFault) : FailsAtNode (fail fault : Checking α) :=
  .error rfl

theorem failsAtNode_failShowing (v : Value) (fault : Text → ArgumentFault) :
    FailsAtNode (failShowing v fault : Checking α) := by
  unfold failShowing
  split
  · exact failsAtNode_fail _
  · exact .error trivial

theorem failsAtNode_failSized (size : Nat) (fault : ArgumentFault) :
    FailsAtNode (failSized size fault : Checking α) := by
  unfold failSized
  split
  · exact failsAtNode_fail _
  · exact .error trivial

theorem failsAtNode_inField (m n : Int) : FailsAtNode (inField m n) := by
  unfold inField
  split
  · exact failsAtNode_fail _
  · exact .ok _

theorem failsAtNode_field (m : Int) (v : Value) : FailsAtNode (field m v) := by
  unfold field
  split
  · exact failsAtNode_fail _
  · exact failsAtNode_inField _ _
  · split
    · exact failsAtNode_fail _
    · split
      · exact .error trivial
      · exact failsAtNode_inField _ _
  · exact failsAtNode_fail _

theorem failsAtNode_bool (v : Value) : FailsAtNode (bool v) := by
  unfold bool
  split
  · exact .ok _
  · exact failsAtNode_failShowing _ _

theorem failsAtNode_uint (width : Width) (form : NumberForm) (v : Value) :
    FailsAtNode (uint width form v) := by
  unfold uint
  dsimp only
  split
  · split
    · exact failsAtNode_fail _
    · split
      · exact .ok _
      · exact failsAtNode_fail _
  · exact failsAtNode_failShowing _ _

end Scalars

/-! ## One level -/

section Level

variable {α : Type} {m : Int} {room : Nat} {v : Value} {t : SchemaType} {a : Accessor}
  {path : List Accessor} {f : ArgumentFault} {es : Entries} {struct : Name}
  {done : List (Name × Argument)} {ms : List (Name × SchemaType)}
  {check check' : Value → SchemaType → Checking Argument}

theorem FailsAtNode.ne_cons {x : Checking α} (hx : FailsAtNode x) :
    x ≠ .error (.fault (a :: path) f) := by
  intro h
  have hnil : a :: path = [] := hx _ h
  cases hnil

theorem within_eq_fault {x : Checking α} :
    within a x = .error (.fault path f) ↔
      ∃ rest, path = a :: rest ∧ x = .error (.fault rest f) := by
  match x with
  | .ok b => simp [within]
  | .error (.limit l) => simp [within]
  | .error (.fault rest g) =>
    simp only [within, Except.error.injEq, CheckStop.fault.injEq]
    constructor
    · rintro ⟨rfl, rfl⟩
      exact ⟨rest, rfl, rfl, rfl⟩
    · rintro ⟨_, rfl, rfl, rfl⟩
      exact ⟨rfl, rfl⟩

/-- A fault below a struct is one of the first member whose value is refused. -/
theorem members_eq_fault_cons
    (h : members check struct es done ms = .error (.fault (a :: path) f)) :
    ∃ (k : Nat) (name : Name) (t : SchemaType) (v : Value), ms[k]? = some (name, t) ∧
      a = .key name.val ∧ es.get? name.val = some v ∧ check v t = .error (.fault path f) ∧
      ∀ j < k, ∀ member, ms[j]? = some member →
        ∃ u b, es.get? member.1.val = some u ∧ check u member.2 = .ok b := by
  induction ms generalizing done with
  | nil => cases h
  | cons member ms ih =>
    obtain ⟨name, t⟩ := member
    unfold members at h
    split at h
    · cases h
    · rename_i v hv
      rcases bind_eq_error.1 h with hmember | ⟨b, hb, hrest⟩
      · obtain ⟨_, hpath, hcheck⟩ := within_eq_fault.1 hmember
        cases hpath
        exact ⟨0, name, t, v, rfl, rfl, hv, hcheck, fun j hj => absurd hj (Nat.not_lt_zero j)⟩
      · obtain ⟨k, name', t', v', hk, ha, hv', hcheck, hbefore⟩ := ih hrest
        refine ⟨k + 1, name', t', v', hk, ha, hv', hcheck, fun j hj member hmember => ?_⟩
        cases j with
        | zero =>
          cases hmember
          exact ⟨v, b, hv, within_eq_ok.1 hb⟩
        | succ j => exact hbefore j (Nat.lt_of_succ_lt_succ hj) member hmember

/-- A fault of a struct itself among its members is that one is missing; it is met again where the
members before it are accepted again. -/
theorem members_fault_nil_mono (hcheck : ∀ v t b, check v t = .ok b → check' v t = .ok b)
    (h : members check struct es done ms = .error (.fault [] f)) :
    members check' struct es done ms = .error (.fault [] f) := by
  induction ms generalizing done with
  | nil => cases h
  | cons member ms ih =>
    obtain ⟨name, t⟩ := member
    unfold members at h ⊢
    split at h
    · exact h
    · rename_i v hv
      rcases bind_eq_error.1 h with hmember | ⟨b, hb, hrest⟩
      · obtain ⟨_, hpath, -⟩ := within_eq_fault.1 hmember
        cases hpath
      · have hagain := hcheck v t b (within_eq_ok.1 hb)
        exact bind_eq_error.2 (.inr ⟨b, within_eq_ok.2 hagain, ih hrest⟩)

/-- A value that is accepted is accepted with more room, with the same result. -/
theorem argument_mono {more : Nat} {b : Argument} (hle : room ≤ more)
    (h : argument m room v t = .ok b) : argument m more v t = .ok b := by
  induction room generalizing more v t b with
  | zero => exact absurd h argument_zero_ne_ok
  | succ room ih =>
    obtain ⟨more, rfl⟩ := Nat.exists_eq_add_one.2 (Nat.lt_of_lt_of_le (Nat.succ_pos room) hle)
    rw [argument_succ_eq_ok] at h ⊢
    exact h.imp (fun b h => h) fun v t b => ih (Nat.le_of_succ_le_succ hle)

/-- A fault of a value itself is the same with more room. -/
theorem argument_fault_nil_mono {more : Nat} (hle : room ≤ more)
    (h : argument m (room + 1) v t = .error (.fault [] f)) :
    argument m (more + 1) v t = .error (.fault [] f) := by
  cases t with
  | field => exact h
  | bool => exact h
  | uint width form => exact h
  | array element size =>
    cases v with
    | list vs =>
      rw [argument_list] at h ⊢
      split at h
      · rcases bind_eq_error.1 h with hitems | ⟨_, _, hpure⟩
        · -- the path to a fault of an item starts with its index
          obtain ⟨_, _, -, hitem, -⟩ := mapM_zipIdx_eq_error hitems
          obtain ⟨_, hpath, -⟩ := within_eq_fault.1 hitem
          cases hpath
        · cases hpure
      · rename_i hlength
        rw [if_neg hlength]
        exact h
    | _ => exact h
  | struct name ms =>
    cases v with
    | object es =>
      rw [argument_object] at h ⊢
      split at h
      · exact h
      · rcases bind_eq_error.1 h with hmembers | ⟨_, _, hpure⟩
        · have hagain := members_fault_nil_mono (fun v t b => argument_mono hle) hmembers
          exact bind_eq_error.2 (.inl hagain)
        · cases hpure
    | _ => exact h

/-- A fault below a value is one of the first part that is refused. -/
theorem argument_fault_cons (h : argument m (room + 1) v t = .error (.fault (a :: path) f)) :
    ∃ (k : Nat) (part : Part) (w : Value), (parts v t)[k]? = some part ∧ part.step = a ∧
      part.value? = some w ∧ argument m room w part.type = .error (.fault path f) ∧
      ∀ j < k, ∀ p, (parts v t)[j]? = some p →
        p.Accepted fun u s => ∃ b, argument m room u s = .ok b := by
  cases t with
  | field => exact absurd h (failsAtNode_field m v).ne_cons
  | bool => exact absurd h (failsAtNode_bool v).ne_cons
  | uint width form => exact absurd h (failsAtNode_uint width form v).ne_cons
  | array element size =>
    cases v with
    | list vs =>
      rw [argument_list] at h
      split at h
      · rcases bind_eq_error.1 h with hitems | ⟨_, _, hpure⟩
        · obtain ⟨k, w, hw, hitem, hbefore⟩ := mapM_zipIdx_eq_error hitems
          simp only [Nat.zero_add] at hitem hbefore
          obtain ⟨_, hpath, hfault⟩ := within_eq_fault.1 hitem
          cases hpath
          refine ⟨k, ⟨.index k, some w, element⟩, w, ?_, rfl, rfl, hfault, fun j hj p hp => ?_⟩
          · rw [getElem?_parts_list, hw, Option.map_some]
          · rw [getElem?_parts_list, Option.map_eq_some_iff] at hp
            obtain ⟨u, hu, rfl⟩ := hp
            obtain ⟨b, hb⟩ := hbefore j hj u hu
            exact ⟨u, rfl, b, within_eq_ok.1 hb⟩
        · cases hpure
      · exact absurd h (failsAtNode_failSized _ _).ne_cons
    | _ => exact absurd h (failsAtNode_failSized _ _).ne_cons
  | struct name ms =>
    cases v with
    | object es =>
      rw [argument_object] at h
      split at h
      · exact absurd h (failsAtNode_fail _).ne_cons
      · rcases bind_eq_error.1 h with hmembers | ⟨_, _, hpure⟩
        · obtain ⟨k, member, t, w, hk, rfl, hw, hfault, hbefore⟩ := members_eq_fault_cons hmembers
          refine ⟨k, ⟨.key member.val, some w, t⟩, w, ?_, rfl, rfl, hfault, fun j hj p hp => ?_⟩
          · rw [getElem?_parts_object, hk, Option.map_some, ← hw]
          · rw [getElem?_parts_object, Option.map_eq_some_iff] at hp
            obtain ⟨member, hmember, rfl⟩ := hp
            obtain ⟨u, b, hu, hb⟩ := hbefore j hj member hmember
            exact ⟨u, hu, b, hb⟩
        · cases hpure
    | _ => exact absurd h (failsAtNode_fail _).ne_cons

end Level

/-! ## The whole way -/

section Path

variable {α : Type} {m : Int} {room limit : Nat} {v : Value} {t : SchemaType}
  {path : List Accessor} {f : ArgumentFault} {root : Text}

/-- A fault is one of a position, which has it by itself, and all positions before are accepted. The
induction is on the room; both facts are carried up to the room of a check from the root. -/
theorem firstAt_of_fault (hroom : room ≤ limit)
    (h : argument m room v t = .error (.fault path f)) :
    ∃ v' t', FirstAt (fun w s => ∃ b, argument m limit w s = .ok b) v t path v' t' ∧
      argument m limit v' t' = .error (.fault [] f) := by
  induction room generalizing v t path with
  | zero => cases h
  | succ room ih =>
    cases path with
    | nil =>
      obtain ⟨more, rfl⟩ := Nat.exists_eq_add_one.2 (Nat.lt_of_lt_of_le (Nat.succ_pos room) hroom)
      exact ⟨v, t, .here, argument_fault_nil_mono (Nat.le_of_succ_le_succ hroom) h⟩
    | cons a path =>
      obtain ⟨k, part, w, hpart, rfl, hw, hfault, hbefore⟩ := argument_fault_cons h
      have hle := Nat.le_of_succ_le hroom
      obtain ⟨v', t', hfirst, hlocal⟩ := ih hle hfault
      refine ⟨v', t', .inside hpart hw (fun j hj p hp => ?_) hfirst, hlocal⟩
      obtain ⟨u, hu, b, hb⟩ := hbefore j hj p hp
      exact ⟨u, hu, b, argument_mono hle hb⟩

/-- Arguments fail with the first of them that is refused. -/
theorem arguments_eq_error {types : List SchemaType} {vs : List Value} {stop : CheckStop}
    (hlength : vs.length = types.length) (h : arguments m types (.list vs) = .error stop) :
    ∃ i v t, vs[i]? = some v ∧ types[i]? = some t ∧
      within (.index i) (argument m argumentLimit v t) = .error stop ∧
      ∀ j < i, ∀ w u, vs[j]? = some w → types[j]? = some u →
        ∃ b, argument m argumentLimit w u = .ok b := by
  rw [arguments, if_pos hlength] at h
  obtain ⟨i, ⟨v, t⟩, hi, hstop, hbefore⟩ := mapM_zipIdx_eq_error h
  simp only [Nat.zero_add] at hstop hbefore
  obtain ⟨hv, ht⟩ := List.getElem?_zip_eq_some.1 hi
  refine ⟨i, v, t, hv, ht, hstop, fun j hj w u hw hu => ?_⟩
  obtain ⟨b, hb⟩ := hbefore j hj (w, u) (List.getElem?_zip_eq_some.2 ⟨hw, hu⟩)
  exact ⟨b, within_eq_ok.1 hb⟩

/-- Each of the arguments that are accepted together is accepted. -/
theorem argument_of_arguments_eq_ok {types : List SchemaType} {vs : List Value}
    {as : List Argument} {i : Nat} (hlength : vs.length = types.length)
    (h : arguments m types (.list vs) = .ok as) (hv : vs[i]? = some v)
    (ht : types[i]? = some t) : ∃ b, argument m argumentLimit v t = .ok b := by
  rw [arguments, if_pos hlength] at h
  have hmem : ((v, t), i) ∈ (vs.zip types).zipIdx :=
    List.mem_zipIdx_iff_getElem?.2 (List.getElem?_zip_eq_some.2 ⟨hv, ht⟩)
  obtain ⟨b, hb⟩ := exists_mapM_eq_ok_iff.1 ⟨as, h⟩ _ hmem
  exact ⟨b, within_eq_ok.1 hb⟩

theorem report_eq_argument {x : Checking α} {e : ArgumentError} :
    report root x = .error (.argument e) ↔
      ∃ path, x = .error (.fault path e.fault) ∧ e.place = ⟨root, path⟩ := by
  match x with
  | .ok b => simp [report]
  | .error (.limit l) => simp [report]
  | .error (.fault path f) =>
    constructor
    · intro h
      cases h
      exact ⟨path, rfl, rfl⟩
    · rintro ⟨_, hfault, hplace⟩
      cases hfault
      rw [report, ← hplace]

end Path

end Checking

/-- An error is about the node that a path leads to from the root, and reads so: a sentence, and
after an at sign the root with the steps of the path behind it. -/
structure ArgumentError.ReadsAt (e : ArgumentError) (root : Text) (path : List Accessor)
    (sentence suffix : Text) : Prop where
  place : e.place = ⟨root, path⟩
  steps : PathText path suffix
  spelled : e.place.text = root ++ suffix
  message : Failure.message? (.argument e) = some (sentence ++ " @ " ++ (root ++ suffix))

theorem ArgumentError.ReadsAt.of_fault (f : ArgumentFault) (root : Text) (path : List Accessor) :
    ReadsAt ⟨f, ⟨root, path⟩⟩ root path f.message (path.flatMap Accessor.text) :=
  ⟨rfl, pathText_iff.2 rfl, rfl, rfl⟩

/-- Both failures read the same: refused arguments have the same fault, and their places are spelled
alike. -/
def Failure.ReadsAs : Failure → Failure → Prop
  | .argument e, .argument e' =>
    e.fault = e'.fault ∧ ∃ q, e.place.SpelledAs q ∧ e'.place.SpelledAs q
  | e, e' => e = e'

/-- Checking a part from the root reads the same as checking it by itself under the spelling of its
place. -/
theorem Checking.report_within {α β : Type} {root suffix : Text} {step : Accessor}
    {x : Checking α} {stop : CheckStop} {e : Failure} (hsuffix : PathText [step] suffix)
    (hstop : within step x = .error stop)
    (he : report root (.error stop : Checking β) = .error e) :
    ∃ e', report (root ++ suffix) x = .error e' ∧ e.ReadsAs e' := by
  obtain rfl := pathText_iff.1 hsuffix
  match x with
  | .ok b => cases hstop
  | .error (.limit l) =>
    cases hstop
    cases he
    exact ⟨.limit l, rfl, rfl⟩
  | .error (.fault path f) =>
    cases hstop
    cases he
    refine ⟨.argument ⟨f, ⟨root ++ [step].flatMap Accessor.text, path⟩⟩, rfl, rfl, _,
      Place.spelledAs_iff.2 rfl, Place.spelledAs_iff.2 ?_⟩
    simp [Place.text]

/-- The value has the type, wherever it is checked. -/
def AcceptedUnder (modulus : Option Int) (c : Config) (v : Value) (t : SchemaType) : Prop :=
  ∀ root, ∃ a, (checkArgument v (.type t) root modulus).run.run c = .ok a

theorem acceptedUnder_of_ok {modulus : Option Int} {c : Config} {v : Value} {t : SchemaType}
    (h : ∃ a, Checking.argument (modulus.getD c.fieldModulus) argumentLimit v t = .ok a) :
    AcceptedUnder modulus c v t := by
  obtain ⟨a, ha⟩ := h
  intro root
  exact ⟨a, by rw [run_checkArgument, Checking.report_eq_ok, ha]⟩

/-- **A fault is local and comes first.** An argument is refused for a position inside of it and of
its type, to which the accessors in the path of the error lead. Checked by itself, under this path,
the position is refused with the same message; every position before it on the way is accepted; and
neither the message nor the accessors depend on the root. Of several arguments, the first that is
refused decides, as if checked by itself under `$` and its index in brackets. -/
theorem argument_fault_local_and_first (modulus : Option Int) (c : Config) :
    (∀ (v : Value) (t : SchemaType) (root : Text) (e : ArgumentError),
      (checkArgument v (.type t) root modulus).run.run c = .error (.argument e) →
      ∃ path sentence suffix v' t', e.ReadsAt root path sentence suffix ∧
        v.resolve? path = some v' ∧
        Checking.FirstAt (AcceptedUnder modulus c) v t path v' t' ∧
        (∃ e', (checkArgument v' (.type t') (root ++ suffix) modulus).run.run c =
          .error (.argument e') ∧ e'.fault = e.fault ∧
          e'.ReadsAt (root ++ suffix) [] sentence []) ∧
        ∀ other, ∃ e', (checkArgument v (.type t) other modulus).run.run c =
          .error (.argument e') ∧ e'.fault = e.fault ∧
          e'.ReadsAt other path sentence suffix) ∧
    ∀ (s : Signature) (vs : List Value), vs.length = s.inputs.length →
      (∀ e, (checkArguments s (.list vs) modulus).run.run c = .error e →
        ∃ i numeral v t e', vs[i]? = some v ∧ s.inputs[i]? = some t ∧
          Decimal.Denotes numeral i ∧
          (checkArgument v (.type t) ("$[" ++ numeral ++ "]") modulus).run.run c = .error e' ∧
          e.ReadsAs e' ∧
          ∀ j < i, ∀ w u, vs[j]? = some w → s.inputs[j]? = some u → AcceptedUnder modulus c w u) ∧
      ∀ (i : Nat) (v : Value) (t : SchemaType), vs[i]? = some v → s.inputs[i]? = some t →
        ¬ AcceptedUnder modulus c v t →
        ∃ e, (checkArguments s (.list vs) modulus).run.run c = .error e := by
  refine ⟨fun v t root e he => ?_,
    fun s vs hlength => ⟨fun e he => ?_, fun i v t hv ht hfails => ?_⟩⟩
  · rw [run_checkArgument] at he
    obtain ⟨path, hfault, hplace⟩ := Checking.report_eq_argument.1 he
    obtain ⟨v', t', hfirst, hlocal⟩ := Checking.firstAt_of_fault (Nat.le_refl _) hfault
    obtain ⟨f, _⟩ := e
    cases hplace
    refine ⟨path, _, _, v', t', .of_fault f root path, hfirst.resolve?, ?_, ?_, fun other => ?_⟩
    · exact hfirst.imp fun w s => acceptedUnder_of_ok
    · refine ⟨⟨f, ⟨_, []⟩⟩, ?_, rfl, .of_fault f _ []⟩
      rw [run_checkArgument, hlocal]
      rfl
    · refine ⟨⟨f, ⟨other, path⟩⟩, ?_, rfl, .of_fault f other path⟩
      rw [run_checkArgument, hfault]
      rfl
  · rw [run_checkArguments] at he
    cases hrun : Checking.arguments (modulus.getD c.fieldModulus) s.inputs (.list vs) with
    | ok as =>
      rw [hrun] at he
      cases he
    | error stop =>
      rw [hrun] at he
      obtain ⟨i, v, t, hv, ht, hstop, hbefore⟩ := Checking.arguments_eq_error hlength hrun
      have hnumeral : Decimal.Denotes (Decimal.ofNat i) i := Decimal.denotes_iff.2 rfl
      obtain ⟨e', he', hreads⟩ := Checking.report_within (.index hnumeral .here) hstop he
      refine ⟨i, _, v, t, e', hv, ht, hnumeral, ?_, hreads, fun j hj w u hw hu => ?_⟩
      · rw [run_checkArgument, ← he', List.append_nil]
        rfl
      · exact acceptedUnder_of_ok (hbefore j hj w u hw hu)
  · cases hrun : (checkArguments s (.list vs) modulus).run.run c with
    | error e => exact ⟨e, rfl⟩
    | ok as =>
      rw [run_checkArguments, Checking.report_eq_ok] at hrun
      have hok := Checking.argument_of_arguments_eq_ok hlength hrun hv ht
      exact absurd (acceptedUnder_of_ok hok) hfails

/-- A struct of a number and two octets. -/
def tagged : SchemaType :=
  .struct "Tagged" [("tag", .field), ("octets", .array (.uint .w8 .whole) 2)]

/-- A value for it whose second octet is none. -/
def mistagged : Value :=
  .object [("octets", .list [.text "0x00", .text "0xzz"]), ("tag", .text "7")]

theorem argument_fault_local_and_first_octet :
    (checkArgument mistagged (.type tagged) "x" (some 11)).run.run (Config.ofEnvironment []) =
      .error (.argument ⟨.notHexadecimal "u8" "'0xzz'", ⟨"x", [.key "octets", .index 1]⟩⟩) ∧
    (∃ (sentence : Text) (v' : Value) (t' : SchemaType) (e' : ArgumentError),
      mistagged.resolve? [.key "octets", .index 1] = some v' ∧
      Failure.message? (.argument ⟨.notHexadecimal "u8" "'0xzz'",
        ⟨"x", [.key "octets", .index 1]⟩⟩) = some (sentence ++ " @ x.octets[1]") ∧
      Checking.FirstAt (AcceptedUnder (some 11) (Config.ofEnvironment [])) mistagged tagged
        [.key "octets", .index 1] v' t' ∧
      (checkArgument v' (.type t') "x.octets[1]" (some 11)).run.run (Config.ofEnvironment []) =
        .error (.argument e') ∧
      Failure.message? (.argument e') = some (sentence ++ " @ x.octets[1]")) ∧
    ∃ i numeral v t e',
      [.int 10, mistagged, .bool true][i]? = some v ∧
      [.field, tagged, .field][i]? = some t ∧ Decimal.Denotes numeral i ∧
      (checkArgument v (.type t) ("$[" ++ numeral ++ "]") (some 11)).run.run
        (Config.ofEnvironment []) = .error e' ∧
      Failure.ReadsAs (.argument ⟨.notHexadecimal "u8" "'0xzz'",
        ⟨documentRoot, [.index 1, .key "octets", .index 1]⟩⟩) e' := by
  have hargument : (checkArgument mistagged (.type tagged) "x" (some 11)).run.run
      (Config.ofEnvironment []) =
        .error (.argument ⟨.notHexadecimal "u8" "'0xzz'", ⟨"x", [.key "octets", .index 1]⟩⟩) := rfl
  have harguments : (checkArguments ⟨[.field, tagged, .field], []⟩
      (.list [.int 10, mistagged, .bool true]) (some 11)).run.run (Config.ofEnvironment []) =
        .error (.argument ⟨.notHexadecimal "u8" "'0xzz'",
          ⟨documentRoot, [.index 1, .key "octets", .index 1]⟩⟩) := rfl
  obtain ⟨hone, hall⟩ := argument_fault_local_and_first (some 11) (Config.ofEnvironment [])
  obtain ⟨path, sentence, suffix, v', t', hreads, hresolve, hfirst, ⟨e', hlocal, -, hreads'⟩, -⟩ :=
    hone _ _ _ _ hargument
  cases hreads.place
  have hsuffix : suffix = ".octets[1]" := pathText_iff.1 hreads.steps
  subst hsuffix
  obtain ⟨i, numeral, v, t, e'', hv, ht, hnumeral, he'', halike, -⟩ := (hall _ _ rfl).1 _ harguments
  refine ⟨hargument, ⟨sentence, v', t', e', hresolve, ?_, hfirst, hlocal, ?_⟩,
    i, numeral, v, t, e'', hv, ht, hnumeral, he'', halike⟩
  · rw [hreads.message, List.append_assoc]
    rfl
  · rw [hreads'.message, List.append_assoc]
    rfl

end CircuitAbi

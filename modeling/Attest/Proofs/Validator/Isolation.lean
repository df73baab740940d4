import Attest.Proofs.Plan.Isolation
import Attest.Proofs.Validator.Depth

/-!
Fields are isolated, and absent means null. What is nested in a field is looked into without the object around it, and
its chain reads only a few names of that object; so the whole task of a field is the same in objects that agree on
these names. From that it follows what of a payload goes unnoticed: members that are null, members under names that no
field reads, and whether there is an object at all when nothing is in it.
-/

namespace Attest

namespace Json

variable {name key : String} {members : List (String × Json)}

theorem lookup_insertMember_of_ne (h : name ≠ key) (value : Json) :
    (insertMember key value members).lookup name = members.lookup name := by
  have hnew : (name == key) = false := beq_eq_false_iff_ne.2 h
  induction members with
  | nil => rw [insertMember, List.lookup_cons, hnew]
  | cons m rest ih =>
      obtain ⟨k, v⟩ := m
      rw [insertMember]
      split
      · rw [List.lookup_cons, hnew]
      · split
        next _ heq =>
          subst heq
          rw [List.lookup_cons, List.lookup_cons, hnew]
        next =>
          rw [List.lookup_cons, List.lookup_cons, ih]

/-- Members under names that are not read make no difference. -/
theorem agreesOn_insertMembers {names : List String} (extra : List (String × Json)) (h : ∀ m ∈ extra, m.1 ∉ names)
    (members : List (String × Json)) :
    (object (extra.foldl (fun ms (key, value) => insertMember key value ms) members)).AgreesOn names
      (object members) := by
  intro name hname
  induction extra generalizing members with
  | nil => rfl
  | cons m rest ih =>
      obtain ⟨key, value⟩ := m
      have hne : name ≠ key := fun heq => h (key, value) List.mem_cons_self (heq ▸ hname)
      rw [List.foldl_cons, ih (fun m hm => h m (List.mem_cons_of_mem _ hm))]
      simp only [member, member?, lookup_insertMember_of_ne hne]

/-- Members that are null make no difference. -/
theorem agreesOn_filter_isNull (hnodup : (members.map (·.1)).Nodup) (names : List String) :
    (object (members.filter fun m => !m.2.isNull)).AgreesOn names (object members) := by
  intro name _
  induction members with
  | nil => rfl
  | cons m rest ih =>
      obtain ⟨key, value⟩ := m
      obtain ⟨hkey, hrest⟩ := List.nodup_cons.1 hnodup
      have ih := ih hrest
      simp only [member, member?] at ih ⊢
      by_cases hname : name = key
      · subst hname
        by_cases hnull : value.isNull
        · -- The key stands nowhere else, so that nothing is found under it any more.
          have habsent : rest.lookup name = none := by
            rw [List.lookup_eq_none_iff]
            intro m hm
            exact bne_iff_ne.2 fun heq => hkey (List.mem_map.2 ⟨m, hm, heq.symm⟩)
          obtain rfl : value = .null := by
            cases value with
            | null => rfl
            | bool _ | number _ | string _ | array _ | object _ => cases hnull
          rw [List.filter_cons, if_neg (by simp [isNull]), ih, habsent, List.lookup_cons_self]
          rfl
        · rw [List.filter_cons, if_pos (by simp [hnull]), List.lookup_cons_self, List.lookup_cons_self]
      · have hother : (name == key) = false := beq_eq_false_iff_ne.2 hname
        rw [List.lookup_cons, hother, ← ih, List.filter_cons]
        split
        · rw [List.lookup_cons, hother]
        · rfl

/-- A value that is no object reads as one without members. -/
theorem agreesOn_of_not_isObject {value : Json} (h : value.isObject = false) (names : List String) :
    value.AgreesOn names (object []) := by
  intro name _
  cases value with
  | object members => cases h
  | null | bool _ | number _ | string _ | array _ => rfl

end Json

namespace Plan

/-- No step of the plan asks a predicate. -/
def BuiltIn (p : Plan) : Prop :=
  ∀ f ∈ p.fields, f.BuiltIn

instance (p : Plan) : Decidable p.BuiltIn :=
  inferInstanceAs (Decidable (∀ f ∈ p.fields, f.BuiltIn))

/-- The names under which an object is read by the plan. -/
def reads (p : Plan) : List String :=
  p.fields.flatMap (·.reads)

end Plan

namespace Call

variable {c : Call} {object other : Json}

/-- What a field adds to the call on an object: the task of its chain and, as deep as is left, of what is nested
in it. -/
def fieldTask (c : Call) (depth : Nat) (object : Json) (path : Path) (f : PlannedField) : Task :=
  .field (path.field f.name).text .arriving (f.chain c.context (object.member f.name) object (path.field f.name))
    c.policy (c.nested (c.fields depth) f (object.member f.name) (path.field f.name))

theorem fields_succ (depth : Nat) (plan : Plan) (object : Json) (path : Path) :
    c.fields (depth + 1) plan object path = .all (plan.fields.map (c.fieldTask depth object path)) := rfl

/-- **A field is isolated**: its task is the same in all objects that agree on what it reads. -/
theorem fieldTask_congr {f : PlannedField} (hbuiltIn : f.BuiltIn) (h : object.AgreesOn f.reads other) (depth : Nat)
    (path : Path) : c.fieldTask depth object path f = c.fieldTask depth other path f := by
  have hvalue : object.member f.name = other.member f.name := h f.name List.mem_cons_self
  rw [fieldTask, fieldTask, hvalue, PlannedField.chain_congr hbuiltIn h]

theorem fields_congr {plan : Plan} (hbuiltIn : plan.BuiltIn) (h : object.AgreesOn plan.reads other) (depth : Nat)
    (path : Path) : c.fields depth plan object path = c.fields depth plan other path := by
  cases depth with
  | zero => rfl
  | succ depth =>
      rw [fields_succ, fields_succ]
      refine congrArg Task.all (List.map_congr_left fun f hf => fieldTask_congr (hbuiltIn f hf) ?_ depth path)
      exact h.mono fun _ hname => List.mem_flatMap.2 ⟨f, hf, hname⟩

end Call

namespace Validator

variable {v : Validator} {ctx : Context} {schema : String} {value other : Json}

/-- Nothing tells the two values apart when they are held to a schema: they have the same report, or the same abort,
with the fields done in order, and come to the same under the same schedules. -/
structure Indistinct (v : Validator) (ctx : Context) (schema : String) (value other : Json) : Prop where
  report : v.report ctx schema value = v.report ctx schema other
  scheduled : ∀ result, v.MayComeTo ⟨ctx, schema, value⟩ result ↔ v.MayComeTo ⟨ctx, schema, other⟩ result

theorem mayComeTo_of_task_eq (h : v.task ctx schema value = v.task ctx schema other) {result : Except Abort Report}
    (hmay : v.MayComeTo ⟨ctx, schema, value⟩ result) : v.MayComeTo ⟨ctx, schema, other⟩ result := by
  obtain ⟨d, requests, s, i, hrequest, hreaches, hresult⟩ := hmay
  obtain ⟨hlt, -⟩ := List.getElem?_eq_some_iff.1 hrequest
  -- The other value is asked for in the place of the first, which changes no task.
  have htask : (v.tasks requests)[i]? = some (v.task ctx schema other) := by
    rw [tasks, List.getElem?_map, hrequest, Option.map_some, h]
  have htasks : v.tasks (requests.set i ⟨ctx, schema, other⟩) = v.tasks requests := by
    obtain ⟨hlt', hget⟩ := List.getElem?_eq_some_iff.1 htask
    rw [tasks, List.map_set]
    change (v.tasks requests).set i (v.task ctx schema other) = v.tasks requests
    rw [← hget, List.set_getElem_self]
  exact ⟨d, requests.set i ⟨ctx, schema, other⟩, s, i, List.getElem?_set_self hlt, htasks ▸ hreaches, hresult⟩

theorem indistinct_of_agreesOn (hbuiltIn : ∀ plan, v.plans.get? schema = some plan → plan.BuiltIn)
    (h : ∀ plan, v.plans.get? schema = some plan → value.AgreesOn plan.reads other) :
    v.Indistinct ctx schema value other := by
  have htask : v.task ctx schema value = v.task ctx schema other := by
    cases hplan : v.plans.get? schema with
    | none => simp only [task, Call.task, call, hplan]
    | some plan =>
        rw [task_eq hplan, task_eq hplan]
        exact Call.fields_congr (hbuiltIn plan hplan) (h plan hplan) _ .root
  exact ⟨congrArg Task.result htask, fun _ => ⟨mayComeTo_of_task_eq htask, mayComeTo_of_task_eq htask.symm⟩⟩

/-- **Fields are isolated, and absent means null.** A field that asks no predicate adds the very same task to a call,
and so the same messages, the same report on what is nested in it or the same abort, in any two values that read the
same under its own name and those of the siblings that its rules are about. Hence nothing tells values apart for a
schema whose steps ask no predicate if one is the other without the members that are null, or with more members under
names that are not read, or if one is no object and the other an object without members. -/
theorem fields_isolated (v : Validator) (ctx : Context) :
    (∀ f : PlannedField, f.BuiltIn → ∀ object other : Json, object.AgreesOn f.reads other → ∀ depth path,
      (v.call ctx).fieldTask depth object path f = (v.call ctx).fieldTask depth other path f) ∧
    ∀ schema, (∀ plan, v.plans.get? schema = some plan → plan.BuiltIn) →
      (∀ members : List (String × Json), (members.map (·.1)).Nodup →
        v.Indistinct ctx schema (.object (members.filter fun m => !m.2.isNull)) (.object members)) ∧
      (∀ members extra : List (String × Json),
        (∀ plan, v.plans.get? schema = some plan → ∀ m ∈ extra, m.1 ∉ plan.reads) →
        v.Indistinct ctx schema
          (.object (extra.foldl (fun ms (key, value) => Json.insertMember key value ms) members)) (.object members)) ∧
      ∀ value : Json, value.isObject = false → v.Indistinct ctx schema value (.object []) := by
  refine ⟨fun f hbuiltIn object other h depth path => Call.fieldTask_congr hbuiltIn h depth path,
    fun schema hbuiltIn => ⟨fun members hnodup => ?_, fun members extra hextra => ?_, fun value hvalue => ?_⟩⟩
  · exact indistinct_of_agreesOn hbuiltIn fun plan _ => Json.agreesOn_filter_isNull hnodup plan.reads
  · exact indistinct_of_agreesOn hbuiltIn fun plan hplan =>
      Json.agreesOn_insertMembers extra (hextra plan hplan) members
  · exact indistinct_of_agreesOn hbuiltIn fun plan _ => Json.agreesOn_of_not_isObject hvalue plan.reads

/-- Sign-ups with a password, which has to be said again if it is there. -/
def signUpPlan : Plan :=
  ⟨"SignUp", [⟨"password", true, [.ofStep ⟨.minLength 3, none⟩ .builtIn], .empty, none⟩,
    ⟨"again", true, [.ofStep ⟨.requiredWith "password", none⟩ .builtIn, .ofStep ⟨.equalsField "password", none⟩ .builtIn],
      .ofList [1], none⟩], []⟩

def signUps : Validator where
  plans := ⟨[signUpPlan]⟩
  settings := .standard
  dispatcher := ⟨some 1⟩

def signUp : List (String × Json) :=
  [("again", .null), ("password", .string "tea")]

def signUpReport : Report where
  entries := [("again", ["required_with"])]

theorem fields_isolated_signUp :
    signUps.report signUps.keysOnly "SignUp" (.object signUp) = .ok signUpReport ∧
      signUps.report signUps.keysOnly "SignUp" (.object [("password", .string "tea")]) = .ok signUpReport ∧
      signUps.report signUps.keysOnly "SignUp"
        (.object [("again", .null), ("name", .string "Ann"), ("password", .string "tea")]) = .ok signUpReport ∧
      signUps.report signUps.keysOnly "SignUp" (.array [.string "tea"]) =
        signUps.report signUps.keysOnly "SignUp" (.object []) := by
  have hbuiltIn : ∀ plan, signUps.plans.get? "SignUp" = some plan → plan.BuiltIn := by
    intro plan hplan
    obtain rfl : signUpPlan = plan := Option.some.inj hplan
    decide
  have hreport : signUps.report signUps.keysOnly "SignUp" (.object signUp) = .ok signUpReport := by decide +kernel
  obtain ⟨-, hvalues⟩ := fields_isolated signUps signUps.keysOnly
  obtain ⟨hnulls, hextra, hother⟩ := hvalues "SignUp" hbuiltIn
  have hname : ∀ plan, signUps.plans.get? "SignUp" = some plan →
      ∀ m ∈ [("name", Json.string "Ann")], m.1 ∉ plan.reads := by
    intro plan hplan m hm
    obtain rfl : signUpPlan = plan := Option.some.inj hplan
    obtain rfl := List.mem_singleton.1 hm
    decide
  exact ⟨hreport, (hnulls signUp (by decide)).report.trans hreport, (hextra signUp _ hname).report.trans hreport,
    (hother (.array [.string "tea"]) rfl).report⟩

end Validator

end Attest

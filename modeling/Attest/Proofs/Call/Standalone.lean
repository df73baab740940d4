import Attest.Proofs.Call.Completion
import Attest.Proofs.Report.Relocation

/-!
Nested validation as validation of its own. What a call says about an object inside a payload is what it says of the
object when that stands by itself, with the place of the object before each path.

The walk is the same at either place; only the places differ, and they are made from the place of the object by going
to fields and elements below it. So everything comes down to this: going on and moving can be done in either order.
That needs field names that are not empty, for a field without a name inside the root would be the root again.
-/

namespace Attest

/-- No field goes without a name. -/
def PlanSet.Named (plans : PlanSet) : Prop :=
  ∀ plan ∈ plans.plans, ∀ f ∈ plan.fields, f.name ≠ ""

/-- The values that a nested schema is held against, below a place that was moved. -/
theorem Nesting.parts?_under {n : Nesting} {value : Json} {place path : Path} (hpath : path.isRoot = false) :
    n.parts? value (place.under path) =
      (n.parts? value path).map fun parts => parts.map fun part => (part.1, place.under part.2) := by
  rw [parts?, parts?]
  by_cases heach : n.each
  · rw [if_pos heach, if_pos heach, Option.map_map]
    refine congrArg (Option.map · value.array?) (funext fun items => ?_)
    simp only [Function.comp_def, List.map_map, Path.index_under hpath]
  · rw [if_neg heach, if_neg heach]
    rfl

/-- Whatever a nested schema is held against in a field stands below the root. -/
theorem Nesting.isRoot_of_mem_parts {n : Nesting} {value : Json} {path : Path} {parts : List (Json × Path)}
    (hpath : path.isRoot = false) (hparts : n.parts? value path = some parts) :
    ∀ part ∈ parts, part.2.isRoot = false := by
  rw [parts?] at hparts
  by_cases heach : n.each
  · rw [if_pos heach] at hparts
    obtain ⟨items, -, rfl⟩ := Option.map_eq_some_iff.1 hparts
    intro part hpart
    obtain ⟨item, -, rfl⟩ := List.mem_map.1 hpart
    exact path.isRoot_index item.2
  · rw [if_neg heach] at hparts
    obtain rfl := Option.some.inj hparts
    intro part hpart
    obtain rfl := List.mem_singleton.1 hpart
    exact hpath

namespace Call

variable {c : Call} {place path : Path}

theorem notice_under (key : String) (hpath : path.isRoot = false) :
    c.notice key (place.under path) = (c.notice key path).rename place.inside := by
  rw [notice, Path.text_under hpath]
  rfl

/-- What holds of the logs below an object carries over to the values that a nested schema is held against. -/
theorem partsLog_under {nesting : Nesting} {target : Plan} {value : Json} (hpath : path.isRoot = false)
    (hlog : ∀ part, sizeOf part ≤ sizeOf value → ∀ path,
      c.log target part (place.under path) = (c.log target part path).rename place.inside) :
    c.partsLog nesting target value (place.under path) =
      (c.partsLog nesting target value path).rename place.inside := by
  rw [partsLog, partsLog, Nesting.parts?_under hpath]
  cases hparts : nesting.parts? value path with
  | none => exact notice_under "expected_array" hpath
  | some parts =>
      simp only [Option.map_some, Log.rename_flatMap, List.flatMap_map]
      refine List.flatMap_congr fun part hpart => ?_
      by_cases hobject : part.1.isObject
      · rw [if_pos hobject, if_pos hobject]
        exact hlog part.1 (Nesting.sizeOf_part_le hparts hpart) part.2
      · rw [if_neg hobject, if_neg hobject]
        exact notice_under "expected_object" (Nesting.isRoot_of_mem_parts hpath hparts part hpart)

/-- **The log of an object that was moved** is its log with the place before each path. -/
theorem log_under (hnamed : c.plans.Named) (hplace : place.isRoot = false) {plan : Plan}
    (hplan : plan ∈ c.plans.plans) (object : Json) (path : Path) :
    c.log plan object (place.under path) = (c.log plan object path).rename place.inside := by
  -- On the size of the object: whatever is entered below it is smaller, wherever it stands.
  induction hsize : sizeOf object using Nat.strongRecOn generalizing plan object path with
  | ind size ih =>
      rw [log_eq, log_eq, Log.rename_flatMap]
      refine List.flatMap_congr fun f hf => ?_
      have hname : f.name ≠ "" := hnamed plan hplan f hf
      have hfield : (path.field f.name).isRoot = false := Path.isRoot_field hname path
      simp only [fieldLog, Path.field_under hplace hname, Log.rename_append, Log.rename_single, Path.text_under hfield]
      refine congrArg _ ?_
      cases hinner : c.inner? f (object.member f.name) object with
      | none => rfl
      | some inner =>
          obtain ⟨nesting, target⟩ := inner
          obtain ⟨-, htarget, hthere, -⟩ := inner?_eq_some_iff.1 hinner
          refine partsLog_under hfield fun part hle path => ?_
          have hlt : sizeOf (object.member f.name) < sizeOf object := Json.sizeOf_member_lt hthere
          exact ih (sizeOf part) (by omega) (PlanSet.mem_of_get? htarget) part path rfl

/-- The report on an object at a place is the one on the object by itself, with the place before each path. -/
theorem report_log_under (hnamed : c.plans.Named) (hplace : place.isRoot = false) {plan : Plan}
    (hplan : plan ∈ c.plans.plans) (object : Json) :
    (c.log plan object place).report = (c.log plan object .root).report.under place := by
  have hlog := log_under hnamed hplace hplan object .root
  rw [Path.under_root] at hlog
  rw [hlog, Log.report_rename place.inside_injective]
  rfl

/-! ### What is nested in a field -/

/-- The report about one value that a schema is held against: on an object, the report that a call with this schema
comes to on the object alone, under its place; and about anything else the message that it is no object. -/
def Stands (c : Call) (schema : String) (part : Json × Path) (report : Report) : Prop :=
  if part.1.isObject then
    ∃ standalone, (c.task schema part.1).result = .ok standalone ∧ report = standalone.under part.2
  else (c.tell "expected_object" part.2).result = .ok report

/-- The report about the value of a field that is looked into: the one about the value itself, or those about the
elements of a list one after the other, each with its position in the whole list. -/
def Composes (c : Call) (nesting : Nesting) (value : Json) (place : Path) (report : Report) : Prop :=
  if nesting.each then
    (value.array? = none → (c.tell "expected_array" place).result = .ok report) ∧
      ∀ items, value.array? = some items → ∃ reports,
        List.Forall₂ (c.Stands nesting.schema)
          ((items.zipIdx.filter fun (item, _) => !item.isNull).map fun (item, i) => (item, place.index i)) reports ∧
        report = reports.foldl Report.merge .empty
  else c.Stands nesting.schema (value, place) report

/-- An object that the call comes to a report on with the depth that is left has a report of its own. -/
theorem stands_of_completes (hnamed : c.plans.Named) {schema : String} {target : Plan}
    (htarget : c.plans.get? schema = some target) {part : Json × Path} (hplace : part.2.isRoot = false) {depth : Nat}
    (hdepth : depth ≤ c.maxDepth + 1) (hcompletes : part.1.isObject = true → c.Completes depth target part.1) :
    c.Stands schema part
      (if part.1.isObject then c.log target part.1 part.2 else c.notice "expected_object" part.2 : Log).report := by
  rw [Stands]
  by_cases hobject : part.1.isObject
  · rw [if_pos hobject, if_pos hobject]
    -- By itself the object has the whole depth to go, which is no less than what is left for it here.
    have halone : c.Completes (c.maxDepth + 1) target part.1 :=
      (hcompletes hobject).mono rfl rfl (fun _ hallows => hallows) hdepth
    obtain ⟨standalone, hstandalone⟩ := exists_report_iff.2 halone
    refine ⟨standalone, ?_, ?_⟩
    · simp only [task, htarget]
      exact hstandalone
    · rw [report_fields hstandalone]
      exact report_log_under hnamed hplace (PlanSet.mem_of_get? htarget) part.1
  · rw [if_neg hobject, if_neg hobject]
    exact c.result_tell "expected_object" part.2

theorem composes_of_completes (hnamed : c.plans.Named) {nesting : Nesting} {target : Plan}
    (htarget : c.plans.get? nesting.schema = some target) {value : Json} (hpath : path.isRoot = false) {depth : Nat}
    (hdepth : depth ≤ c.maxDepth + 1)
    (hcompletes : ∀ part ∈ nesting.contents value, part.isObject = true → c.Completes depth target part) :
    c.Composes nesting value path (c.partsLog nesting target value path).report := by
  have hstands (parts : List (Json × Path)) (hparts : nesting.parts? value path = some parts) :
      ∀ part ∈ parts, c.Stands nesting.schema part
        (if part.1.isObject then c.log target part.1 part.2 else c.notice "expected_object" part.2 : Log).report :=
    fun part hpart => stands_of_completes hnamed htarget (Nesting.isRoot_of_mem_parts hpath hparts part hpart) hdepth
      (Nesting.forall_contents_iff.1 hcompletes parts hparts part hpart)
  rw [Composes, partsLog]
  by_cases heach : nesting.each
  · rw [if_pos heach]
    constructor
    · intro harray
      have hparts : nesting.parts? value path = none := by rw [Nesting.parts?, if_pos heach, harray, Option.map_none]
      rw [hparts]
      exact c.result_tell "expected_array" path
    · intro items harray
      have hparts : nesting.parts? value path =
          some ((items.zipIdx.filter fun (item, _) => !item.isNull).map fun (item, i) => (item, path.index i)) := by
        rw [Nesting.parts?, if_pos heach, harray, Option.map_some]
      have hreports := hstands _ hparts
      rw [hparts]
      exact ⟨_, List.forall₂_map_right_iff.2 (List.forall₂_same.2 hreports), Log.report_flatMap _ _⟩
  · rw [if_neg heach]
    have hparts : nesting.parts? value path = some [(value, path)] := by rw [Nesting.parts?, if_neg heach]
    have hstand := hstands _ hparts (value, path) List.mem_cons_self
    rw [hparts]
    simpa only [List.flatMap_singleton] using hstand

/-- The messages about what is nested in a field. -/
def nestedLog (c : Call) (object : Json) (path : Path) (f : PlannedField) : Log :=
  match c.inner? f (object.member f.name) object with
  | none => []
  | some (nesting, target) => c.partsLog nesting target (object.member f.name) (path.field f.name)

/-- The report on an object, from those on its fields. -/
theorem report_log_eq (plan : Plan) (object : Json) (path : Path) :
    (c.log plan object path).report =
      (plan.fields.map fun f =>
        (Report.empty.extend (path.field f.name).text (f.complaints c.context (object.member f.name) object)).merge
          (c.nestedLog object path f).report).foldl Report.merge .empty := by
  have hfield (f : PlannedField) : (c.fieldLog object path f).report =
      (Report.empty.extend (path.field f.name).text (f.complaints c.context (object.member f.name) object)).merge
        (c.nestedLog object path f).report := by
    rw [← Log.report_single, ← Log.report_append]
    rfl
  rw [log_eq, Log.report_flatMap]
  simp only [hfield]

/-- **Nested validation is validation of its own under a prefix.** Where no field goes without a name, and wherever an
object is: if the call comes to a report on it there and to one on it as the root, whatever depth is left for either,
then the former is the latter with the place before each path.
So the report on an object is put together from the reports on its fields, each of them the messages about the value
itself and what is nested in it; and what is nested in a field that is looked into is the report that the call comes to
with the nested schema on the value, or on each element, by itself, under the place of the value or the element. -/
theorem standalone_under_place (hnamed : c.plans.Named) {plan : Plan} (hplan : plan ∈ c.plans.plans) (object : Json) :
    (∀ place depth depth' report standalone, place ≠ .root →
        (c.fields depth plan object place).result = .ok report →
        (c.fields depth' plan object .root).result = .ok standalone → report = standalone.under place) ∧
      ∀ path depth report, depth ≤ c.maxDepth + 1 → (c.fields depth plan object path).result = .ok report →
        ∃ contribution : PlannedField → Report,
          report = (plan.fields.map fun f =>
            (Report.empty.extend (path.field f.name).text (f.complaints c.context (object.member f.name) object)).merge
              (contribution f)).foldl Report.merge .empty ∧
          ∀ f ∈ plan.fields,
            (c.inner? f (object.member f.name) object = none → contribution f = .empty) ∧
              ∀ nesting target, c.inner? f (object.member f.name) object = some (nesting, target) →
                c.Composes nesting (object.member f.name) (path.field f.name) (contribution f) := by
  constructor
  · intro place depth depth' report standalone hplace hreport hstandalone
    have hbelow : place.isRoot = false := Path.isRoot_eq_false_iff.2 fun htext => hplace (congrArg Path.mk htext)
    rw [report_fields hreport, report_fields hstandalone]
    exact report_log_under hnamed hbelow hplan object
  · intro path depth report hdepth hreport
    refine ⟨fun f => (c.nestedLog object path f).report, ?_, fun f hf => ⟨fun hinner => ?_, fun nesting target hinner => ?_⟩⟩
    · rw [report_fields hreport]
      exact report_log_eq plan object path
    · simp only [nestedLog, hinner]
      exact Log.report_nil
    · simp only [nestedLog, hinner]
      obtain ⟨hfield, htarget, hthere, hallows⟩ := inner?_eq_some_iff.1 hinner
      have hcompletes : c.Completes depth plan object := exists_report_iff.1 ⟨report, hreport⟩
      cases depth with
      | zero => cases hcompletes
      | succ depth =>
          obtain ⟨other, hother, hcontents⟩ := (hcompletes f hf).2 hallows nesting hfield hthere
          obtain rfl := Option.some.inj (htarget.symm.trans hother)
          have hplace : (path.field f.name).isRoot = false := Path.isRoot_field (hnamed plan hplan f hf) path
          exact composes_of_completes hnamed htarget hplace (Nat.le_of_succ_le hdepth) hcontents

/-- Boxes with a label, with a lid that is a box too, and with a list of boxes. -/
def boxPlan : Plan where
  name := "Box"
  fields := [⟨"label", false, [.ofStep ⟨.notBlank, none⟩ .builtIn], .empty, none⟩,
    ⟨"lid", true, [], .empty, some ⟨"Box", false⟩⟩, ⟨"boxes", true, [], .empty, some ⟨"Box", true⟩⟩]
  warnings := []

/-- A call about boxes, in which a message is the key itself. -/
def boxCall : Call where
  plans := ⟨[boxPlan]⟩
  context := (Context.standard .unbounded (.fixed ⟨0, 0⟩)).withResolver fun key _ _ => .done key
  policy := .always
  maxDepth := 8

def brokenBox : Json :=
  .object [("label", .string "outer"), ("lid", .object []),
    ("boxes", .array [.null, .object [("label", .string " ")], .bool true])]

def brokenBoxReport : Report where
  entries := [("lid.label", ["not_null"]), ("boxes[1].label", ["not_blank"]), ("boxes[2]", ["expected_object"])]

def movedBoxReport : Report where
  entries := [("boxes[0].lid.label", ["not_null"]), ("boxes[0].boxes[1].label", ["not_blank"]),
    ("boxes[0].boxes[2]", ["expected_object"])]

theorem standalone_under_place_brokenBox :
    boxCall.plans.Named ∧ boxPlan ∈ boxCall.plans.plans ∧
      (boxCall.fields 3 boxPlan brokenBox ⟨"boxes[0]"⟩).result = .ok movedBoxReport ∧
      (boxCall.fields 9 boxPlan brokenBox .root).result = .ok brokenBoxReport ∧
      movedBoxReport = brokenBoxReport.under ⟨"boxes[0]"⟩ ∧
      ∃ contribution : PlannedField → Report,
        brokenBoxReport = (boxPlan.fields.map fun f =>
          (Report.empty.extend (Path.root.field f.name).text
            (f.complaints boxCall.context (brokenBox.member f.name) brokenBox)).merge
            (contribution f)).foldl Report.merge .empty ∧
        ∀ f ∈ boxPlan.fields, ∀ nesting target,
          boxCall.inner? f (brokenBox.member f.name) brokenBox = some (nesting, target) →
            boxCall.Composes nesting (brokenBox.member f.name) (Path.root.field f.name) (contribution f) := by
  have hnamed : boxCall.plans.Named := by
    intro plan hplan f hf
    obtain rfl := List.mem_singleton.1 hplan
    revert f
    decide
  have hplan : boxPlan ∈ boxCall.plans.plans := List.mem_singleton_self boxPlan
  have hroot : (boxCall.fields 9 boxPlan brokenBox .root).result = .ok brokenBoxReport := by decide +kernel
  have hplace : (boxCall.fields 3 boxPlan brokenBox ⟨"boxes[0]"⟩).result = .ok movedBoxReport := by decide +kernel
  obtain ⟨hmoved, hcomposed⟩ := standalone_under_place hnamed hplan brokenBox
  have heq := hmoved _ _ _ _ _ (by decide) hplace hroot
  obtain ⟨contribution, hparts, hcontribution⟩ := hcomposed .root 9 _ (Nat.le_refl 9) hroot
  exact ⟨hnamed, hplan, hplace, hroot, heq, contribution, hparts, fun f hf => (hcontribution f hf).2⟩

end Call

end Attest

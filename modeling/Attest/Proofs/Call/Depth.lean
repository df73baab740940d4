import Attest.Proofs.Call.Policy
import Attest.Proofs.Json.Nesting
import Attest.Proofs.Plan.Correspondence

/-!
How deep a call comes, and when that is too deep.

A walk that knows no limit comes to certain objects, each by looking into a number of fields one below the other. If
the plans refer only to each other and ask no predicate, then nothing but the depth can keep a call from its report:
it aborts exactly when there is such an object deeper than is allowed, and where it aborts there is an object just one
level too deep. A walk looks into a field once per level, so it comes no deeper than the value is nested.
-/

namespace Attest

theorem Nesting.nesting_part_le {n : Nesting} {value part : Json} {path place : Path} {parts : List (Json × Path)}
    (hparts : n.parts? value path = some parts) (hpart : (part, place) ∈ parts) : part.nesting ≤ value.nesting := by
  have hcontent : part ∈ n.contents value := by
    rw [contents_eq hparts]
    exact List.mem_map_of_mem hpart
  rw [contents] at hcontent
  split at hcontent
  · have hitem := (List.mem_filter.1 hcontent).1
    cases value with
    | array items =>
        rw [Json.nesting]
        exact Nat.le_succ_of_le (Json.nesting_le_of_mem hitem)
    | null | bool _ | number _ | string _ | object _ => cases hitem
  · obtain rfl := List.mem_singleton.1 hcontent
    exact Nat.le_refl _

namespace PlannedStep

variable {s : PlannedStep} {ctx : Context} {value parent : Json}

/-- A step that asks no predicate comes to a verdict. -/
theorem exists_verdict (h : ∀ predicate, s.matcher ≠ .custom predicate) :
    ∃ verdict, s.verdict ctx value parent = .ok verdict := by
  rw [verdict, check]
  cases hmatcher : s.matcher with
  | builtIn => exact ⟨_, rfl⟩
  | pattern vetted => exact ⟨_, rfl⟩
  | custom predicate => exact absurd hmatcher (h predicate)

end PlannedStep

namespace Call

variable {c : Call} {start plan : Plan} {value object : Json} {path : Path} {level depth : Nat}

/-- The objects that a walk without a limit comes to, with how many values were looked into on the way to each. -/
inductive Descends (c : Call) (start : Plan) (value : Json) : Nat → Plan → Json → Path → Prop
  | start : Descends c start value 0 start value .root
  | nested {level plan object path f nesting target parts part place}
      (h : Descends c start value level plan object path) (hf : f ∈ plan.fields)
      (hinner : c.inner? f (object.member f.name) object = some (nesting, target))
      (hparts : nesting.parts? (object.member f.name) (path.field f.name) = some parts)
      (hpart : (part, place) ∈ parts) (hobject : part.isObject = true) :
      Descends c start value (level + 1) target part place

theorem Visits.descends (h : c.Visits start value level plan object path) :
    c.Descends start value level plan object path := by
  induction h with
  | start => exact .start
  | nested _ _ hf _ hinner hparts hpart hobject ih => exact .nested ih hf hinner hparts hpart hobject

/-- A call comes at most one level too deep. -/
theorem Visits.level_le (h : c.Visits start value level plan object path) : level ≤ c.maxDepth + 1 := by
  cases h with
  | start => exact Nat.zero_le _
  | nested _ hlevel _ _ _ _ _ _ => exact Nat.succ_le_succ hlevel

theorem Descends.mem_plans (h : c.Descends start value level plan object path) (hstart : start ∈ c.plans.plans) :
    plan ∈ c.plans.plans := by
  cases h with
  | start => exact hstart
  | nested _ _ hinner _ _ _ => exact PlanSet.mem_of_get? (inner?_eq_some_iff.1 hinner).2.1

/-- A walk comes no deeper than the value is nested. -/
theorem Descends.nesting_le (h : c.Descends start value level plan object path) :
    level + object.nesting ≤ value.nesting := by
  induction h with
  | start => exact Nat.le_of_eq (Nat.zero_add _)
  | nested _ _ hinner hparts hpart _ ih =>
      have hthere := (inner?_eq_some_iff.1 hinner).2.2.1
      have hpart := Nesting.nesting_part_le hparts hpart
      have hmember := Json.nesting_member_lt hthere
      omega

theorem Descends.level_le (h : c.Descends start value level plan object path) : level ≤ value.nesting :=
  Nat.le_trans (Nat.le_add_right _ _) h.nesting_le

/-! ### Which calls are deep enough -/

/-- A call that comes to a report on a value comes to one on each object that a walk comes to, and so none of them is
too deep. -/
theorem Completes.descend (hcompletes : c.Completes depth start value)
    (h : c.Descends start value level plan object path) :
    level < depth ∧ c.Completes (depth - level) plan object := by
  have hpositive {depth : Nat} {plan : Plan} {object : Json} (h : c.Completes depth plan object) : 0 < depth := by
    cases depth with
    | zero => cases h
    | succ depth => exact Nat.succ_pos depth
  induction h with
  | start => exact ⟨hpositive hcompletes, hcompletes⟩
  | @nested level plan object path f nesting target parts part place _ hf hinner hparts hpart hobject ih =>
      obtain ⟨hlevel, hhere⟩ := ih
      obtain ⟨left, hleft⟩ : ∃ left, depth - level = left + 1 := ⟨depth - level - 1, by omega⟩
      obtain ⟨hfield, htarget, hthere, hallows⟩ := inner?_eq_some_iff.1 hinner
      rw [hleft] at hhere
      obtain ⟨other, hother, hcontents⟩ := (hhere f hf).2 hallows nesting hfield hthere
      obtain rfl := Option.some.inj (htarget.symm.trans hother)
      have hbelow := Nesting.forall_contents_iff.1 hcontents parts hparts (part, place) hpart hobject
      have hlast := hpositive hbelow
      have heq : depth - (level + 1) = left := by omega
      rw [heq]
      exact ⟨by omega, hbelow⟩

/-- Where no object is too deep nothing keeps a call from its report, if its plans refer only to each other and ask no
predicate. -/
theorem completes_of_shallow (hclosed : c.plans.Closed) (hbuiltIn : c.plans.BuiltIn)
    (hstart : start ∈ c.plans.plans) {limit : Nat}
    (hshallow : ∀ level plan object path, c.Descends start value level plan object path → level < limit)
    (hdepth : level + depth = limit) (h : c.Descends start value level plan object path) :
    c.Completes depth plan object := by
  induction depth generalizing level plan object path with
  | zero =>
      have hlevel := hshallow level plan object path h
      omega
  | succ depth ih =>
      intro f hf
      have hplan : plan ∈ c.plans.plans := h.mem_plans hstart
      refine ⟨fun s hs => ?_, fun hallows nesting hfield hthere => ?_⟩
      · exact PlannedStep.exists_verdict (hbuiltIn plan hplan f hf s (PlannedField.mem_steps_of_mem_asked hs).1)
      · obtain ⟨target, htarget⟩ := hclosed plan hplan f hf nesting hfield
        have hinner := inner?_eq_some_iff.2 ⟨hfield, htarget, hthere, hallows⟩
        refine ⟨target, htarget, (@Nesting.forall_contents_iff _ _ (path.field f.name) _).2 ?_⟩
        intro parts hparts part hpart hobject
        exact ih (by omega) (.nested h hf hinner hparts hpart hobject)

/-- **When a call is deep enough.** -/
theorem completes_iff_shallow (hclosed : c.plans.Closed) (hbuiltIn : c.plans.BuiltIn)
    (hstart : start ∈ c.plans.plans) :
    c.Completes depth start value ↔
      ∀ level plan object path, c.Descends start value level plan object path → level < depth := by
  constructor
  · intro h level plan object path hdescends
    exact (h.descend hdescends).1
  · intro hshallow
    exact completes_of_shallow hclosed hbuiltIn hstart hshallow (Nat.zero_add _) .start

/-- Nothing else is raised than that an object is one level too deep. -/
theorem Raises.exists_too_deep {schema : String} {abort : Abort} (hclosed : c.plans.Closed)
    (hbuiltIn : c.plans.BuiltIn) (hstart : c.plans.get? schema = some start) (h : c.Raises schema value abort) :
    ∃ plan object path, c.Descends start value (c.maxDepth + 1) plan object path ∧
      abort = .tooDeep path.text c.maxDepth := by
  have hmem (other : Plan) (hother : c.plans.get? schema = some other) : other ∈ c.plans.plans :=
    PlanSet.mem_of_get? hother
  cases h with
  | noSchema hnone => cases hstart.symm.trans hnone
  | @tooDeep other level plan object path hother hvisit hlevel =>
      obtain rfl := Option.some.inj (hstart.symm.trans hother)
      obtain rfl : level = c.maxDepth + 1 := Nat.le_antisymm hvisit.level_le hlevel
      exact ⟨plan, object, path, hvisit.descends, rfl⟩
  | @noVerdict other level plan object path f before s after failure hother hvisit _ hf hasked _ hs =>
      have hplan : plan ∈ c.plans.plans := hvisit.descends.mem_plans (hmem other hother)
      have hstep : s ∈ f.asked c.context (object.member f.name) object := by
        rw [hasked]
        exact List.mem_append_right before List.mem_cons_self
      obtain ⟨verdict, hverdict⟩ :=
        PlannedStep.exists_verdict (hbuiltIn plan hplan f hf s (PlannedField.mem_steps_of_mem_asked hstep).1)
      cases hs.symm.trans hverdict
  | @noNested other level plan object path f nesting hother hvisit _ hf _ hnested _ _ hnone =>
      have hplan : plan ∈ c.plans.plans := hvisit.descends.mem_plans (hmem other hother)
      obtain ⟨target, htarget⟩ := hclosed plan hplan f hf nesting hnested
      cases hnone.symm.trans htarget

/-- Calls that differ only in how deep they may come leave the same log. -/
theorem log_eq_of_depth {c' : Call} (hplans : c'.plans = c.plans) (hcontext : c'.context = c.context)
    (hpolicy : c'.policy = c.policy) (plan : Plan) (object : Json) (path : Path) :
    c'.log plan object path = c.log plan object path := by
  have hto : c'.Narrows c := ⟨hplans, hcontext, fun failed h => hpolicy ▸ h⟩
  have hfrom : c.Narrows c' := ⟨hplans.symm, hcontext.symm, fun failed h => hpolicy.symm ▸ h⟩
  exact (hto.log_sublist plan object path).antisymm (hfrom.log_sublist plan object path)

/-- A call that may come deeper comes to the same report as one that does not. -/
theorem result_of_deeper {c' : Call} (hplans : c'.plans = c.plans) (hcontext : c'.context = c.context)
    (hpolicy : c'.policy = c.policy) {depth' : Nat} (hdepth : depth ≤ depth') {report : Report}
    (h : (c.fields depth plan object path).result = .ok report) :
    (c'.fields depth' plan object path).result = .ok report := by
  have hcompletes : c.Completes depth plan object := exists_report_iff.1 ⟨report, h⟩
  have hdeeper : c'.Completes depth' plan object :=
    hcompletes.mono hplans hcontext (fun failed hallows => hpolicy ▸ hallows) hdepth
  obtain ⟨other, hother⟩ : ∃ other, (c'.fields depth' plan object path).result = .ok other :=
    exists_report_iff.2 hdeeper
  rw [hother, report_fields hother, report_fields h, log_eq_of_depth hplans hcontext hpolicy]

end Call

end Attest

import Attest.Proofs.Call.Standalone
import Attest.Proofs.Lists

/-!
Locations in a payload and the paths that they are written as. A location is a row of steps, each to a field or to an
element of a list, and its path is what the steps write one behind the other.

Nothing is escaped in a path. It can be read back all the same if the names of fields hold neither a point nor an
opening bracket: a name ends where one of these follows, and a position ends with its closing bracket, so the first step
and what is left of the path are known. Only the first of all steps is written in another way, because no point stands
before a name at the root; but a name does not begin with a bracket, and so this step is known too.
-/

namespace Attest

/-- A name that can be told from what stands around it in a path. -/
structure FieldName where
  text : String
  nonempty : text ≠ ""
  noPoint : '.' ∉ text.toList
  noBracket : '[' ∉ text.toList
  deriving DecidableEq

inductive Segment
  | field (name : FieldName)
  | index (position : Nat)
  deriving DecidableEq

/-- The way from the payload to a value in it. -/
abbrev Location := List Segment

/-- The path of a value one step further on. -/
def Path.step (p : Path) : Segment → Path
  | .field name => p.field name.text
  | .index position => p.index position

def Location.path (l : Location) : Path :=
  l.foldl Path.step .root

namespace Segment

/-- How a step is written below the root. -/
def source : Segment → List Char
  | field name => '.' :: name.text.toList
  | index position => '[' :: (Nat.toDigits 10 position ++ [']'])

/-- How a step is written at the root. -/
def rootSource : Segment → List Char
  | field name => name.text.toList
  | index position => (index position).source

end Segment

/-! ### What is written -/

namespace Path

variable {p : Path}

theorem isRoot_step (p : Path) (s : Segment) : (p.step s).isRoot = false := by
  cases s with
  | field name => exact isRoot_field name.nonempty p
  | index position => exact isRoot_index p position

theorem isRoot_foldl_step (hp : p.isRoot = false) (l : Location) : (l.foldl step p).isRoot = false := by
  induction l generalizing p with
  | nil => exact hp
  | cons s l ih => exact ih (isRoot_step p s)

theorem text_step (hp : p.isRoot = false) (s : Segment) : (p.step s).text.toList = p.text.toList ++ s.source := by
  cases s with
  | field name => simp [step, field, hp, Segment.source]
  | index position => simp [step, index, Segment.source, Nat.repr]

theorem text_step_root (s : Segment) : (root.step s).text.toList = s.rootSource := by
  cases s with
  | field name => rfl
  | index position => simp [step, index, root, Segment.rootSource, Segment.source, Nat.repr]

theorem text_foldl_step (hp : p.isRoot = false) (l : Location) :
    (l.foldl step p).text.toList = p.text.toList ++ l.flatMap Segment.source := by
  induction l generalizing p with
  | nil => simp
  | cons s l ih => rw [List.foldl_cons, ih (isRoot_step p s), text_step hp, List.flatMap_cons, List.append_assoc]

end Path

namespace Location

theorem text_path_cons (s : Segment) (l : Location) :
    (path (s :: l)).text.toList = s.rootSource ++ l.flatMap Segment.source := by
  rw [path, List.foldl_cons, Path.text_foldl_step (Path.isRoot_step _ s), Path.text_step_root]

/-- Only the payload itself is at the root. -/
theorem isRoot_path_iff (l : Location) : l.path.isRoot = true ↔ l = [] := by
  cases l with
  | nil => exact iff_of_true rfl rfl
  | cons s l =>
      have hbelow : (path (s :: l)).isRoot = false := Path.isRoot_foldl_step (Path.isRoot_step _ s) l
      rw [hbelow]
      exact iff_of_false Bool.false_ne_true (List.cons_ne_nil s l)

end Location

/-! ### Reading a path back -/

/-- The characters of a name. -/
def isNameChar (c : Char) : Bool :=
  c != '.' && c != '['

theorem FieldName.isNameChar_of_mem (name : FieldName) : ∀ c ∈ name.text.toList, isNameChar c = true := by
  intro c hc
  have hpoint : c ≠ '.' := fun h => name.noPoint (h ▸ hc)
  have hbracket : c ≠ '[' := fun h => name.noBracket (h ▸ hc)
  simp [isNameChar, hpoint, hbracket]

theorem FieldName.ext_toList {name other : FieldName} (h : name.text.toList = other.text.toList) : name = other := by
  obtain ⟨text, _, _, _⟩ := name
  obtain ⟨text', _, _, _⟩ := other
  obtain rfl : text = text' := String.toList_injective h
  rfl

/-- Every step but the first begins with a character that no name has. -/
theorem head?_flatMap_source (l : Location) : ∀ c ∈ (l.flatMap Segment.source).head?, isNameChar c = false := by
  intro c hc
  cases l with
  | nil => cases hc
  | cons s l =>
      cases s with
      | field name =>
          obtain rfl : '.' = c := Option.some.inj hc
          rfl
      | index position =>
          obtain rfl : '[' = c := Option.some.inj hc
          rfl

theorem ne_closing_of_mem_toDigits {position : Nat} : ∀ c ∈ Nat.toDigits 10 position, (c != ']') = true := by
  intro c hc
  have hdigit : c.isDigit = true := Nat.isDigit_of_mem_toDigits (by decide) (by decide) hc
  refine bne_iff_ne.2 ?_
  rintro rfl
  exact absurd hdigit (by decide)

theorem toDigits_injective {n m : Nat} (h : Nat.toDigits 10 n = Nat.toDigits 10 m) : n = m := by
  rw [← Nat.ofDigitChars_ten_toDigits (n := n), h, Nat.ofDigitChars_ten_toDigits]

theorem digits_append_inj {n m : Nat} {rest rest' : List Char}
    (h : Nat.toDigits 10 n ++ ']' :: rest = Nat.toDigits 10 m ++ ']' :: rest') : n = m ∧ rest = rest' := by
  have hclosing (tail : List Char) : ∀ c ∈ (']' :: tail).head?, (c != ']') = false := by simp
  obtain ⟨hdigits, hrest⟩ := append_inj_of_cut ne_closing_of_mem_toDigits ne_closing_of_mem_toDigits
    (hclosing rest) (hclosing rest') h
  exact ⟨toDigits_injective hdigits, (List.cons.inj hrest).2⟩

theorem name_append_inj {name other : FieldName} {l l' : Location}
    (h : name.text.toList ++ l.flatMap Segment.source = other.text.toList ++ l'.flatMap Segment.source) :
    name = other ∧ l.flatMap Segment.source = l'.flatMap Segment.source := by
  obtain ⟨hname, hrest⟩ := append_inj_of_cut name.isNameChar_of_mem other.isNameChar_of_mem (head?_flatMap_source l)
    (head?_flatMap_source l') h
  exact ⟨FieldName.ext_toList hname, hrest⟩

/-- The first step below the root is known from what is written, and so is the rest. -/
theorem Segment.source_append_inj {s s' : Segment} {l l' : Location}
    (h : s.source ++ l.flatMap source = s'.source ++ l'.flatMap source) :
    s = s' ∧ l.flatMap source = l'.flatMap source := by
  cases s with
  | field name =>
      cases s' with
      | field other =>
          obtain ⟨rfl, hrest⟩ := name_append_inj (List.cons.inj h).2
          exact ⟨rfl, hrest⟩
      | index _ => cases (List.cons.inj h).1
  | index position =>
      cases s' with
      | field _ => cases (List.cons.inj h).1
      | index other =>
          simp only [source, List.cons_append, List.append_assoc, List.cons.injEq, true_and] at h
          obtain ⟨rfl, hrest⟩ := digits_append_inj h
          exact ⟨rfl, hrest⟩

/-- At the root too, where a name has no point before it: it does not begin with a bracket. -/
theorem Segment.rootSource_append_inj {s s' : Segment} {l l' : Location}
    (h : s.rootSource ++ l.flatMap source = s'.rootSource ++ l'.flatMap source) :
    s = s' ∧ l.flatMap source = l'.flatMap source := by
  have hbegins (name : FieldName) (position : Nat) (rest rest' : List Char) :
      name.text.toList ++ rest ≠ '[' :: rest' := by
    intro h
    obtain ⟨c, cs, hname⟩ := List.exists_cons_of_ne_nil fun hnil => name.nonempty (String.toList_eq_nil_iff.1 hnil)
    rw [hname] at h
    obtain rfl := (List.cons.inj h).1
    exact name.noBracket (hname ▸ List.mem_cons_self)
  cases s with
  | field name =>
      cases s' with
      | field other =>
          obtain ⟨rfl, hrest⟩ := name_append_inj h
          exact ⟨rfl, hrest⟩
      | index position => exact absurd h (hbegins name position _ _)
  | index position =>
      cases s' with
      | field name => exact absurd h.symm (hbegins name position _ _)
      | index other => exact source_append_inj h

theorem flatMap_source_injective {l l' : Location} (h : l.flatMap Segment.source = l'.flatMap Segment.source) :
    l = l' := by
  have hne (s : Segment) (rest : List Char) : s.source ++ rest ≠ [] := by cases s <;> exact List.cons_ne_nil _ _
  induction l generalizing l' with
  | nil =>
      cases l' with
      | nil => rfl
      | cons s l' => exact absurd h.symm (hne s _)
  | cons s l ih =>
      cases l' with
      | nil => exact absurd h (hne s _)
      | cons s' l' =>
          obtain ⟨rfl, hrest⟩ := Segment.source_append_inj h
          rw [ih hrest]

theorem Location.path_injective : Function.Injective Location.path := by
  intro l l' h
  cases l with
  | nil => exact ((isRoot_path_iff l').1 (h ▸ rfl)).symm
  | cons s l =>
      cases l' with
      | nil => exact (isRoot_path_iff _).1 (h ▸ rfl)
      | cons s' l' =>
          have htext := congrArg (fun p => p.text.toList) h
          simp only [text_path_cons] at htext
          obtain ⟨rfl, hrest⟩ := Segment.rootSource_append_inj htext
          rw [flatMap_source_injective hrest]

/-! ### The paths of a report -/

/-- The path is that of a location. -/
def Path.Located (p : Path) : Prop :=
  ∃ l : Location, l.path = p

theorem Path.Located.step {p : Path} (h : p.Located) (s : Segment) : (p.step s).Located := by
  obtain ⟨l, rfl⟩ := h
  refine ⟨l ++ [s], ?_⟩
  rw [Location.path, List.foldl_append]
  rfl

/-- All fields have names that can be told from what stands around them. -/
def PlanSet.Readable (plans : PlanSet) : Prop :=
  ∀ plan ∈ plans.plans, ∀ f ∈ plan.fields, ∃ name : FieldName, name.text = f.name

theorem Nesting.located_of_mem_parts {n : Nesting} {value : Json} {path : Path} {parts : List (Json × Path)}
    (hpath : path.Located) (hparts : n.parts? value path = some parts) : ∀ part ∈ parts, part.2.Located := by
  rw [parts?] at hparts
  by_cases heach : n.each
  · rw [if_pos heach] at hparts
    obtain ⟨items, -, rfl⟩ := Option.map_eq_some_iff.1 hparts
    intro part hpart
    obtain ⟨⟨item, i⟩, -, rfl⟩ := List.mem_map.1 hpart
    exact hpath.step (.index i)
  · rw [if_neg heach] at hparts
    obtain rfl := Option.some.inj hparts
    intro part hpart
    obtain rfl := List.mem_singleton.1 hpart
    exact hpath

namespace Call

variable {c : Call} {plan : Plan} {path : Path}

/-- What holds of the logs below an object carries over to the values that a nested schema is held against. -/
theorem located_of_mem_partsLog {nesting : Nesting} {target : Plan} {value : Json} (hpath : path.Located)
    (hlog : ∀ part, sizeOf part ≤ sizeOf value → ∀ path : Path, path.Located →
      ∀ entry ∈ c.log target part path, Path.Located ⟨entry.1⟩) :
    ∀ entry ∈ c.partsLog nesting target value path, Path.Located ⟨entry.1⟩ := by
  have hnotice (key : String) {path : Path} (hpath : path.Located) :
      ∀ entry ∈ c.notice key path, Path.Located ⟨entry.1⟩ := by
    intro entry hentry
    obtain rfl := List.mem_singleton.1 hentry
    exact hpath
  rw [partsLog]
  cases hparts : nesting.parts? value path with
  | none => exact hnotice _ hpath
  | some parts =>
      intro entry hentry
      obtain ⟨part, hpart, hentry⟩ := List.mem_flatMap.1 hentry
      have hplace := Nesting.located_of_mem_parts hpath hparts part hpart
      split at hentry
      next => exact hlog part.1 (Nesting.sizeOf_part_le hparts hpart) part.2 hplace entry hentry
      next => exact hnotice _ hplace entry hentry

/-- Every message of a walk is at the path of a location. -/
theorem located_of_mem_log (hreadable : c.plans.Readable) (hplan : plan ∈ c.plans.plans) (object : Json)
    (hpath : path.Located) : ∀ entry ∈ c.log plan object path, Path.Located ⟨entry.1⟩ := by
  -- On the size of the object, as for every walk: whatever is entered below it is smaller.
  induction hsize : sizeOf object using Nat.strongRecOn generalizing plan object path with
  | ind size ih =>
      intro entry hentry
      rw [log_eq] at hentry
      obtain ⟨f, hf, hentry⟩ := List.mem_flatMap.1 hentry
      obtain ⟨name, hname⟩ := hreadable plan hplan f hf
      have hfield : (path.field f.name).Located := hname ▸ hpath.step (.field name)
      rcases List.mem_append.1 hentry with hown | hnested
      · obtain ⟨_, -, rfl⟩ := List.mem_map.1 hown
        exact hfield
      · cases hinner : c.inner? f (object.member f.name) object with
        | none => simp [hinner] at hnested
        | some inner =>
            obtain ⟨nesting, target⟩ := inner
            obtain ⟨-, htarget, hthere, -⟩ := inner?_eq_some_iff.1 hinner
            simp only [hinner] at hnested
            refine located_of_mem_partsLog hfield (fun part hle path hpath => ?_) entry hnested
            have hlt : sizeOf (object.member f.name) < sizeOf object := Json.sizeOf_member_lt hthere
            exact ih (sizeOf part) (by omega) (PlanSet.mem_of_get? htarget) part hpath rfl

end Call

/-- The messages of a report that is made of messages at locations. -/
theorem Location.messages_report (raised : List (Location × String)) (l : Location) :
    (Log.report (raised.map fun (l, message) => (l.path.text, message))).messages l.path.text =
      (raised.filter (·.1 = l)).map (·.2) := by
  have hpath (l' : Location) : l'.path.text = l.path.text ↔ l' = l :=
    ⟨fun h => path_injective (congrArg Path.mk h), fun h => h ▸ rfl⟩
  rw [Log.report_messages, Log.messages, List.filter_map, List.map_map]
  simp only [Function.comp_def, hpath]

/-- **Paths are unambiguous.** Locations that are written alike are the same, and only that of the payload itself is
written as the root. So what a report has at the path of a location is what was raised there, and every entry of a
report on a payload is that of one location. -/
theorem Location.paths_unambiguous :
    Function.Injective Location.path ∧ (∀ l : Location, l.path.isRoot = true ↔ l = []) ∧
      (∀ (raised : List (Location × String)) (l : Location),
        (Log.report (raised.map fun (l, message) => (l.path.text, message))).messages l.path.text =
          (raised.filter (·.1 = l)).map (·.2)) ∧
      ∀ (c : Call) (plan : Plan) (object : Json) (depth : Nat) (report : Report), c.plans.Readable →
        plan ∈ c.plans.plans → (c.fields depth plan object .root).result = .ok report →
          ∀ path ∈ report.paths, ∃! l : Location, l.path.text = path := by
  refine ⟨path_injective, isRoot_path_iff, messages_report, ?_⟩
  intro c plan object depth report hreadable hplan hreport path hpath
  rw [Call.report_fields hreport, Log.report_paths, Log.mem_paths] at hpath
  obtain ⟨entry, hentry, rfl⟩ := List.mem_map.1 hpath
  obtain ⟨l, hl⟩ := Call.located_of_mem_log hreadable hplan object ⟨[], rfl⟩ entry hentry
  refine ⟨l, congrArg Path.text hl, fun other hother => path_injective ?_⟩
  rw [hl, ← hother]

/-- The report on a box with a broken lid and a broken element. -/
theorem Location.paths_unambiguous_brokenBox :
    Call.boxCall.plans.Readable ∧ Call.boxPlan ∈ Call.boxCall.plans.plans ∧
      (Call.boxCall.fields 9 Call.boxPlan Call.brokenBox .root).result = .ok Call.brokenBoxReport ∧
      ∀ path ∈ ["lid.label", "boxes[1].label", "boxes[2]"], ∃! l : Location, l.path.text = path := by
  have hreadable : Call.boxCall.plans.Readable := by
    intro plan hplan f hf
    obtain rfl := List.mem_singleton.1 hplan
    have hnames : ∀ f ∈ Call.boxPlan.fields, f.name ≠ "" ∧ '.' ∉ f.name.toList ∧ '[' ∉ f.name.toList := by decide
    obtain ⟨hnonempty, hpoint, hbracket⟩ := hnames f hf
    exact ⟨⟨f.name, hnonempty, hpoint, hbracket⟩, rfl⟩
  have hplan : Call.boxPlan ∈ Call.boxCall.plans.plans := List.mem_singleton_self Call.boxPlan
  have hreport : (Call.boxCall.fields 9 Call.boxPlan Call.brokenBox .root).result = .ok Call.brokenBoxReport := by
    decide +kernel
  exact ⟨hreadable, hplan, hreport, paths_unambiguous.2.2.2 _ _ _ _ _ hreadable hplan hreport⟩

/-- A name with a point in it is written like two steps. -/
example : Path.root.field "a.b" = (Path.root.field "a").field "b" := by decide

end Attest

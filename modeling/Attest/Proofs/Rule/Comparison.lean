import Attest.Proofs.Number.Rounding
import Attest.Rule.Check
import Mathlib.Data.List.Forall2
import Mathlib.Tactic.Tauto

/-!
Which values the rules that compare values take for equal.

Two values are equal by value if they have the same form and each number of the one has the value of its counterpart in
the other. Comparison with `alike` departs from this in two ways. Two numbers are compared after rounding, so that some
with different values are taken for equal; and inside arrays and objects an integer is never taken for equal to a
binary number, whatever its value. Everywhere else `alike` is equality by value.
-/

namespace Attest

namespace Json

variable {r s : Number → Number → Prop} {a b : Json}

/-- The values have the same form, strings and keys, and their numbers are related wherever they have numbers. -/
inductive Corresponds (r : Number → Number → Prop) : Json → Json → Prop
  | null : Corresponds r .null .null
  | bool (value : Bool) : Corresponds r (.bool value) (.bool value)
  | number {m n : Number} (h : r m n) : Corresponds r (.number m) (.number n)
  | string (value : String) : Corresponds r (.string value) (.string value)
  | array {as bs : List Json} (h : List.Forall₂ (Corresponds r) as bs) : Corresponds r (.array as) (.array bs)
  | object {as bs : List (String × Json)} (hkeys : as.map Prod.fst = bs.map Prod.fst)
      (hvalues : List.Forall₂ (Corresponds r) (as.map Prod.snd) (bs.map Prod.snd)) :
      Corresponds r (.object as) (.object bs)

theorem corresponds_null : Corresponds r .null b ↔ .null = b :=
  ⟨fun | .null => rfl, fun h => h ▸ .null⟩

theorem corresponds_bool {value : Bool} : Corresponds r (.bool value) b ↔ .bool value = b :=
  ⟨fun | .bool _ => rfl, fun h => h ▸ .bool value⟩

theorem corresponds_string {value : String} : Corresponds r (.string value) b ↔ .string value = b :=
  ⟨fun | .string _ => rfl, fun h => h ▸ .string value⟩

theorem corresponds_number {m : Number} : Corresponds r (.number m) b ↔ ∃ n, b = .number n ∧ r m n :=
  ⟨fun | .number h => ⟨_, rfl, h⟩, fun ⟨_, hb, h⟩ => hb ▸ .number h⟩

theorem corresponds_array {as : List Json} :
    Corresponds r (.array as) b ↔ ∃ bs, b = .array bs ∧ List.Forall₂ (Corresponds r) as bs :=
  ⟨fun | .array h => ⟨_, rfl, h⟩, fun ⟨_, hb, h⟩ => hb ▸ .array h⟩

theorem corresponds_object {as : List (String × Json)} :
    Corresponds r (.object as) b ↔ ∃ bs, b = .object bs ∧ as.map Prod.fst = bs.map Prod.fst ∧
      List.Forall₂ (Corresponds r) (as.map Prod.snd) (bs.map Prod.snd) :=
  ⟨fun | .object hkeys hvalues => ⟨_, rfl, hkeys, hvalues⟩, fun ⟨_, hb, hkeys, hvalues⟩ => hb ▸ .object hkeys hvalues⟩

/-- Equality by value: whatever their kinds, counterparts among the numbers have the same value. -/
def EqualByValue : Json → Json → Prop :=
  Corresponds fun m n => m.value = n.value

/-- Counterparts among the numbers are of the same kind. -/
def SameKinds : Json → Json → Prop :=
  Corresponds Number.SameKind

mutual

/-- The strict comparison finds out what relates the numbers that it takes for the same. -/
theorem same_iff_corresponds (h : ∀ m n : Number, m.same n = true ↔ r m n ∧ s m n) :
    ∀ a b : Json, a.same b = true ↔ a.Corresponds r b ∧ a.Corresponds s b
  | .null, b => by cases b <;> simp [same, corresponds_null]
  | .bool x, b => by cases b <;> simp [same, corresponds_bool]
  | .number m, b => by cases b <;> simp [same, corresponds_number, h]
  | .string t, b => by cases b <;> simp [same, corresponds_string]
  | .array as, b => by
      cases b with
      | array bs => simp [same, corresponds_array, sameItems_iff_corresponds h as bs]
      | _ => simp [same, corresponds_array]
  | .object as, b => by
      cases b with
      | object bs =>
          simp only [same, corresponds_object, sameMembers_iff_corresponds h as bs, object.injEq, exists_eq_left']
          tauto
      | _ => simp [same, corresponds_object]
termination_by structural a => a

theorem sameItems_iff_corresponds (h : ∀ m n : Number, m.same n = true ↔ r m n ∧ s m n) :
    ∀ as bs : List Json,
      sameItems as bs = true ↔ List.Forall₂ (Corresponds r) as bs ∧ List.Forall₂ (Corresponds s) as bs
  | [], bs => by cases bs <;> simp [sameItems]
  | a :: as, [] => by simp [sameItems]
  | a :: as, b :: bs => by
      simp only [sameItems, Bool.and_eq_true, same_iff_corresponds h a b, sameItems_iff_corresponds h as bs,
        List.forall₂_cons]
      tauto
termination_by structural as => as

theorem sameMembers_iff_corresponds (h : ∀ m n : Number, m.same n = true ↔ r m n ∧ s m n) :
    ∀ as bs : List (String × Json),
      sameMembers as bs = true ↔ as.map Prod.fst = bs.map Prod.fst ∧
        List.Forall₂ (Corresponds r) (as.map Prod.snd) (bs.map Prod.snd) ∧
        List.Forall₂ (Corresponds s) (as.map Prod.snd) (bs.map Prod.snd)
  | [], bs => by cases bs <;> simp [sameMembers]
  | a :: as, [] => by simp [sameMembers]
  | a :: as, b :: bs => by
      simp only [sameMembers, Bool.and_eq_true, sameMember_iff_corresponds h a b,
        sameMembers_iff_corresponds h as bs, List.map_cons, List.cons.injEq, List.forall₂_cons]
      tauto
termination_by structural as => as

theorem sameMember_iff_corresponds (h : ∀ m n : Number, m.same n = true ↔ r m n ∧ s m n) :
    ∀ a b : String × Json, sameMember a b = true ↔ a.1 = b.1 ∧ a.2.Corresponds r b.2 ∧ a.2.Corresponds s b.2
  | (k, a), (l, b) => by simp only [sameMember, Bool.and_eq_true, beq_iff_eq, same_iff_corresponds h a b]
termination_by structural a => a

end

/-- The strict comparison asks for the same values and the same kinds. -/
theorem same_iff (a b : Json) : a.same b = true ↔ a.EqualByValue b ∧ a.SameKinds b :=
  same_iff_corresponds Number.same_iff a b

/-- Only a pair of numbers is compared after rounding. -/
theorem alike_eq_same (h : a.number? = none ∨ b.number? = none) : a.alike b = a.same b := by
  cases a with
  | number m =>
      cases b with
      | number n => simp [number?] at h
      | _ => rfl
  | _ => cases b <;> rfl

/-- Values that comparison takes for equal or different against their values: numbers of different values that are
rounded to the same one, and lists or objects that differ in nothing but the kinds of numbers within them. -/
inductive Misjudged : Json → Json → Prop
  | rounded {m n : Number} (hvalue : m.value ≠ n.value) (hround : m.toDouble.equal n.toDouble = true) :
      Misjudged (.number m) (.number n)
  | kinds {a b : Json} (hnumber : a.number? = none) (hvalue : a.EqualByValue b) (hkinds : ¬ a.SameKinds b) :
      Misjudged a b

/-- Where rounding changes neither of two numbers, their comparison is right. -/
theorem not_misjudged_of_exact {m n : Number} (hm : m.Exact) (hn : n.Exact) :
    ¬ (Json.number m).Misjudged (.number n)
  | .rounded hvalue hround => hvalue ((Number.alike_iff_of_exact hm hn).1 hround)
  | .kinds hnumber _ _ => nomatch hnumber

theorem misjudged_number {m n : Number} :
    (Json.number m).Misjudged (.number n) ↔ m.value ≠ n.value ∧ m.alike n = true :=
  ⟨fun | .rounded hvalue hround => ⟨hvalue, hround⟩, fun ⟨hvalue, hround⟩ => .rounded hvalue hround⟩

theorem misjudged_iff (h : a.number? = none ∨ b.number? = none) :
    a.Misjudged b ↔ a.EqualByValue b ∧ ¬ a.SameKinds b := by
  constructor
  · rintro (⟨-, -⟩ | ⟨-, hvalue, hkinds⟩)
    · simp [number?] at h
    · exact ⟨hvalue, hkinds⟩
  · rintro ⟨hvalue, hkinds⟩
    refine .kinds ?_ hvalue hkinds
    cases a with
    | number m =>
        obtain ⟨n, rfl, -⟩ := corresponds_number.1 hvalue
        simp [number?] at h
    | _ => rfl

/-- The pairs that comparison misjudges are all that part it from equality by value. -/
theorem equalByValue_iff_alike_iff : (a.alike b = true ↔ a.EqualByValue b) ↔ ¬ a.Misjudged b := by
  by_cases h : a.number? = none ∨ b.number? = none
  · rw [alike_eq_same h, same_iff, misjudged_iff h]
    tauto
  · obtain ⟨⟨m, rfl⟩, ⟨n, rfl⟩⟩ : (∃ m, a = .number m) ∧ ∃ n, b = .number n := by
      cases a <;> cases b <;> simp [number?] at h ⊢
    have hvalue : (Json.number m).EqualByValue (.number n) ↔ m.value = n.value := by
      simp [EqualByValue, corresponds_number]
    have hround : m.value = n.value → m.alike n = true := Number.alike_of_value_eq
    rw [hvalue, misjudged_number, alike]
    tauto

theorem alike_iff_of_not_misjudged (h : ¬ a.Misjudged b) : a.alike b = true ↔ a.EqualByValue b :=
  equalByValue_iff_alike_iff.2 h

end Json

namespace Rule

/-- **What the rules that compare values take for equal.** Comparison is by value for exactly those pairs that it does
not misjudge. So the rules distinguish numbers that differ and identify those that do not, of either kind and at any
depth, wherever they compare no pair that is misjudged. -/
theorem compares_by_value_unless_misjudged (now : Timestamp) (value parent : Json) :
    (∀ a b : Json, (a.alike b = true ↔ a.EqualByValue b) ↔ ¬ a.Misjudged b) ∧
    (∀ field : String, ¬ value.Misjudged (parent.member field) →
      ((equalsField field).accepts now value parent = true ↔ value.EqualByValue (parent.member field)) ∧
      ((notEqualsField field).accepts now value parent = true ↔ ¬ value.EqualByValue (parent.member field))) ∧
    (∀ choices : List Json, (∀ choice ∈ choices, ¬ value.Misjudged choice) →
      ((oneOf choices).accepts now value parent = true ↔ ∃ choice ∈ choices, value.EqualByValue choice)) ∧
    ∀ (field : String) (other : Json), ¬ (parent.member field).Misjudged other →
      ((requiredIf field other).accepts now value parent = true ↔
        ((parent.member field).EqualByValue other → value.isNull = false)) ∧
      ((requiredUnless field other).accepts now value parent = true ↔
        (¬ (parent.member field).EqualByValue other → value.isNull = false)) := by
  refine ⟨fun a b => Json.equalByValue_iff_alike_iff, fun field h => ?_, fun choices h => ?_, fun field other h => ?_⟩
  · have halike := Json.alike_iff_of_not_misjudged h
    simp [accepts, Json.equalsField, ← halike]
  · simp only [accepts, List.any_eq_true]
    exact exists_congr fun choice => and_congr_right fun hmem => Json.alike_iff_of_not_misjudged (h choice hmem)
  · have halike := Json.alike_iff_of_not_misjudged h
    simp only [accepts, ← halike]
    cases (parent.member field).alike other <;> simp

/-- Six as a binary number. -/
def binarySix : Number :=
  .real ⟨false, 3 * Nat.pow 2 51, 1024, by decide, by decide, .inl (by decide)⟩

/-- A form with a count. -/
def countForm : Json :=
  .object [("count", .number (.int 6))]

theorem binarySix_value : (Number.int 6).value = binarySix.value :=
  Binary64.intCast_eq_value_iff.2 (by decide +kernel)

theorem compares_by_value_unless_misjudged_count :
    (equalsField "count").accepts ⟨0, 0⟩ (.number binarySix) countForm = true ∧
    (oneOf [.string "six", .number (.int 6)]).accepts ⟨0, 0⟩ (.number binarySix) countForm = true ∧
    (requiredIf "count" (.number binarySix)).accepts ⟨0, 0⟩ .null countForm = false := by
  have hsix : (Number.int 6).Exact := Number.exact_int_of_le (by decide)
  have hbinary : binarySix.Exact := Number.exact_real _
  have hchoices : ∀ choice ∈ [Json.string "six", .number (.int 6)], ¬ (Json.number binarySix).Misjudged choice :=
    List.forall_mem_cons.2 ⟨nofun, List.forall_mem_singleton.2 (Json.not_misjudged_of_exact hbinary hsix)⟩
  obtain ⟨-, hfield, hone, -⟩ := compares_by_value_unless_misjudged ⟨0, 0⟩ (.number binarySix) countForm
  obtain ⟨-, -, -, hrequired⟩ := compares_by_value_unless_misjudged ⟨0, 0⟩ .null countForm
  refine ⟨?_, ?_, Bool.eq_false_iff.2 fun h => ?_⟩
  · exact (hfield "count" (Json.not_misjudged_of_exact hbinary hsix)).1.2 (.number binarySix_value.symm)
  · exact (hone _ hchoices).2 ⟨_, .tail _ (.head _), .number binarySix_value.symm⟩
  · have hnull := (hrequired "count" _ (Json.not_misjudged_of_exact hsix hbinary)).1.1 h (.number binarySix_value)
    exact nomatch hnull

/-- Lists of one number, equal by value, that comparison distinguishes, and integers just past `2 ^ 53` that it does not
distinguish. -/
theorem alike_departs_from_value :
    ((Json.array [.number (.int 6)]).EqualByValue (.array [.number binarySix]) ∧
      (Json.array [.number (.int 6)]).alike (.array [.number binarySix]) = false) ∧
    (¬ (Json.number (.int 9007199254740993)).EqualByValue (.number (.int 9007199254740992)) ∧
      (Json.number (.int 9007199254740993)).alike (.number (.int 9007199254740992)) = true) := by
  refine ⟨⟨.array (.cons (.number binarySix_value) .nil), by decide +kernel⟩, fun h => ?_, by decide +kernel⟩
  obtain ⟨n, hn, hvalue⟩ := Json.corresponds_number.1 h
  obtain rfl : Number.int 9007199254740992 = n := Json.number.inj hn
  have hcast : ((9007199254740993 : Int) : ℚ) = (9007199254740992 : Int) := hvalue
  exact absurd (Int.cast_inj.1 hcast) (by decide)

end Rule

end Attest

import Attest.Proofs.Json.Injectivity
import Attest.Rule.Check
import Mathlib.Data.List.Sort

/-!
Which arrays have unique items.

Items are compared by their texts. Since no two values have the same text, and the members of an object are in the order
of their keys however they were written, two items have the same text if they are the same value, and only then.
-/

namespace Attest

namespace Json

/-- The same value: of the same kind, with the same parts throughout. The entries of objects are compared without their
order. -/
inductive SameValue : Json → Json → Prop
  | null : SameValue .null .null
  | bool (b : Bool) : SameValue (.bool b) (.bool b)
  | number (n : Number) : SameValue (.number n) (.number n)
  | string (s : String) : SameValue (.string s) (.string s)
  | array {as bs : List Json} (hlength : as.length = bs.length)
      (hitems : ∀ {i : Nat} {a b : Json}, as[i]? = some a → bs[i]? = some b → SameValue a b) :
      SameValue (.array as) (.array bs)
  | object {as bs : List (String × Json)} (hkeys : ∀ key, (∃ a, (key, a) ∈ as) ↔ ∃ b, (key, b) ∈ bs)
      (hvalues : ∀ {key a b}, (key, a) ∈ as → (key, b) ∈ bs → SameValue a b) :
      SameValue (.object as) (.object bs)

/-- An object whose members are in order has no key twice. -/
theorem eq_of_mem_of_sorted {members : List (String × Json)} (h : members.Pairwise fun m n => m.1 < n.1) {key : String}
    {a b : Json} (ha : (key, a) ∈ members) (hb : (key, b) ∈ members) : a = b := by
  have hnodup : (members.map Prod.fst).Nodup :=
    List.pairwise_map.2 (h.imp fun {m n} hlt (heq : m.1 = n.1) => String.lt_irrefl n.1 (heq ▸ hlt))
  exact (Prod.mk.inj (List.inj_on_of_nodup_map hnodup ha hb rfl)).2

theorem Proper.sameValue_refl {v : Json} (h : v.Proper) : v.SameValue v := by
  induction h with
  | null => exact .null
  | bool b => exact .bool b
  | number _ => exact .number _
  | string s => exact .string s
  | array _ ih =>
      refine .array rfl fun ha hb => ?_
      obtain rfl := Option.some.inj (ha.symm.trans hb)
      exact ih _ (List.mem_of_getElem? ha)
  | object hsorted _ ih =>
      refine .object (fun _ => Iff.rfl) fun ha hb => ?_
      obtain rfl := eq_of_mem_of_sorted hsorted ha hb
      exact ih _ ha

/-- Members in order make up the same list if they are the same. -/
theorem eq_of_mem_iff_of_sorted {as bs : List (String × Json)} (has : as.Pairwise fun m n => m.1 < n.1)
    (hbs : bs.Pairwise fun m n => m.1 < n.1) (h : ∀ m, m ∈ as ↔ m ∈ bs) : as = bs := by
  have : Std.Irrefl fun m n : String × Json => m.1 < n.1 := ⟨fun m => String.lt_irrefl m.1⟩
  have : Std.Antisymm fun m n : String × Json => m.1 < n.1 := ⟨fun _ _ h h' => absurd h' (String.lt_asymm h)⟩
  exact has.eq_of_mem_iff hbs h

theorem Proper.eq_of_sameValue {v w : Json} (hv : v.Proper) (hw : w.Proper) (h : v.SameValue w) : v = w := by
  induction hv generalizing w with
  | null | bool _ | number _ | string _ => cases h; rfl
  | @array items _ ih =>
      cases h with
      | @array _ items' hlength hitems =>
          cases hw with
          | array hw =>
              refine congrArg Json.array (List.ext_getElem hlength fun i hi hi' => ?_)
              exact ih _ (List.getElem_mem hi) (hw _ (List.getElem_mem hi'))
                (hitems (List.getElem?_eq_getElem hi) (List.getElem?_eq_getElem hi'))
  | @object members hsorted _ ih =>
      cases h with
      | @object _ members' hkeys hvalues =>
          cases hw with
          | object hsorted' hw =>
              refine congrArg Json.object (eq_of_mem_iff_of_sorted hsorted hsorted' fun m => ?_)
              obtain ⟨key, a⟩ := m
              constructor
              · intro ha
                obtain ⟨b, hb⟩ := (hkeys key).1 ⟨a, ha⟩
                rwa [show a = b from ih _ ha (hw _ hb) (hvalues ha hb)]
              · intro hb
                obtain ⟨b, ha⟩ := (hkeys key).2 ⟨a, hb⟩
                rwa [← show b = a from ih _ ha (hw _ hb) (hvalues ha hb)]

theorem Proper.sameValue_iff {v w : Json} (hv : v.Proper) (hw : w.Proper) : v.SameValue w ↔ v = w :=
  ⟨hv.eq_of_sameValue hw, fun h => h ▸ hv.sameValue_refl⟩

/-- **Unique items.** A value has unique items if it is an array no two items of which are the same value, and only
then. -/
theorem hasUniqueItems_iff_sameValue {v : Json} (h : v.Proper) : v.hasUniqueItems = true ↔
    ∃ items, v = .array items ∧ items.Pairwise fun a b => ¬a.SameValue b := by
  cases h with
  | @array items hitems =>
      have hpairwise : (items.map text).Nodup ↔ items.Pairwise fun a b => ¬a.SameValue b := by
        rw [List.Nodup, List.pairwise_map]
        refine List.Pairwise.iff_of_mem fun {a b} ha hb => ?_
        rw [Ne, text_injective.eq_iff, (hitems a ha).sameValue_iff (hitems b hb)]
      simp [hasUniqueItems, hpairwise]
  | _ => simp [hasUniqueItems]

/-- Zero as an integer, as both binary zeros and as a string. -/
theorem hasUniqueItems_zeros :
    let items := [Json.number (.int 0), .number (.real (.zero false)), .number (.real (.zero true)), .string "0"]
    (Json.array items).Proper ∧ (Json.array items).hasUniqueItems = true := by
  intro items
  have hproper : (Json.array items).Proper := by
    refine .array fun v hv => ?_
    simp only [items, List.mem_cons, List.not_mem_nil, or_false] at hv
    rcases hv with rfl | rfl | rfl | rfl
    · exact .number ⟨by decide, by decide⟩
    · exact .number trivial
    · exact .number trivial
    · exact .string _
  have hnumber (m n : Number) (hne : m ≠ n) : ¬(Json.number m).SameValue (.number n) := by
    rintro ⟨⟩
    exact hne rfl
  have hstring (n : Number) (s : String) : ¬(Json.number n).SameValue (.string s) := by rintro ⟨⟩
  refine ⟨hproper, (hasUniqueItems_iff_sameValue hproper).2 ⟨items, rfl, ?_⟩⟩
  simp only [items, List.pairwise_cons, List.forall_mem_cons]
  exact ⟨⟨hnumber _ _ (by decide), hnumber _ _ (by decide), hstring _ _, by simp⟩,
    ⟨hnumber _ _ (by decide), hstring _ _, by simp⟩, ⟨hstring _ _, by simp⟩, by simp, .nil⟩

end Json

end Attest

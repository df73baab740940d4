import Attest.Text.Split
import Mathlib.Data.List.Forall2
import Mathlib.Data.List.Nodup
import Mathlib.Data.List.TakeDrop
import Mathlib.Data.List.TakeWhile

/-!
Lists that are cut where a property ends, lists of entries that are looked up, and lists that are related to each other
member by member.
-/

namespace Attest

variable {α β : Type}

/-! ### Where a property ends -/

section Cut

variable {p : α → Bool} {xs before after : List α}

theorem head?_dropWhile (p : α → Bool) (xs : List α) : ∀ x ∈ (xs.dropWhile p).head?, p x = false := by
  intro x hx
  have hstops := List.head?_dropWhile_not p xs
  rwa [Option.mem_def.1 hx] at hstops

theorem dropWhile_of_head (h : ∀ x ∈ xs.head?, p x = false) : xs.dropWhile p = xs := by
  cases xs with
  | nil => rfl
  | cons x xs => rw [List.dropWhile_cons, h x rfl, if_neg Bool.false_ne_true]

theorem dropWhile_append_of_cut (hbefore : ∀ x ∈ before, p x = true) (hafter : ∀ x ∈ after.head?, p x = false) :
    (before ++ after).dropWhile p = after := by
  rw [List.dropWhile_append_of_pos hbefore, dropWhile_of_head hafter]

theorem span_eq_iff : xs.span p = (before, after) ↔
    xs = before ++ after ∧ (∀ x ∈ before, p x = true) ∧ ∀ x ∈ after.head?, p x = false := by
  rw [List.span_eq_takeWhile_dropWhile, Prod.mk.injEq]
  constructor
  · rintro ⟨rfl, rfl⟩
    exact ⟨List.takeWhile_append_dropWhile.symm, fun x hx => List.mem_takeWhile_imp hx, head?_dropWhile p xs⟩
  · rintro ⟨rfl, hbefore, hafter⟩
    have hdrop := dropWhile_append_of_cut hbefore hafter
    have hboth : (before ++ after).takeWhile p ++ (before ++ after).dropWhile p = before ++ after :=
      List.takeWhile_append_dropWhile
    rw [hdrop] at hboth
    exact ⟨List.append_cancel_right hboth, hdrop⟩

/-- A list is cut into a part that has the property and what begins without it in one way only. -/
theorem append_inj_of_cut {before' after' : List α} (hbefore : ∀ x ∈ before, p x = true)
    (hbefore' : ∀ x ∈ before', p x = true) (hafter : ∀ x ∈ after.head?, p x = false)
    (hafter' : ∀ x ∈ after'.head?, p x = false) (h : before ++ after = before' ++ after') :
    before = before' ∧ after = after' := by
  have hspan := span_eq_iff.2 ⟨rfl, hbefore, hafter⟩
  have hspan' := span_eq_iff.2 ⟨h, hbefore', hafter'⟩
  exact Prod.mk.inj (hspan.symm.trans hspan')

/-! The cut may also be at a member that is left out. -/

theorem splitAtFirst_append (hbefore : ∀ x ∈ before, p x = false) {x : α} (hx : p x = true) (after : List α) :
    splitAtFirst p (before ++ x :: after) = some (before, after) := by
  induction before with
  | nil => rw [List.nil_append, splitAtFirst, if_pos hx]
  | cons y before ih =>
      obtain ⟨hy, hbefore⟩ := List.forall_mem_cons.1 hbefore
      rw [List.cons_append, splitAtFirst, hy, if_neg Bool.false_ne_true, ih hbefore]
      rfl

theorem splitAtFirst_eq_none (h : ∀ x ∈ xs, p x = false) : splitAtFirst p xs = none := by
  induction xs with
  | nil => rfl
  | cons x xs ih =>
      obtain ⟨hx, hxs⟩ := List.forall_mem_cons.1 h
      rw [splitAtFirst, hx, if_neg Bool.false_ne_true, ih hxs]
      rfl

theorem exists_append_of_splitAtFirst (h : splitAtFirst p xs = some (before, after)) :
    ∃ x, p x = true ∧ xs = before ++ x :: after := by
  induction xs generalizing before with
  | nil => cases h
  | cons x xs ih =>
      rw [splitAtFirst] at h
      split at h
      next hx =>
        obtain ⟨rfl, rfl⟩ := Prod.mk.inj (Option.some.inj h)
        exact ⟨x, hx, rfl⟩
      next =>
        obtain ⟨⟨front, back⟩, hxs, hpair⟩ := Option.map_eq_some_iff.1 h
        obtain ⟨rfl, rfl⟩ := Prod.mk.inj hpair
        obtain ⟨y, hy, rfl⟩ := ih hxs
        exact ⟨y, hy, rfl⟩

end Cut

/-! ### Entries -/

/-- Where no key occurs twice, an entry is found exactly if it is there. -/
theorem lookup_eq_some_iff_mem {es : List (String × β)} (h : (es.map (·.1)).Nodup) {key : String} {value : β} :
    es.lookup key = some value ↔ (key, value) ∈ es := by
  constructor
  · intro hlookup
    obtain ⟨before, after, rfl, -⟩ := List.lookup_eq_some_iff.1 hlookup
    simp
  · intro hmem
    obtain ⟨before, after, rfl⟩ := List.append_of_mem hmem
    refine List.lookup_eq_some_iff.2 ⟨before, after, rfl, fun e he => bne_iff_ne.2 fun heq => ?_⟩
    rw [List.map_append, List.map_cons] at h
    obtain ⟨-, -, hdisjoint⟩ := List.nodup_append.1 h
    exact hdisjoint _ (List.mem_map_of_mem he) _ List.mem_cons_self heq.symm

/-! ### Related lists -/

theorem exists_left_of_forall₂ {r : α → β → Prop} {as : List α} {bs : List β} {b : β}
    (h : List.Forall₂ r as bs) (hb : b ∈ bs) : ∃ a ∈ as, r a b := by
  obtain ⟨n, hlt, rfl⟩ := List.getElem_of_mem hb
  exact ⟨as.get ⟨n, h.length_eq ▸ hlt⟩, List.getElem_mem _, h.get _ _⟩

end Attest

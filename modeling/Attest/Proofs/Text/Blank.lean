import Attest.Proofs.Lists
import Attest.Text.Blank
import Mathlib.Data.List.DropRight

/-!
Blanks, and texts without the blanks around them. No visible character of ASCII is a blank. To trim a text takes off the
blanks at its two ends, so that it begins and ends with something else, and takes off nothing but these.
-/

namespace Attest

theorem isBlank_of_visible {c : Char} (hvisible : 32 < c.toNat) (hascii : c.toNat < 128) : isBlank c = false := by
  simp only [isBlank, blankRanges, List.any_cons, List.any_nil, Bool.or_false, Bool.or_eq_false_iff,
    Bool.and_eq_false_imp, decide_eq_true_eq, decide_eq_false_iff_not, not_le]
  omega

/-! ### Trimming -/

/-- A text without the blanks around it. -/
structure Trimmed (cs core : List Char) : Prop where
  exists_blanks : ∃ before after, cs = before ++ (core ++ after) ∧ (∀ c ∈ before, isBlank c = true) ∧
    ∀ c ∈ after, isBlank c = true
  head : ∀ c ∈ core.head?, isBlank c = false
  last : ∀ c ∈ core.getLast?, isBlank c = false

theorem trimmed_trimBlanks (cs : List Char) : Trimmed cs (trimBlanks cs) where
  exists_blanks := by
    let front := cs.dropWhile isBlank
    have hback : front = trimBlanks cs ++ (front.reverse.takeWhile isBlank).reverse := by
      rw [trimBlanks, ← List.reverse_append, List.takeWhile_append_dropWhile, List.reverse_reverse]
    refine ⟨cs.takeWhile isBlank, (front.reverse.takeWhile isBlank).reverse, ?_, ?_, ?_⟩
    · rw [← hback, List.takeWhile_append_dropWhile]
    · exact fun c hc => List.mem_takeWhile_imp hc
    · exact fun c hc => List.mem_takeWhile_imp (List.mem_reverse.1 hc)
  head := by
    intro c hc
    obtain ⟨rest, hfront⟩ : trimBlanks cs <+: cs.dropWhile isBlank := List.rdropWhile_prefix isBlank _
    have hhead : c ∈ (cs.dropWhile isBlank).head? := by
      rw [← hfront, List.head?_append, Option.mem_def.1 hc]
      rfl
    exact head?_dropWhile isBlank cs c hhead
  last := by
    intro c hc
    rw [trimBlanks, List.getLast?_reverse] at hc
    exact head?_dropWhile isBlank _ c hc

theorem Trimmed.eq_trimBlanks {cs core : List Char} (h : Trimmed cs core) : core = trimBlanks cs := by
  obtain ⟨⟨before, after, rfl, hbefore, hafter⟩, hhead, hlast⟩ := h
  have hback : (core ++ after).reverse.dropWhile isBlank = core.reverse := by
    rw [List.reverse_append]
    exact dropWhile_append_of_cut (by simpa using hafter) (by simpa using hlast)
  rw [trimBlanks, List.dropWhile_append_of_pos hbefore]
  cases core with
  | nil =>
      have hnil : after.dropWhile isBlank = [] := List.dropWhile_eq_nil_iff.2 hafter
      rw [List.nil_append, hnil]
      rfl
  | cons c core =>
      have hfront : (c :: core ++ after).dropWhile isBlank = c :: core ++ after := dropWhile_of_head hhead
      rw [hfront, hback, List.reverse_reverse]

theorem trimmed_self {cs : List Char} (hhead : ∀ c ∈ cs.head?, isBlank c = false)
    (hlast : ∀ c ∈ cs.getLast?, isBlank c = false) : Trimmed cs cs where
  exists_blanks := ⟨[], [], by simp, by simp, by simp⟩
  head := hhead
  last := hlast

theorem trimmed_iff {cs core : List Char} : Trimmed cs core ↔ trimBlanks cs = core :=
  ⟨fun h => h.eq_trimBlanks.symm, fun h => h ▸ trimmed_trimBlanks cs⟩

end Attest

import Attest.Format.Email
import Attest.Proofs.Lists
import Attest.Proofs.Text.Blank
import Mathlib.Data.List.Induction
import Mathlib.Data.String.Basic
import Mathlib.Tactic.Tauto

/-!
Addresses for mail as a grammar: which parts there are, which characters they are made of and how long they may be.

A text is cut at the first sign and at every point. Put together with the separators, the pieces are the text again; and
parts that are made of the characters of the grammar contain no separator, so that they are the pieces of the text that
they make up. All these characters are of ASCII, and so it makes no difference whether lengths are counted in characters
or in bytes.
-/

namespace Attest

theorem splitAtEach_eq_splitOn {α : Type} [DecidableEq α] (sep : α) (as : List α) : splitAtEach sep as = as.splitOn sep := by
  induction as with
  | nil => rfl
  | cons a rest ih =>
      rw [splitAtEach, List.splitOn_cons_eq_if_modifyHead, ih]
      by_cases h : a = sep
      · rw [if_pos h, if_pos (beq_iff_eq.2 h)]
      · rw [if_neg h, if_neg (mt beq_iff_eq.1 h)]
        cases hpieces : List.splitOn sep rest with
        | nil => exact (List.splitOn_ne_nil _ _ hpieces).elim
        | cons piece pieces => rfl

namespace Email

/-! ### The grammar -/

/-- A letter or a digit of ASCII. -/
def LetterOrDigit (c : Char) : Prop :=
  'a' ≤ c ∧ c ≤ 'z' ∨ 'A' ≤ c ∧ c ≤ 'Z' ∨ '0' ≤ c ∧ c ≤ '9'

/-- A run of characters between two points before the sign. -/
structure Atom (cs : List Char) : Prop where
  ne_nil : cs ≠ []
  chars : ∀ c ∈ cs, LetterOrDigit c ∨ c ∈ "!#$%&'*+/=?^_\x60\x7b|\x7d~-".toList

/-- What stands before the sign. -/
structure LocalPart (cs : List Char) : Prop where
  length_pos : 1 ≤ cs.length
  length_le : cs.length ≤ 64
  atoms : ∃ atoms, atoms ≠ [] ∧ (∀ atom ∈ atoms, Atom atom) ∧ cs = ['.'].intercalate atoms

/-- A run of characters between two points after the sign. -/
structure Label (cs : List Char) : Prop where
  length_pos : 1 ≤ cs.length
  length_le : cs.length ≤ 63
  chars : ∀ c ∈ cs, LetterOrDigit c ∨ c = '-'
  first : cs.head? ≠ some '-'
  last : cs.getLast? ≠ some '-'

/-- What stands after the sign: two labels or more, the last of which is no number. -/
structure Domain (cs : List Char) : Prop where
  length_le : cs.length ≤ 253
  labels : ∃ labels top, labels ≠ [] ∧ (∀ label ∈ labels ++ [top], Label label) ∧
    (∃ c ∈ top, ¬('0' ≤ c ∧ c ≤ '9')) ∧ cs = ['.'].intercalate (labels ++ [top])

/-! ### Characters -/

theorem isDigit_iff {c : Char} : c.isDigit = true ↔ '0' ≤ c ∧ c ≤ '9' := by
  simp [Char.isDigit, Char.le_def]

theorem letterOrDigit_iff {c : Char} : c.isAlphanum = true ↔ LetterOrDigit c := by
  have hranges : c.isAlphanum = (decide ('A' ≤ c ∧ c ≤ 'Z') || ('a' ≤ c && c ≤ 'z') || ('0' ≤ c && c ≤ '9')) := rfl
  simp only [hranges, LetterOrDigit, Bool.or_eq_true, Bool.and_eq_true, decide_eq_true_eq]
  tauto

theorem isAtomChar_iff {c : Char} :
    isAtomChar c = true ↔ LetterOrDigit c ∨ c ∈ "!#$%&'*+/=?^_\x60\x7b|\x7d~-".toList := by
  have hsigns : atomSigns = "!#$%&'*+/=?^_\x60\x7b|\x7d~-".toList := rfl
  rw [isAtomChar, Bool.or_eq_true, letterOrDigit_iff, List.contains_iff_mem, hsigns]

theorem isLabelChar_iff {c : Char} : isLabelChar c = true ↔ LetterOrDigit c ∨ c = '-' := by
  rw [isLabelChar, Bool.or_eq_true, letterOrDigit_iff, beq_iff_eq]

/-- A character between the blank and the end of ASCII that separates nothing. -/
structure Ordinary (c : Char) : Prop where
  visible : 32 < c.toNat
  ascii : c.toNat < 128
  ne_point : c ≠ '.'
  ne_sign : c ≠ '@'

theorem ordinary_of_letterOrDigit {c : Char} (h : LetterOrDigit c) : Ordinary c := by
  have hrange : 48 ≤ c.toNat ∧ c.toNat ≤ 122 ∧ c.toNat ≠ 64 := by
    have hbounds : 97 ≤ c.toNat ∧ c.toNat ≤ 122 ∨ 65 ≤ c.toNat ∧ c.toNat ≤ 90 ∨ 48 ≤ c.toNat ∧ c.toNat ≤ 57 := h
    omega
  refine ⟨by omega, by omega, ?_, ?_⟩
  · rintro rfl
    exact absurd hrange (by decide)
  · rintro rfl
    exact absurd hrange (by decide)

theorem ordinary_of_atomChar {c : Char} (h : LetterOrDigit c ∨ c ∈ "!#$%&'*+/=?^_\x60\x7b|\x7d~-".toList) :
    Ordinary c := by
  rcases h with h | h
  · exact ordinary_of_letterOrDigit h
  · have hall : (atomSigns.all fun d => 32 < d.toNat && d.toNat < 128 && d != '.' && d != '@') = true := by decide
    have hc := List.all_eq_true.1 hall c h
    simp only [Bool.and_eq_true, decide_eq_true_eq, bne_iff_ne] at hc
    obtain ⟨⟨⟨hvisible, hascii⟩, hpoint⟩, hsign⟩ := hc
    exact ⟨hvisible, hascii, hpoint, hsign⟩

theorem ordinary_of_labelChar {c : Char} (h : LetterOrDigit c ∨ c = '-') : Ordinary c := by
  rcases h with h | rfl
  · exact ordinary_of_letterOrDigit h
  · exact ⟨by decide, by decide, by decide, by decide⟩

theorem Ordinary.isBlank_eq {c : Char} (h : Ordinary c) : isBlank c = false :=
  isBlank_of_visible h.visible h.ascii

/-! ### Pieces -/

theorem mem_intercalate {sep c : Char} {pieces : List (List Char)} (h : c ∈ [sep].intercalate pieces) :
    c = sep ∨ ∃ piece ∈ pieces, c ∈ piece := by
  induction pieces with
  | nil => simp at h
  | cons piece rest ih =>
      cases rest with
      | nil =>
          rw [List.intercalate_singleton] at h
          exact .inr ⟨piece, List.mem_cons_self, h⟩
      | cons next rest =>
          rw [List.intercalate_cons_cons, List.append_assoc, List.mem_append, List.mem_append,
            List.mem_singleton] at h
          rcases h with h | h | h
          · exact .inr ⟨piece, List.mem_cons_self, h⟩
          · exact .inl h
          · obtain h | ⟨found, hmem, hc⟩ := ih h
            · exact .inl h
            · exact .inr ⟨found, List.mem_cons_of_mem _ hmem, hc⟩

/-- Pieces without a separator in them are found again. -/
theorem splitAtEach_intercalate {pieces : List (List Char)} (hne : pieces ≠ [])
    (h : ∀ piece ∈ pieces, ∀ c ∈ piece, Ordinary c) : splitAtEach '.' (['.'].intercalate pieces) = pieces := by
  rw [splitAtEach_eq_splitOn]
  exact List.splitOn_intercalate '.' (fun piece hpiece hmem => (h piece hpiece '.' hmem).ne_point rfl) hne

theorem intercalate_splitAtEach (cs : List Char) : ['.'].intercalate (splitAtEach '.' cs) = cs := by
  rw [splitAtEach_eq_splitOn, List.intercalate_splitOn]

theorem atom_iff {cs : List Char} : (!cs.isEmpty && cs.all isAtomChar) = true ↔ Atom cs := by
  simp only [Bool.and_eq_true, Bool.not_eq_true', List.isEmpty_eq_false_iff, List.all_eq_true, isAtomChar_iff]
  exact ⟨fun ⟨hne, hchars⟩ => ⟨hne, hchars⟩, fun h => ⟨h.ne_nil, h.chars⟩⟩

/-- In ASCII a character is a byte. -/
theorem byteLength_eq_length {cs : List Char} (h : ∀ c ∈ cs, c.toNat < 128) : byteLength cs = cs.length := by
  rw [byteLength, String.utf8ByteSize_ofList]
  induction cs with
  | nil => rfl
  | cons c cs ih =>
      obtain ⟨hc, hcs⟩ := List.forall_mem_cons.1 h
      have hone : c.utf8Size = 1 := Char.utf8Size_eq_one_iff.2 (Nat.le_of_lt_succ hc)
      rw [String.utf8Len_cons, ih hcs, hone, List.length_cons]

theorem byteLength_intercalate {pieces : List (List Char)} (h : ∀ piece ∈ pieces, ∀ c ∈ piece, Ordinary c) :
    byteLength (['.'].intercalate pieces) = (['.'].intercalate pieces).length := by
  refine byteLength_eq_length fun c hc => ?_
  obtain rfl | ⟨piece, hpiece, hmem⟩ := mem_intercalate hc
  · decide
  · exact (h piece hpiece c hmem).ascii

theorem isLabel_iff {cs : List Char} : isLabel cs = true ↔ Label cs := by
  simp only [isLabel, Bool.and_eq_true, Bool.not_eq_true', List.isEmpty_eq_false_iff, decide_eq_true_eq,
    bne_iff_ne, List.all_eq_true, isLabelChar_iff]
  constructor
  · rintro ⟨⟨⟨⟨hne, hle⟩, hfirst⟩, hlast⟩, hchars⟩
    rw [byteLength_eq_length fun c hc => (ordinary_of_labelChar (hchars c hc)).ascii] at hle
    exact ⟨List.length_pos_iff.2 hne, hle, hchars, hfirst, hlast⟩
  · intro h
    have hle := h.length_le
    rw [← byteLength_eq_length fun c hc => (ordinary_of_labelChar (h.chars c hc)).ascii] at hle
    exact ⟨⟨⟨⟨List.length_pos_iff.1 h.length_pos, hle⟩, h.first⟩, h.last⟩, h.chars⟩

theorem Atom.ordinary {cs : List Char} (h : Atom cs) : ∀ c ∈ cs, Ordinary c :=
  fun c hc => ordinary_of_atomChar (h.chars c hc)

theorem Label.ordinary {cs : List Char} (h : Label cs) : ∀ c ∈ cs, Ordinary c :=
  fun c hc => ordinary_of_labelChar (h.chars c hc)

/-! ### The two parts -/

theorem isLocalPart_iff {cs : List Char} : isLocalPart cs = true ↔ LocalPart cs := by
  have hatoms (pieces : List (List Char)) : (pieces.all fun atom => !atom.isEmpty && atom.all isAtomChar) = true ↔
      ∀ atom ∈ pieces, Atom atom := by
    simp only [List.all_eq_true, atom_iff]
  rw [isLocalPart, Bool.and_eq_true, Bool.and_eq_true, hatoms, Bool.not_eq_true', List.isEmpty_eq_false_iff,
    decide_eq_true_eq]
  constructor
  · rintro ⟨⟨hne, hle⟩, h⟩
    have hcs := intercalate_splitAtEach cs
    rw [← hcs, byteLength_intercalate fun atom hatom => (h atom hatom).ordinary, hcs] at hle
    exact ⟨List.length_pos_iff.2 hne, hle, _, splitAtEach_ne_nil '.' cs, h, hcs.symm⟩
  · rintro ⟨hpos, hle, atoms, hne, h, hcs⟩
    have hordinary : ∀ atom ∈ atoms, ∀ c ∈ atom, Ordinary c := fun atom hatom => (h atom hatom).ordinary
    rw [hcs, ← byteLength_intercalate hordinary, ← hcs] at hle
    refine ⟨⟨List.length_pos_iff.1 hpos, hle⟩, ?_⟩
    rwa [hcs, splitAtEach_intercalate hne hordinary]

theorem isDomain_iff {cs : List Char} : isDomain cs = true ↔ Domain cs := by
  have hlabels (pieces : List (List Char)) : pieces.all isLabel = true ↔ ∀ label ∈ pieces, Label label := by
    simp only [List.all_eq_true, isLabel_iff]
  simp only [isDomain, Bool.and_eq_true, hlabels, Bool.not_eq_true', List.isEmpty_eq_false_iff, decide_eq_true_eq]
  constructor
  · rintro ⟨⟨⟨⟨-, hle⟩, htwo⟩, h⟩, htop⟩
    have hcs := intercalate_splitAtEach cs
    obtain hnil | ⟨labels, top, hpieces⟩ := (splitAtEach '.' cs).eq_nil_or_concat'
    · rw [hnil] at htwo
      cases htwo
    rw [hpieces] at hcs htwo h htop
    rw [← hcs, byteLength_intercalate fun label hlabel => (h label hlabel).ordinary, hcs] at hle
    refine ⟨hle, labels, top, ?_, h, ?_, hcs.symm⟩
    · rintro rfl
      exact absurd htwo (by simp)
    · simpa [isDigit_iff] using htop
  · rintro ⟨hle, labels, top, hne, h, htop, hcs⟩
    have hordinary : ∀ label ∈ labels ++ [top], ∀ c ∈ label, Ordinary c := fun label hlabel => (h label hlabel).ordinary
    rw [hcs, ← byteLength_intercalate hordinary, ← hcs] at hle
    have hpieces : splitAtEach '.' cs = labels ++ [top] := by
      rw [hcs]
      exact splitAtEach_intercalate (by simp) hordinary
    have htwo : 2 ≤ (labels ++ [top]).length := by
      rw [List.length_append]
      exact Nat.succ_le_succ (List.length_pos_iff.2 hne)
    have hfilled : cs ≠ [] := by
      rintro rfl
      rw [← hpieces] at htwo
      exact absurd htwo (by decide)
    rw [hpieces]
    exact ⟨⟨⟨⟨hfilled, hle⟩, htwo⟩, h⟩, by simpa [isDigit_iff] using htop⟩

/-- All characters before the sign are ordinary ones or points. -/
theorem LocalPart.ordinary {cs : List Char} (h : LocalPart cs) : ∀ c ∈ cs, c = '.' ∨ Ordinary c := by
  obtain ⟨atoms, -, hatoms, rfl⟩ := h.atoms
  exact fun c hc => (mem_intercalate hc).imp_right fun ⟨atom, hatom, hc⟩ => (hatoms atom hatom).ordinary c hc

theorem Domain.ordinary {cs : List Char} (h : Domain cs) : ∀ c ∈ cs, c = '.' ∨ Ordinary c := by
  obtain ⟨labels, top, -, hlabels, -, rfl⟩ := h.labels
  exact fun c hc => (mem_intercalate hc).imp_right fun ⟨label, hlabel, hc⟩ => (hlabels label hlabel).ordinary c hc

theorem ne_sign_of_mem {cs : List Char} (h : ∀ c ∈ cs, c = '.' ∨ Ordinary c) {c : Char} (hc : c ∈ cs) : c ≠ '@' := by
  rcases h c hc with rfl | hordinary
  · decide
  · exact hordinary.ne_sign

theorem not_mem_sign {cs : List Char} (h : ∀ c ∈ cs, c = '.' ∨ Ordinary c) : '@' ∉ cs :=
  fun hmem => ne_sign_of_mem h hmem rfl

/-! ### The whole -/

/-- A text of two parts with a sign between them. -/
def Address (cs : List Char) : Prop :=
  ∃ localPart domain, cs = localPart ++ '@' :: domain ∧ LocalPart localPart ∧ Domain domain

theorem Address.ascii {cs : List Char} (h : Address cs) : ∀ c ∈ cs, c.toNat < 128 ∧ isBlank c = false := by
  obtain ⟨localPart, domain, rfl, hlocal, hdomain⟩ := h
  have hpart (part : List Char) (hpart : ∀ c ∈ part, c = '.' ∨ Ordinary c) :
      ∀ c ∈ part, c.toNat < 128 ∧ isBlank c = false := by
    intro c hc
    rcases hpart c hc with rfl | hordinary
    · decide
    · exact ⟨hordinary.ascii, hordinary.isBlank_eq⟩
  refine List.forall_mem_append.2 ⟨hpart _ hlocal.ordinary, List.forall_mem_cons.2 ⟨by decide, ?_⟩⟩
  exact hpart _ hdomain.ordinary

theorem Address.count_sign {cs : List Char} (h : Address cs) : cs.count '@' = 1 := by
  obtain ⟨localPart, domain, rfl, hlocal, hdomain⟩ := h
  rw [List.count_append, List.count_cons_self, List.count_eq_zero.2 (not_mem_sign hlocal.ordinary),
    List.count_eq_zero.2 (not_mem_sign hdomain.ordinary)]

end Email

open Email

/-- **What is accepted as an address for mail**: at most 254 bytes, with one sign and in the grammar. No character of it
is blank or beyond ASCII. -/
theorem isEmail_iff_address (s : String) :
    (isEmail s = true ↔ s.utf8ByteSize ≤ 254 ∧ s.toList.count '@' = 1 ∧ Address s.toList) ∧
      (isEmail s = true → ∀ c ∈ s.toList, c.toNat < 128 ∧ isBlank c = false) := by
  have hparts : isEmail s = true ↔ s.utf8ByteSize ≤ 254 ∧ Address s.toList := by
    rw [isEmail, Bool.and_eq_true, decide_eq_true_eq]
    refine and_congr_right fun _ => ?_
    constructor
    · intro h
      split at h
      next localPart domain hsplit =>
        obtain ⟨hlocal, hdomain⟩ := Bool.and_eq_true_iff.1 h
        obtain ⟨sign, hsign, heq⟩ := exists_append_of_splitAtFirst hsplit
        obtain rfl := beq_iff_eq.1 hsign
        exact ⟨localPart, domain, heq, isLocalPart_iff.1 hlocal, isDomain_iff.1 hdomain⟩
      next => cases h
    · rintro ⟨localPart, domain, heq, hlocal, hdomain⟩
      rw [heq, splitAtFirst_append (fun c hc => beq_false_of_ne (ne_sign_of_mem hlocal.ordinary hc)) rfl]
      exact Bool.and_eq_true_iff.2 ⟨isLocalPart_iff.2 hlocal, isDomain_iff.2 hdomain⟩
  refine ⟨?_, fun h => (hparts.1 h).2.ascii⟩
  rw [hparts]
  exact ⟨fun ⟨hle, h⟩ => ⟨hle, h.count_sign, h⟩, fun ⟨hle, _, h⟩ => ⟨hle, h⟩⟩

theorem isEmail_iff_address_tagged :
    isEmail "o'neil.j+news@mail.x-1.example" = true ∧ Address "o'neil.j+news@mail.x-1.example".toList ∧
      '+'.toNat < 128 ∧ isBlank '+' = false := by
  have haccepted : isEmail "o'neil.j+news@mail.x-1.example" = true := by decide +kernel
  obtain ⟨hgrammar, hascii⟩ := isEmail_iff_address "o'neil.j+news@mail.x-1.example"
  exact ⟨haccepted, (hgrammar.1 haccepted).2.2, hascii haccepted '+' (by decide)⟩

end Attest

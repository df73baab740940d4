import Attest.Json.Recognizer
import Attest.Proofs.Json.Grammar
import Attest.Proofs.Lists

/-!
What the scans of blanks, words, numbers and strings take off a text. A scan that succeeds has taken a text of the
grammar, and one that finds a text of the grammar takes all of it. For numbers the latter needs to know that what
follows could not be part of the number, since a scan takes as much as it can.
-/

namespace Attest.Json

open Draft (skipBlanks)
open Grammar

/-! ### Blanks -/

theorem isBlank_iff {c : Char} : Draft.isBlank c = true ↔ c = ' ' ∨ c = '\t' ∨ c = '\n' ∨ c = '\r' := by
  simp [Draft.isBlank, or_assoc]

theorem exists_blanks (cs : List Char) : ∃ bs, Blanks bs ∧ cs = bs ++ skipBlanks cs := by
  refine ⟨cs.takeWhile Draft.isBlank, fun c hc => isBlank_iff.1 (List.mem_takeWhile_imp hc), ?_⟩
  rw [skipBlanks, List.takeWhile_append_dropWhile]

theorem skipBlanks_append {bs : List Char} (h : Blanks bs) (cs : List Char) :
    skipBlanks (bs ++ cs) = skipBlanks cs :=
  List.dropWhile_append_of_pos fun c hc => isBlank_iff.2 (h c hc)

theorem skipBlanks_cons {c : Char} (h : Draft.isBlank c = false) (cs : List Char) : skipBlanks (c :: cs) = c :: cs :=
  List.dropWhile_cons_of_neg (by rw [h]; exact Bool.false_ne_true)

theorem isBlank_of_opens {c : Char} (h : Opens c) : Draft.isBlank c = false := by
  rcases h with rfl | rfl | rfl | rfl | hdigit | rfl | rfl | rfl
  case inr.inr.inr.inr.inl =>
    rw [← Bool.not_eq_true, isBlank_iff]
    rintro (rfl | rfl | rfl | rfl) <;> exact absurd hdigit (by decide)
  all_goals rfl

/-! ### Words -/

theorem scanWord_eq_ok_iff {word cs rest : List Char} : scanWord word cs = .ok rest ↔ cs = word ++ rest := by
  induction word generalizing cs with
  | nil =>
      rw [scanWord, List.nil_append]
      exact ⟨Except.ok.inj, fun h => by rw [h]⟩
  | cons w word ih =>
      cases cs with
      | nil => simp [scanWord]
      | cons c cs =>
          rw [scanWord, List.cons_append, List.cons.injEq, ← ih]
          by_cases h : c = w
          · simp [h]
          · simp [h]

/-! ### Numbers -/

theorem digits_of_scanDigits {cs rest : List Char} (h : scanDigits cs = .ok rest) :
    ∃ ds, Digits ds ∧ cs = ds ++ rest := by
  cases cs with
  | nil => cases h
  | cons c cs =>
      rw [scanDigits] at h
      by_cases hc : c.isDigit
      · rw [if_pos hc] at h
        obtain rfl := Except.ok.inj h
        refine ⟨(c :: cs).takeWhile Char.isDigit, ⟨?_, fun d hd => List.mem_takeWhile_imp hd⟩, ?_⟩
        · rw [List.takeWhile_cons_of_pos hc]
          exact List.cons_ne_nil _ _
        · rw [List.takeWhile_append_dropWhile]
      · rw [if_neg hc] at h
        cases h

theorem scanDigits_append {ds rest : List Char} (h : Digits ds) (hrest : ∀ c ∈ rest.head?, c.isDigit = false) :
    scanDigits (ds ++ rest) = .ok rest := by
  have hdrop : (ds ++ rest).dropWhile Char.isDigit = rest := dropWhile_append_of_cut h.2 hrest
  obtain ⟨c, ds, rfl, hc, -⟩ := h.exists_cons
  rw [List.cons_append] at hdrop ⊢
  rw [scanDigits, if_pos hc, hdrop]

theorem whole_of_scanWhole {cs rest : List Char} (h : scanWhole cs = .ok rest) : ∃ w, Whole w ∧ cs = w ++ rest := by
  unfold scanWhole at h
  split at h
  next =>
    obtain rfl := Except.ok.inj h
    exact ⟨['0'], .zero, rfl⟩
  next hzero =>
    obtain ⟨ds, hds, rfl⟩ := digits_of_scanDigits h
    obtain ⟨c, ds, rfl, -, -⟩ := hds.exists_cons
    refine ⟨c :: ds, .run hds ?_, rfl⟩
    intro hhead
    obtain rfl := Option.some.inj hhead
    exact hzero _ rfl

theorem scanWhole_append {w rest : List Char} (h : Whole w) (hrest : ∀ c ∈ rest.head?, c.isDigit = false) :
    scanWhole (w ++ rest) = .ok rest := by
  cases h with
  | zero => rfl
  | run h hzero =>
      unfold scanWhole
      split
      next rest' heq =>
        obtain ⟨c, ds, rfl, -, -⟩ := h.exists_cons
        obtain ⟨rfl, -⟩ := List.cons.inj heq
        exact absurd rfl hzero
      next => exact scanDigits_append h hrest

theorem fraction_of_scanFraction {cs rest : List Char} (h : scanFraction cs = .ok rest) :
    ∃ f, Fraction f ∧ cs = f ++ rest := by
  unfold scanFraction at h
  split at h
  next =>
    obtain ⟨ds, hds, rfl⟩ := digits_of_scanDigits h
    exact ⟨'.' :: ds, .digits hds, rfl⟩
  next =>
    obtain rfl := Except.ok.inj h
    exact ⟨[], .absent, rfl⟩

theorem scanFraction_append {f rest : List Char} (h : Fraction f)
    (hrest : ∀ c ∈ rest.head?, c.isDigit = false ∧ c ≠ '.') : scanFraction (f ++ rest) = .ok rest := by
  cases h with
  | absent =>
      rw [List.nil_append]
      unfold scanFraction
      split
      next => exact absurd rfl (hrest '.' rfl).2
      next => rfl
  | digits h => exact scanDigits_append h fun c hc => (hrest c hc).1

theorem exists_sign (cs : List Char) :
    ∃ sign, (sign = [] ∨ sign = ['+'] ∨ sign = ['-']) ∧ cs = sign ++ dropSign cs := by
  cases cs with
  | nil => exact ⟨[], .inl rfl, rfl⟩
  | cons c cs =>
      rw [dropSign]
      by_cases hplus : c = '+'
      · exact ⟨['+'], .inr (.inl rfl), by simp [hplus]⟩
      · by_cases hminus : c = '-'
        · exact ⟨['-'], .inr (.inr rfl), by simp [hminus]⟩
        · exact ⟨[], .inl rfl, by simp [hplus, hminus]⟩

theorem dropSign_append {sign ds : List Char} (hsign : sign = [] ∨ sign = ['+'] ∨ sign = ['-']) (hds : Digits ds)
    (rest : List Char) : dropSign (sign ++ (ds ++ rest)) = ds ++ rest := by
  rcases hsign with rfl | rfl | rfl
  · obtain ⟨c, ds, rfl, hc, -⟩ := hds.exists_cons
    have hsign : ¬(c = '+' ∨ c = '-') := by
      rintro (rfl | rfl) <;> exact absurd hc (by decide)
    exact if_neg hsign
  · rfl
  · rfl

theorem exponent_of_scanExponent {cs rest : List Char} (h : scanExponent cs = .ok rest) :
    ∃ e, Exponent e ∧ cs = e ++ rest := by
  cases cs with
  | nil =>
      obtain rfl := Except.ok.inj h
      exact ⟨[], .absent, rfl⟩
  | cons c cs =>
      rw [scanExponent] at h
      by_cases hletter : c = 'e' ∨ c = 'E'
      · rw [if_pos hletter] at h
        obtain ⟨sign, hsign, heq⟩ := exists_sign cs
        obtain ⟨ds, hds, hdrop⟩ := digits_of_scanDigits h
        refine ⟨c :: (sign ++ ds), .digits hletter hsign hds, ?_⟩
        rw [List.cons_append, List.append_assoc, ← hdrop, ← heq]
      · rw [if_neg hletter] at h
        obtain rfl := Except.ok.inj h
        exact ⟨[], .absent, rfl⟩

theorem scanExponent_append {e rest : List Char} (h : Exponent e)
    (hrest : ∀ c ∈ rest.head?, c.isDigit = false ∧ c ≠ 'e' ∧ c ≠ 'E') : scanExponent (e ++ rest) = .ok rest := by
  cases h with
  | absent =>
      cases rest with
      | nil => rfl
      | cons c rest =>
          obtain ⟨-, hlower, hupper⟩ := hrest c rfl
          exact if_neg (not_or.2 ⟨hlower, hupper⟩)
  | digits hletter hsign hds =>
      rw [List.cons_append, scanExponent, if_pos hletter, List.append_assoc, dropSign_append hsign hds]
      exact scanDigits_append hds fun c hc => (hrest c hc).1

/-- What cannot go on a number. -/
def EndsNumber (rest : List Char) : Prop :=
  ∀ c ∈ rest.head?, c.isDigit = false ∧ c ≠ '.' ∧ c ≠ 'e' ∧ c ≠ 'E'

theorem bind_eq_ok_iff {x : Scan} {f : List Char → Scan} {rest : List Char} :
    (x >>= f) = .ok rest ↔ ∃ mid, x = .ok mid ∧ f mid = .ok rest := by
  cases x <;> simp [bind, Except.bind]

def dropMinus (cs : List Char) : List Char :=
  match cs with
  | '-' :: rest => rest
  | _ => cs

theorem scanNumber_eq (cs : List Char) :
    scanNumber cs = (scanWhole (dropMinus cs) >>= fun cs => scanFraction cs >>= scanExponent) := rfl

theorem exists_minus (cs : List Char) : ∃ minus, (minus = [] ∨ minus = ['-']) ∧ cs = minus ++ dropMinus cs := by
  unfold dropMinus
  split
  next => exact ⟨['-'], .inr rfl, rfl⟩
  next => exact ⟨[], .inl rfl, rfl⟩

theorem dropMinus_append {minus whole : List Char} (hminus : minus = [] ∨ minus = ['-']) (hwhole : Whole whole)
    (rest : List Char) : dropMinus (minus ++ (whole ++ rest)) = whole ++ rest := by
  rcases hminus with rfl | rfl
  · obtain ⟨c, w, rfl, hc⟩ := hwhole.exists_cons
    unfold dropMinus
    split
    next heq =>
      obtain ⟨rfl, -⟩ := List.cons.inj heq
      exact absurd hc (by decide)
    next => rfl
  · rfl

theorem number_of_scanNumber {cs rest : List Char} (h : scanNumber cs = .ok rest) :
    ∃ n, NumberText n ∧ cs = n ++ rest := by
  obtain ⟨minus, hminus, heq⟩ := exists_minus cs
  rw [scanNumber_eq, bind_eq_ok_iff] at h
  obtain ⟨afterWhole, hwhole, h⟩ := h
  obtain ⟨afterFraction, hfraction, hexponent⟩ := bind_eq_ok_iff.1 h
  obtain ⟨w, hw, hcs⟩ := whole_of_scanWhole hwhole
  obtain ⟨f, hf, rfl⟩ := fraction_of_scanFraction hfraction
  obtain ⟨e, he, rfl⟩ := exponent_of_scanExponent hexponent
  -- The four parts in their order are all that was taken off.
  refine ⟨minus ++ (w ++ (f ++ e)), .mk hminus hw hf he, ?_⟩
  rw [heq, hcs]
  simp only [List.append_assoc]

/-- What follows the whole part of a number cannot go on that part. -/
theorem head?_fraction_append {f e rest : List Char} (hf : Fraction f) (he : Exponent e) (hrest : EndsNumber rest) :
    ∀ c ∈ (f ++ (e ++ rest)).head?, c.isDigit = false := by
  intro c hc
  cases hf with
  | digits _ =>
      obtain rfl := Option.some.inj hc
      rfl
  | absent =>
      cases he with
      | digits hletter _ _ =>
          obtain rfl := Option.some.inj hc
          rcases hletter with rfl | rfl <;> rfl
      | absent => exact (hrest c hc).1

theorem head?_exponent_append {e rest : List Char} (he : Exponent e) (hrest : EndsNumber rest) :
    ∀ c ∈ (e ++ rest).head?, c.isDigit = false ∧ c ≠ '.' := by
  intro c hc
  cases he with
  | digits hletter _ _ =>
      obtain rfl := Option.some.inj hc
      rcases hletter with rfl | rfl <;> exact ⟨rfl, by decide⟩
  | absent => exact ⟨(hrest c hc).1, (hrest c hc).2.1⟩

theorem scanNumber_append {n rest : List Char} (h : NumberText n) (hrest : EndsNumber rest) :
    scanNumber (n ++ rest) = .ok rest := by
  cases h with
  | @mk minus whole fraction exponent hminus hwhole hfraction hexponent =>
      have hfractions := scanFraction_append hfraction (head?_exponent_append hexponent hrest)
      have hexponents := scanExponent_append hexponent fun c hc => ⟨(hrest c hc).1, (hrest c hc).2.2⟩
      rw [List.append_assoc, List.append_assoc, List.append_assoc, scanNumber_eq, dropMinus_append hminus hwhole,
        scanWhole_append hwhole (head?_fraction_append hfraction hexponent hrest)]
      exact bind_eq_ok_iff.2 ⟨_, rfl, bind_eq_ok_iff.2 ⟨_, hfractions, hexponents⟩⟩

/-! ### Strings -/

theorem isHexDigit_iff {c : Char} : (Draft.hexValue? c).isSome = true ↔ IsHexDigit c := by
  unfold Draft.hexValue? IsHexDigit
  split
  next h => simp [h]
  next h =>
    split
    next h' => simp [h']
    next h' =>
      split
      next h'' => simp [h'']
      next h'' => simp [h, h', h'']

theorem isSimpleEscape_iff {c : Char} : isSimpleEscape c = true ↔ c ∈ ['"', '\\', '/', 'b', 'f', 'n', 'r', 't'] := by
  unfold isSimpleEscape Draft.simpleEscape?
  simp only [List.mem_cons, List.not_mem_nil, or_false]
  split_ifs with h <;> simp_all
  rcases h with rfl | rfl | rfl <;> simp

theorem scanHex_eq_ok_iff {n : Nat} {cs rest : List Char} : scanHex n cs = .ok rest ↔
    ∃ digits, digits.length = n ∧ (∀ c ∈ digits, IsHexDigit c) ∧ cs = digits ++ rest := by
  induction n generalizing cs with
  | zero =>
      rw [scanHex]
      constructor
      · intro h
        obtain rfl := Except.ok.inj h
        exact ⟨[], rfl, by simp, rfl⟩
      · rintro ⟨digits, hlength, -, rfl⟩
        rw [List.length_eq_zero_iff.1 hlength]
        rfl
  | succ n ih =>
      cases cs with
      | nil =>
          rw [scanHex]
          refine iff_of_false (fun h => by cases h) ?_
          rintro ⟨digits, hlength, -, heq⟩
          rw [(List.append_eq_nil_iff.1 heq.symm).1] at hlength
          cases hlength
      | cons c cs =>
          rw [scanHex]
          constructor
          · intro h
            split at h
            next hc =>
              obtain ⟨digits, hlength, hdigits, rfl⟩ := ih.1 h
              refine ⟨c :: digits, by rw [List.length_cons, hlength], ?_, rfl⟩
              exact List.forall_mem_cons.2 ⟨isHexDigit_iff.1 hc, hdigits⟩
            next => cases h
          · rintro ⟨digits, hlength, hdigits, heq⟩
            cases digits with
            | nil => cases hlength
            | cons d digits =>
                obtain ⟨rfl, rfl⟩ := List.cons.inj heq
                obtain ⟨hc, hdigits⟩ := List.forall_mem_cons.1 hdigits
                rw [if_pos (isHexDigit_iff.2 hc)]
                exact ih.2 ⟨digits, Nat.succ.inj hlength, hdigits, rfl⟩

theorem string_of_scanString {fuel : Nat} {cs rest : List Char} (h : scanString fuel cs = .ok rest) :
    ∃ body, Pieces body ∧ cs = body ++ '"' :: rest := by
  induction fuel generalizing cs with
  | zero => cases h
  | succ fuel ih =>
      cases cs with
      | nil => cases h
      | cons c cs =>
          rw [scanString.eq_def] at h
          dsimp only at h
          split_ifs at h with hquote hslash hcontrol
          · obtain rfl := Except.ok.inj h
            exact ⟨[], .nil, by rw [hquote]; rfl⟩
          · subst hslash
            cases cs with
            | nil => cases h
            | cons e cs =>
                simp only at h
                split_ifs at h with hsimple hunicode
                · obtain ⟨body, hbody, rfl⟩ := ih h
                  exact ⟨_, .cons (.escape (isSimpleEscape_iff.1 hsimple)) hbody, rfl⟩
                · subst hunicode
                  cases hhex : scanHex 4 cs with
                  | error stop => simp [hhex] at h
                  | ok afterHex =>
                      rw [hhex] at h
                      obtain ⟨digits, hlength, hdigits, rfl⟩ := scanHex_eq_ok_iff.1 hhex
                      obtain ⟨body, hbody, rfl⟩ := ih h
                      refine ⟨_, .cons (.unicode hlength hdigits) hbody, ?_⟩
                      simp only [List.cons_append, List.append_assoc]
          · obtain ⟨body, hbody, rfl⟩ := ih h
            exact ⟨_, .cons (.plain (Nat.le_of_not_lt hcontrol) hquote hslash) hbody, rfl⟩

theorem scanString_append {body : List Char} (h : Pieces body) {fuel : Nat} (hfuel : body.length < fuel)
    (rest : List Char) : scanString fuel (body ++ '"' :: rest) = .ok rest := by
  induction h generalizing fuel with
  | nil =>
      obtain ⟨fuel, rfl⟩ := Nat.exists_eq_succ_of_ne_zero (Nat.ne_of_gt hfuel)
      rfl
  | @cons piece cs hpiece _ ih =>
      obtain ⟨fuel, rfl⟩ := Nat.exists_eq_succ_of_ne_zero (Nat.ne_of_gt (Nat.zero_lt_of_lt hfuel))
      rw [List.length_append] at hfuel
      cases hpiece with
      | plain hprintable hquote hslash =>
          rw [List.append_assoc, List.singleton_append, scanString.eq_def]
          dsimp only
          rw [if_neg hquote, if_neg hslash, if_neg (Nat.not_lt.2 hprintable)]
          exact ih (by simp only [List.length_singleton] at hfuel; omega)
      | escape hmem =>
          have hlength : cs.length < fuel := by
            simp only [List.length_cons, List.length_nil] at hfuel
            omega
          have hrest := ih hlength
          rw [List.append_assoc, List.cons_append, List.singleton_append, scanString, if_neg (by decide), if_pos rfl]
          simp only [isSimpleEscape_iff.2 hmem, if_true]
          exact hrest
      | @unicode digits hlength hdigits =>
          have hrest := ih (show cs.length < fuel by simp only [List.length_cons] at hfuel; omega)
          have hhex : scanHex 4 (digits ++ (cs ++ '"' :: rest)) = .ok (cs ++ '"' :: rest) :=
            scanHex_eq_ok_iff.2 ⟨digits, hlength, hdigits, rfl⟩
          have hnot : isSimpleEscape 'u' = false := by decide
          rw [List.append_assoc, List.cons_append, List.cons_append, scanString, if_neg (by decide), if_pos rfl]
          simp only [hnot, hhex, hrest, if_true]
          rfl

end Attest.Json

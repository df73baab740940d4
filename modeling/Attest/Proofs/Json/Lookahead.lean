import Attest.Proofs.Json.Encoding
import Attest.Proofs.Json.Recognition

/-!
How far a scan looks ahead. What it makes of a text depends on the characters that it takes off and on the first one
that it leaves, and of the latter only the kind counts, since none beyond ASCII means anything to a scan. If the text
ends there instead, the scan leaves nothing and comes to the same verdict.

This is the property `Local`. Scans are put together by doing one after the other and by looking at the next
character, and each way of doing so has a rule. The bound of the steps is the same for both texts; that it does not
count as long as it is large enough is shown last.
-/

namespace Attest.Json

open Draft (skipBlanks)

/-! ### What is left of a text -/

/-- Whatever a scan leaves is the end of its text. -/
def Scan.Shrinks (r : Scan) (cs : List Char) : Prop :=
  ∀ rest, r = .ok rest ∨ r = .error (.before rest) → rest <:+ cs

/-- If a scan leaves `x` with something before it, another one leaves `y` in its place and says the same. -/
def Scan.Follows (x y : List Char) (r r' : Scan) : Prop :=
  ∀ p, (r = .ok (p ++ x) → r' = .ok (p ++ y)) ∧ (r = .error (.before (p ++ x)) → r' = .error (.before (p ++ y)))

/-- A text that is not at its end, and one that is or goes on with a character of the same kind. -/
inductive Resembles : List Char → List Char → Prop
  | ended {c t} : Resembles (c :: t) []
  | akin {c t d t'} (h : Akin c d) : Resembles (c :: t) (d :: t')

/-- A scan that looks at no more than the kind of the first character that it leaves. -/
structure Local (scan : List Char → Scan) : Prop where
  shrinks : ∀ cs, (scan cs).Shrinks cs
  follows : ∀ {x y}, Resembles x y → ∀ u, Scan.Follows x y (scan (u ++ x)) (scan (u ++ y))

variable {x y cs : List Char} {r r' : Scan}

theorem Scan.Shrinks.mono {cs' : List Char} (h : r.Shrinks cs) (hsuffix : cs <:+ cs') : r.Shrinks cs' :=
  fun rest hrest => (h rest hrest).trans hsuffix

/-- A scan that has taken of `x` too does not leave it. -/
theorem Scan.Follows.of_shrinks (h : r.Shrinks cs) (hlength : cs.length < x.length) : Scan.Follows x y r r' := by
  have hnever (p : List Char) : ¬(r = .ok (p ++ x) ∨ r = .error (.before (p ++ x))) := by
    intro hleft
    have hle := (h _ hleft).length_le
    rw [List.length_append] at hle
    omega
  exact fun p => ⟨fun hok => absurd (.inl hok) (hnever p), fun herror => absurd (.inr herror) (hnever p)⟩

/-! ### Putting scans together -/

/-- Kinds of characters of which those beyond ASCII are all or none. -/
def Respects (test : Char → Bool) : Prop :=
  ∀ c d, Akin c d → test c = test d

theorem respects_of_ascii {test : Char → Bool} (h : ∀ c, test c = true → c.toNat < 128) : Respects test := by
  rintro c d (rfl | ⟨hc, hd⟩)
  · rfl
  · have hnone (c : Char) (hc : 128 ≤ c.toNat) : test c = false :=
      eq_false_of_ne_true fun htest => absurd (h c htest) (Nat.not_lt.2 hc)
    rw [hnone c hc, hnone d hd]

theorem respects_eq {k : Char} (hk : k.toNat < 128) : Respects (fun c => c == k) :=
  respects_of_ascii fun c hc => by rwa [eq_of_beq hc]

/-- Takes the next character off if it is of a kind, and goes on in another way if it is not. -/
def ifTaken (test : Char → Bool) (taken left : List Char → Scan) (cs : List Char) : Scan :=
  match cs with
  | c :: rest => if test c then taken rest else left (c :: rest)
  | [] => left []

/-- Goes on by the kind of the next character without taking it off. -/
def ifSeen (test : Char → Bool) (seen other : List Char → Scan) (cs : List Char) : Scan :=
  match cs with
  | c :: rest => if test c then seen (c :: rest) else other (c :: rest)
  | [] => other []

/-- The blanks next in the text, whose end is not among them. -/
def takeBlanks (cs : List Char) : Scan :=
  .ok (skipBlanks cs)

def takeDigits (cs : List Char) : Scan :=
  .ok (cs.dropWhile Char.isDigit)

def stop (cs : List Char) : Scan :=
  .error (.before cs)

def tooDeep (_ : List Char) : Scan :=
  .error .tooDeep

variable {scan scan' : List Char → Scan} {test : Char → Bool}

theorem local_ok : Local Except.ok where
  shrinks cs rest h := by
    obtain rfl : cs = rest := by simpa using h
    exact List.suffix_rfl
  follows _ u p := by
    refine ⟨fun h => ?_, fun h => by cases h⟩
    rw [List.append_cancel_right (Except.ok.inj h)]

theorem local_stop : Local stop where
  shrinks cs rest h := by
    obtain rfl : cs = rest := by simpa [stop] using h
    exact List.suffix_rfl
  follows _ u p := by
    refine ⟨fun h => (by cases h), fun h => ?_⟩
    rw [List.append_cancel_right (Stop.before.inj (Except.error.inj h))]
    rfl

theorem local_tooDeep : Local tooDeep where
  shrinks cs rest h := by simp [tooDeep] at h
  follows _ u p := ⟨fun h => (by cases h), fun h => (by cases h)⟩

theorem local_dropWhile (htest : Respects test) : Local fun cs => .ok (cs.dropWhile test) where
  shrinks cs rest h := by
    obtain rfl : cs.dropWhile test = rest := by simpa using h
    exact List.dropWhile_suffix test
  follows := by
    intro x y hxy u p
    refine ⟨fun h => ?_, fun h => by cases h⟩
    have h : (u ++ x).dropWhile test = p ++ x := Except.ok.inj h
    rw [List.dropWhile_append] at h ⊢
    by_cases hall : (u.dropWhile test).isEmpty
    · -- All of `u` is dropped, so that nothing of `x` is.
      rw [if_pos hall] at h ⊢
      cases hxy with
      | @ended c t =>
          have hp : p = [] := by
            have hle := (List.dropWhile_suffix (l := c :: t) test).length_le
            rw [h, List.length_append] at hle
            exact List.length_eq_zero_iff.1 (by omega)
          rw [hp]
          rfl
      | @akin c t d t' hakin =>
          have hle := (List.dropWhile_suffix (l := c :: t) test).length_le
          by_cases hc : test c
          · rw [List.dropWhile_cons_of_pos hc] at h
            have hle := (List.dropWhile_suffix (l := t) test).length_le
            rw [h, List.length_append, List.length_cons] at hle
            omega
          · have hd : ¬test d = true := by rwa [← htest c d hakin]
            rw [List.dropWhile_cons_of_neg hc] at h
            rw [List.dropWhile_cons_of_neg hd, List.self_eq_append_left.1 h]
            rfl
    · rw [if_neg hall] at h ⊢
      rw [List.append_cancel_right h]

/-- One scan after another. -/
theorem Local.bind (h : Local scan) (h' : Local scan') : Local fun cs => scan cs >>= scan' where
  shrinks cs rest hrest := by
    cases hscan : scan cs with
    | ok mid =>
        rw [hscan] at hrest
        exact (h'.shrinks mid rest hrest).trans (h.shrinks cs mid (.inl hscan))
    | error stop =>
        rw [hscan] at hrest
        obtain rfl : stop = .before rest := by
          rcases hrest with hrest | hrest
          · cases hrest
          · exact Except.error.inj hrest
        exact h.shrinks cs rest (.inr hscan)
  follows := by
    intro x y hxy u p
    cases hscan : scan (u ++ x) with
    | ok mid =>
        -- The second scan leaves no more than the first.
        have hmid (hleft : scan' mid = .ok (p ++ x) ∨ scan' mid = .error (.before (p ++ x))) :
            ∃ q, mid = q ++ x ∧ scan (u ++ y) = .ok (q ++ y) := by
          have hsuffix : x <:+ mid := (List.suffix_append p x).trans (h'.shrinks mid _ hleft)
          obtain ⟨q, rfl⟩ := hsuffix
          exact ⟨q, rfl, (h.follows hxy u q).1 hscan⟩
        constructor
        · intro hok
          obtain ⟨q, rfl, hother⟩ := hmid (.inl hok)
          rw [hother]
          exact (h'.follows hxy q p).1 hok
        · intro herror
          obtain ⟨q, rfl, hother⟩ := hmid (.inr herror)
          rw [hother]
          exact (h'.follows hxy q p).2 herror
    | error stop =>
        refine ⟨fun hok => (by cases hok), fun herror => ?_⟩
        obtain rfl : stop = .before (p ++ x) := Except.error.inj herror
        rw [(h.follows hxy u p).2 hscan]
        rfl

theorem Local.ifTaken (htest : Respects test) (h : Local scan) (h' : Local scan') :
    Local (ifTaken test scan scan') where
  shrinks cs := by
    cases cs with
    | nil => exact h'.shrinks []
    | cons c cs =>
        rw [Json.ifTaken]
        by_cases hc : test c
        · rw [if_pos hc]
          exact (h.shrinks cs).mono (List.suffix_cons c cs)
        · rw [if_neg hc]
          exact h'.shrinks (c :: cs)
  follows := by
    intro x y hxy u
    cases u with
    | cons a u =>
        simp only [List.cons_append, Json.ifTaken]
        by_cases ha : test a
        · rw [if_pos ha, if_pos ha]
          exact h.follows hxy u
        · rw [if_neg ha, if_neg ha]
          exact h'.follows hxy (a :: u)
    | nil =>
        have hleft := h'.follows hxy []
        simp only [List.nil_append] at hleft ⊢
        cases hxy with
        | @ended c t =>
            by_cases hc : test c
            · rw [Json.ifTaken, if_pos hc]
              exact .of_shrinks (h.shrinks t) (Nat.lt_succ_self _)
            · rw [Json.ifTaken, if_neg hc]
              exact hleft
        | @akin c t d t' hakin =>
            by_cases hc : test c
            · rw [Json.ifTaken, if_pos hc]
              exact .of_shrinks (h.shrinks t) (Nat.lt_succ_self _)
            · have hd : ¬test d = true := by rwa [← htest c d hakin]
              rw [Json.ifTaken, Json.ifTaken, if_neg hc, if_neg hd]
              exact hleft

theorem Local.ifSeen (htest : Respects test) (h : Local scan) (h' : Local scan') (hnil : scan [] = scan' []) :
    Local (ifSeen test scan scan') where
  shrinks cs := by
    cases cs with
    | nil => exact h'.shrinks []
    | cons c cs =>
        rw [Json.ifSeen]
        by_cases hc : test c
        · rw [if_pos hc]
          exact h.shrinks (c :: cs)
        · rw [if_neg hc]
          exact h'.shrinks (c :: cs)
  follows := by
    intro x y hxy u
    cases u with
    | cons a u =>
        simp only [List.cons_append, Json.ifSeen]
        by_cases ha : test a
        · rw [if_pos ha, if_pos ha]
          exact h.follows hxy (a :: u)
        · rw [if_neg ha, if_neg ha]
          exact h'.follows hxy (a :: u)
    | nil =>
        have hseen := h.follows hxy []
        have hother := h'.follows hxy []
        simp only [List.nil_append] at hseen hother ⊢
        cases hxy with
        | @ended c t =>
            rw [Json.ifSeen]
            by_cases hc : test c
            · rw [if_pos hc, Json.ifSeen, ← hnil]
              exact hseen
            · rw [if_neg hc]
              exact hother
        | @akin c t d t' hakin =>
            rw [Json.ifSeen, Json.ifSeen, ← htest c d hakin]
            by_cases hc : test c
            · rw [if_pos hc, if_pos hc]
              exact hseen
            · rw [if_neg hc, if_neg hc]
              exact hother

/-- What is made of a text by looking for one character. -/
theorem eq_ifTaken_at {k : Char} (hnil : cs = [] → r = scan' []) (htaken : ∀ rest, cs = k :: rest → r = scan rest)
    (hleft : ∀ c rest, c ≠ k → cs = c :: rest → r = scan' (c :: rest)) : r = Json.ifTaken (· == k) scan scan' cs := by
  cases cs with
  | nil => exact hnil rfl
  | cons c cs =>
      by_cases hc : c = k
      · subst hc
        rw [Json.ifTaken, if_pos (beq_self_eq_true c), htaken cs rfl]
      · rw [Json.ifTaken, if_neg (by simpa using hc), hleft c cs hc rfl]

/-- The form of a scan that looks for one character. -/
theorem eq_ifTaken {whole : List Char → Scan} {k : Char} (hnil : whole [] = scan' [])
    (htaken : ∀ rest, whole (k :: rest) = scan rest)
    (hleft : ∀ c rest, c ≠ k → whole (c :: rest) = scan' (c :: rest)) : whole = Json.ifTaken (· == k) scan scan' := by
  funext cs
  refine eq_ifTaken_at ?_ ?_ ?_
  · rintro rfl
    exact hnil
  · rintro rest rfl
    exact htaken rest
  · rintro c rest hc rfl
    exact hleft c rest hc

/-! ### The scans -/

theorem toNat_lt_of_isDigit {c : Char} (h : c.isDigit = true) : c.toNat < 128 := by
  rw [Char.isDigit, Bool.and_eq_true, decide_eq_true_eq, decide_eq_true_eq] at h
  have hle : c.val.toNat ≤ 57 := h.2
  exact Nat.lt_of_le_of_lt hle (by decide)

theorem respects_isDigit : Respects Char.isDigit :=
  respects_of_ascii fun _ => toNat_lt_of_isDigit

theorem respects_isBlank : Respects Draft.isBlank :=
  respects_of_ascii fun c hc => by
    rcases isBlank_iff.1 hc with rfl | rfl | rfl | rfl <;> decide

theorem respects_isHexDigit : Respects fun c => (Draft.hexValue? c).isSome :=
  respects_of_ascii fun c hc => by
    have hle (d : Char) (hcd : c ≤ d) (hd : d.toNat < 128) : c.toNat < 128 := Nat.lt_of_le_of_lt hcd hd
    rcases isHexDigit_iff.1 hc with hdigit | ⟨-, hlower⟩ | ⟨-, hupper⟩
    · exact toNat_lt_of_isDigit hdigit
    · exact hle 'f' hlower (by decide)
    · exact hle 'F' hupper (by decide)

theorem respects_isSimpleEscape : Respects isSimpleEscape :=
  respects_of_ascii fun c hc => by
    have hmem := isSimpleEscape_iff.1 hc
    simp only [List.mem_cons, List.not_mem_nil, or_false] at hmem
    rcases hmem with rfl | rfl | rfl | rfl | rfl | rfl | rfl | rfl <;> decide

/-- Beyond ASCII every character may stand in a string. -/
theorem respects_printable : Respects fun c => decide (32 ≤ c.toNat) := by
  rintro c d (rfl | ⟨hc, hd⟩)
  · rfl
  · have hprintable (c : Char) (hc : 128 ≤ c.toNat) : decide (32 ≤ c.toNat) = true := decide_eq_true (by omega)
    exact (hprintable c hc).trans (hprintable d hd).symm

theorem local_takeBlanks : Local takeBlanks :=
  local_dropWhile respects_isBlank

theorem local_takeDigits : Local takeDigits :=
  local_dropWhile respects_isDigit

theorem local_scanWord {word : List Char} (hword : word.all (fun w => w.toNat < 128) = true) :
    Local (scanWord word) := by
  induction word with
  | nil => exact local_ok
  | cons w word ih =>
      rw [List.all_cons, Bool.and_eq_true, decide_eq_true_eq] at hword
      obtain ⟨hw, hrest⟩ := hword
      have heq : scanWord (w :: word) = ifTaken (· == w) (scanWord word) stop :=
        eq_ifTaken rfl (fun rest => by rw [scanWord, if_pos rfl]) fun c rest hc => by rw [scanWord, if_neg hc, stop]
      rw [heq]
      exact (ih hrest).ifTaken (respects_eq hw) local_stop

theorem local_scanDigits : Local scanDigits := by
  have heq : scanDigits = ifTaken Char.isDigit takeDigits stop := by
    funext cs
    cases cs with
    | nil => rfl
    | cons c cs =>
        rw [scanDigits, Json.ifTaken, takeDigits]
        by_cases hc : c.isDigit
        · rw [if_pos hc, if_pos hc, List.dropWhile_cons_of_pos hc]
        · rw [if_neg hc, if_neg hc]
          rfl
  rw [heq]
  exact local_takeDigits.ifTaken respects_isDigit local_stop

theorem local_scanWhole : Local scanWhole := by
  have heq : scanWhole = ifTaken (· == '0') .ok scanDigits :=
    eq_ifTaken rfl (fun _ => rfl) fun c rest hc => by simp [scanWhole, hc]
  rw [heq]
  exact local_ok.ifTaken (respects_eq (by decide)) local_scanDigits

theorem local_scanFraction : Local scanFraction := by
  have heq : scanFraction = ifTaken (· == '.') scanDigits .ok :=
    eq_ifTaken rfl (fun _ => rfl) fun c rest hc => by simp [scanFraction, hc]
  rw [heq]
  exact local_scanDigits.ifTaken (respects_eq (by decide)) local_ok

theorem local_scanDigits_dropSign : Local fun cs => scanDigits (dropSign cs) := by
  have hsign : Respects fun c => c == '+' || c == '-' :=
    respects_of_ascii fun c hc => by
      rcases Bool.or_eq_true _ _ ▸ hc with h | h <;> rw [eq_of_beq h] <;> decide
  have heq : (fun cs => scanDigits (dropSign cs)) = ifTaken (fun c => c == '+' || c == '-') scanDigits scanDigits := by
    funext cs
    cases cs with
    | nil => rfl
    | cons c cs =>
        by_cases hc : c = '+' ∨ c = '-'
        · simp [dropSign, Json.ifTaken, hc]
        · simp [dropSign, Json.ifTaken, hc]
  rw [heq]
  exact local_scanDigits.ifTaken hsign local_scanDigits

theorem local_scanExponent : Local scanExponent := by
  have hletter : Respects fun c => c == 'e' || c == 'E' :=
    respects_of_ascii fun c hc => by
      rcases Bool.or_eq_true _ _ ▸ hc with h | h <;> rw [eq_of_beq h] <;> decide
  have heq : scanExponent =
      ifTaken (fun c => c == 'e' || c == 'E') (fun cs => scanDigits (dropSign cs)) .ok := by
    funext cs
    cases cs with
    | nil => rfl
    | cons c cs =>
        by_cases hc : c = 'e' ∨ c = 'E'
        · simp [scanExponent, Json.ifTaken, hc]
        · simp [scanExponent, Json.ifTaken, hc]
  rw [heq]
  exact local_scanDigits_dropSign.ifTaken hletter local_ok

theorem local_scanNumber : Local scanNumber := by
  have hminus : (fun cs => scanWhole (dropMinus cs)) = ifTaken (· == '-') scanWhole scanWhole :=
    eq_ifTaken rfl (fun _ => rfl) fun c rest hc => by simp [dropMinus, hc]
  have hwhole : Local fun cs => scanWhole (dropMinus cs) := by
    rw [hminus]
    exact local_scanWhole.ifTaken (respects_eq (by decide)) local_scanWhole
  exact hwhole.bind (local_scanFraction.bind local_scanExponent)

theorem local_scanHex (n : Nat) : Local (scanHex n) := by
  induction n with
  | zero => exact local_ok
  | succ n ih =>
      have heq : scanHex (n + 1) = ifTaken (fun c => (Draft.hexValue? c).isSome) (scanHex n) stop := by
        funext cs
        cases cs <;> rfl
      rw [heq]
      exact ih.ifTaken respects_isHexDigit local_stop

/-- The rest of a string after a backslash. -/
def scanEscape (fuel : Nat) : List Char → Scan :=
  ifTaken isSimpleEscape (scanString fuel) (ifTaken (· == 'u') (fun cs => scanHex 4 cs >>= scanString fuel) stop)

theorem scanString_succ (fuel : Nat) : scanString (fuel + 1) =
    ifTaken (· == '"') .ok (ifTaken (· == '\\') (scanEscape fuel)
      (ifTaken (fun c => decide (32 ≤ c.toNat)) (scanString fuel) stop)) := by
  funext cs
  cases cs with
  | nil => rfl
  | cons c cs =>
      rw [scanString.eq_def]
      simp only [Json.ifTaken, beq_iff_eq, decide_eq_true_eq]
      by_cases hquote : c = '"'
      · rw [if_pos hquote, if_pos hquote]
      · by_cases hslash : c = '\\'
        · rw [if_neg hquote, if_neg hquote, if_pos hslash, if_pos hslash]
          cases cs with
          | nil => rfl
          | cons e cs =>
              simp only [scanEscape, Json.ifTaken, beq_iff_eq]
              by_cases hsimple : isSimpleEscape e
              · rw [if_pos hsimple, if_pos hsimple]
              · by_cases hunicode : e = 'u'
                · rw [if_neg hsimple, if_neg hsimple, if_pos hunicode, if_pos hunicode]
                  cases scanHex 4 cs <;> rfl
                · rw [if_neg hsimple, if_neg hsimple, if_neg hunicode, if_neg hunicode]
                  rfl
        · rw [if_neg hquote, if_neg hquote, if_neg hslash, if_neg hslash]
          by_cases hcontrol : c.toNat < 32
          · rw [if_pos hcontrol, if_neg (Nat.not_le.2 hcontrol)]
            rfl
          · rw [if_neg hcontrol, if_pos (Nat.le_of_not_lt hcontrol)]

theorem local_scanString_of_fuel (fuel : Nat) : Local (scanString fuel) := by
  induction fuel with
  | zero => exact local_stop
  | succ fuel ih =>
      have hescape : Local (scanEscape fuel) :=
        ih.ifTaken respects_isSimpleEscape
          (((local_scanHex 4).bind ih).ifTaken (respects_eq (by decide)) local_stop)
      rw [scanString_succ]
      exact local_ok.ifTaken (respects_eq (by decide))
        (hescape.ifTaken (respects_eq (by decide)) (ih.ifTaken respects_printable local_stop))

/-- A name or a string after its opening quote, with as many steps as it may take. -/
def scanQuoted (cs : List Char) : Scan :=
  scanString (cs.length + 1) cs

/-- A container after its opening, unless it is one too many. -/
def enter (limit depth : Nat) (closing : Char) (inside : List Char → Scan) : List Char → Scan :=
  if limit < depth + 1 then tooDeep else fun cs => takeBlanks cs >>= ifTaken (· == closing) .ok inside

/-- A container after an element. -/
def afterElement (closing : Char) (more : List Char → Scan) (cs : List Char) : Scan :=
  takeBlanks cs >>= ifTaken (· == ',') (fun cs => takeBlanks cs >>= more) (ifTaken (· == closing) .ok stop)

/-- The words and numbers, which are not told by their first character alone. -/
def scanBare : List Char → Scan :=
  ifSeen (fun c => c == '-' || c.isDigit) scanNumber (ifSeen (· == 't') (scanWord ['t', 'r', 'u', 'e'])
    (ifSeen (· == 'f') (scanWord ['f', 'a', 'l', 's', 'e']) (ifSeen (· == 'n') (scanWord ['n', 'u', 'l', 'l']) stop)))

section

variable (limit fuel depth : Nat)

theorem scanValue_succ : scanValue limit (fuel + 1) depth =
    ifTaken (· == '{') (enter limit depth '}' (scanMembers limit fuel (depth + 1)))
      (ifTaken (· == '[') (enter limit depth ']' (scanItems limit fuel (depth + 1)))
        (ifTaken (· == '"') scanQuoted scanBare)) := by
  refine eq_ifTaken rfl (fun rest => ?_) fun c rest hobject => ?_
  · rw [scanValue.eq_def, enter]
    dsimp only
    rw [if_pos rfl]
    by_cases hdeep : limit < depth + 1
    · rw [if_pos hdeep, if_pos hdeep]
      rfl
    · rw [if_neg hdeep, if_neg hdeep]
      change _ = ifTaken _ _ _ (skipBlanks rest)
      refine eq_ifTaken_at (fun h => ?_) (fun _ h => ?_) fun c _ hc h => ?_
      · rw [h]
      · rw [h]
        rfl
      · simp [h, hc]
  · rw [Json.ifTaken]
    by_cases harray : c = '['
    · subst harray
      rw [scanValue.eq_def, enter]
      dsimp only
      rw [if_neg (by decide), if_pos rfl, if_pos (beq_self_eq_true '[')]
      by_cases hdeep : limit < depth + 1
      · rw [if_pos hdeep, if_pos hdeep]
        rfl
      · rw [if_neg hdeep, if_neg hdeep]
        change _ = ifTaken _ _ _ (skipBlanks rest)
        refine eq_ifTaken_at (fun h => ?_) (fun _ h => ?_) fun c _ hc h => ?_
        · rw [h]
        · rw [h]
          rfl
        · simp [h, hc]
    · rw [scanValue.eq_def]
      simp [hobject, harray, Json.ifTaken, Json.ifSeen, scanBare, scanQuoted, stop]

theorem nextItem_eq : nextItem limit fuel depth =
    ifTaken (· == ',') (fun cs => takeBlanks cs >>= scanItems limit fuel depth) (ifTaken (· == ']') .ok stop) := by
  refine eq_ifTaken rfl (fun _ => rfl) fun c rest hcomma => ?_
  by_cases hclose : c = ']'
  · subst hclose
    rfl
  · simp [nextItem, hcomma, hclose, Json.ifTaken, stop]

theorem nextMember_eq : nextMember limit fuel depth =
    ifTaken (· == ',') (fun cs => takeBlanks cs >>= scanMembers limit fuel depth) (ifTaken (· == '}') .ok stop) := by
  refine eq_ifTaken rfl (fun _ => rfl) fun c rest hcomma => ?_
  by_cases hclose : c = '}'
  · subst hclose
    rfl
  · simp [nextMember, hcomma, hclose, Json.ifTaken, stop]

theorem scanItems_succ : scanItems limit (fuel + 1) depth = fun cs =>
    scanValue limit fuel depth cs >>= afterElement ']' (scanItems limit fuel depth) := by
  funext cs
  refine (scanItems_eq cs).trans (congrArg (scanValue limit fuel depth cs >>= ·) (funext fun rest => ?_))
  rw [nextItem_eq]
  rfl

/-- A member after its opening quote. -/
def scanMember : List Char → Scan := fun cs =>
  scanQuoted cs >>= fun cs => takeBlanks cs >>= ifTaken (· == ':') (fun cs =>
    takeBlanks cs >>= fun cs => scanValue limit fuel depth cs >>= afterElement '}' (scanMembers limit fuel depth)) stop

theorem scanMembers_succ : scanMembers limit (fuel + 1) depth = ifTaken (· == '"') (scanMember limit fuel depth) stop := by
  have hafter (rest : List Char) : nextMember limit fuel depth (skipBlanks rest) =
      afterElement '}' (scanMembers limit fuel depth) rest := by
    rw [nextMember_eq]
    rfl
  refine eq_ifTaken rfl (fun rest => ?_) fun c rest hc => by simp [scanMembers, hc, stop]
  rw [scanMembers.eq_def]
  refine congrArg (scanQuoted rest >>= ·) (funext fun rest => ?_)
  -- What comes after the name goes by the colon.
  change _ = ifTaken _ _ _ (skipBlanks rest)
  refine eq_ifTaken_at (fun h => ?_) (fun rest h => ?_) fun c _ hc h => ?_
  · rw [h, stop]
  · rw [h]
    exact congrArg (scanValue limit fuel depth (skipBlanks rest) >>= ·) (funext hafter)
  · simp [h, hc, stop]

end

/-! ### The bound of the steps -/

theorem ifTaken_congr {scan₁ scan₂ scan₁' scan₂' : List Char → Scan} (h : ∀ c rest, cs = c :: rest → scan₁ rest = scan₂ rest)
    (h' : scan₁' cs = scan₂' cs) : ifTaken test scan₁ scan₁' cs = ifTaken test scan₂ scan₂' cs := by
  cases cs with
  | nil => exact h'
  | cons c rest =>
      rw [Json.ifTaken, Json.ifTaken, h c rest rfl]
      by_cases hc : test c
      · rw [if_pos hc, if_pos hc]
      · rw [if_neg hc, if_neg hc, h']

/-- What comes after a scan has no more of the text to go through. -/
theorem bind_congr {after after' : List Char → Scan} (hscan : Local scan)
    (h : ∀ mid, mid.length ≤ cs.length → after mid = after' mid) : (scan cs >>= after) = (scan cs >>= after') := by
  cases hcs : scan cs with
  | ok mid => exact h mid (hscan.shrinks cs mid (.inl hcs)).length_le
  | error _ => rfl

theorem scanString_congr {fuel fuel' : Nat} (hfuel : cs.length < fuel) (hfuel' : cs.length < fuel') :
    scanString fuel cs = scanString fuel' cs := by
  induction fuel generalizing fuel' cs with
  | zero => exact absurd hfuel (Nat.not_lt_zero _)
  | succ fuel ih =>
      obtain ⟨fuel', rfl⟩ := Nat.exists_eq_succ_of_ne_zero (Nat.ne_zero_of_lt hfuel')
      rw [scanString_succ, scanString_succ]
      refine ifTaken_congr (fun _ _ _ => rfl) (ifTaken_congr (fun c rest hcs => ?_) (ifTaken_congr (fun c rest hcs => ?_) rfl))
      · subst hcs
        rw [List.length_cons] at hfuel hfuel'
        refine ifTaken_congr (fun c rest' hrest => ?_) (ifTaken_congr (fun c rest' hrest => ?_) rfl)
        · subst hrest
          rw [List.length_cons] at hfuel hfuel'
          exact ih (by omega) (by omega)
        · subst hrest
          rw [List.length_cons] at hfuel hfuel'
          exact bind_congr (local_scanHex 4) fun mid hmid => ih (by omega) (by omega)
      · subst hcs
        rw [List.length_cons] at hfuel hfuel'
        exact ih (by omega) (by omega)

theorem local_scanQuoted : Local scanQuoted where
  shrinks cs := (local_scanString_of_fuel _).shrinks cs
  follows := by
    intro x y hxy u
    -- Both scans may have as many steps as the longer text needs.
    have hx : scanQuoted (u ++ x) = scanString (x.length + y.length + u.length + 1) (u ++ x) :=
      scanString_congr (Nat.lt_succ_self _) (by rw [List.length_append]; omega)
    have hy : scanQuoted (u ++ y) = scanString (x.length + y.length + u.length + 1) (u ++ y) :=
      scanString_congr (Nat.lt_succ_self _) (by rw [List.length_append]; omega)
    rw [hx, hy]
    exact (local_scanString_of_fuel _).follows hxy u

theorem local_scanBare : Local scanBare := by
  have hnumber : Respects fun c => c == '-' || c.isDigit :=
    respects_of_ascii fun c hc => by
      rcases Bool.or_eq_true _ _ ▸ hc with h | h
      · rw [eq_of_beq h]
        decide
      · exact toNat_lt_of_isDigit h
  exact local_scanNumber.ifSeen hnumber ((local_scanWord rfl).ifSeen (respects_eq (by decide))
    ((local_scanWord rfl).ifSeen (respects_eq (by decide))
      ((local_scanWord rfl).ifSeen (respects_eq (by decide)) local_stop rfl) rfl) rfl) rfl

theorem Local.enter (h : Local scan) (limit depth : Nat) {closing : Char} (hclosing : closing.toNat < 128) :
    Local (enter limit depth closing scan) := by
  rw [Json.enter]
  by_cases hdeep : limit < depth + 1
  · rw [if_pos hdeep]
    exact local_tooDeep
  · rw [if_neg hdeep]
    exact local_takeBlanks.bind (local_ok.ifTaken (respects_eq hclosing) h)

theorem Local.afterElement (h : Local scan) {closing : Char} (hclosing : closing.toNat < 128) :
    Local (afterElement closing scan) :=
  local_takeBlanks.bind ((local_takeBlanks.bind h).ifTaken (respects_eq (by decide))
    (local_ok.ifTaken (respects_eq hclosing) local_stop))

/-- All scans with this bound of the steps look ahead by one character only. -/
structure Locals (limit fuel : Nat) : Prop where
  value : ∀ depth, Local (scanValue limit fuel depth)
  items : ∀ depth, Local (scanItems limit fuel depth)
  members : ∀ depth, Local (scanMembers limit fuel depth)

theorem locals (limit fuel : Nat) : Locals limit fuel := by
  induction fuel with
  | zero => exact ⟨fun _ => local_stop, fun _ => local_stop, fun _ => local_stop⟩
  | succ fuel ih =>
      refine ⟨fun depth => ?_, fun depth => ?_, fun depth => ?_⟩
      · rw [scanValue_succ]
        exact ((ih.members _).enter limit depth (by decide)).ifTaken (respects_eq (by decide))
          (((ih.items _).enter limit depth (by decide)).ifTaken (respects_eq (by decide))
            (local_scanQuoted.ifTaken (respects_eq (by decide)) local_scanBare))
      · rw [scanItems_succ]
        exact (ih.value depth).bind ((ih.items depth).afterElement (by decide))
      · have hvalue : Local fun cs => takeBlanks cs >>= fun cs => scanValue limit fuel depth cs >>=
            afterElement '}' (scanMembers limit fuel depth) :=
          local_takeBlanks.bind ((ih.value depth).bind ((ih.members depth).afterElement (by decide)))
        rw [scanMembers_succ]
        exact (local_scanQuoted.bind (local_takeBlanks.bind
          (hvalue.ifTaken (respects_eq (by decide)) local_stop))).ifTaken (respects_eq (by decide)) local_stop

/-- With this bound of the steps, or a larger one, the bound is never reached. -/
structure Enough (limit fuel : Nat) : Prop where
  value : ∀ {depth cs fuel'}, 2 * cs.length < fuel → 2 * cs.length < fuel' →
    scanValue limit fuel depth cs = scanValue limit fuel' depth cs
  items : ∀ {depth cs fuel'}, 2 * cs.length + 1 < fuel → 2 * cs.length + 1 < fuel' →
    scanItems limit fuel depth cs = scanItems limit fuel' depth cs
  members : ∀ {depth cs fuel'}, 2 * cs.length + 1 < fuel → 2 * cs.length + 1 < fuel' →
    scanMembers limit fuel depth cs = scanMembers limit fuel' depth cs

theorem enter_congr {limit depth : Nat} {closing : Char}
    (h : ∀ mid, mid.length ≤ cs.length → scan mid = scan' mid) :
    enter limit depth closing scan cs = enter limit depth closing scan' cs := by
  rw [Json.enter, Json.enter]
  by_cases hdeep : limit < depth + 1
  · rw [if_pos hdeep, if_pos hdeep]
  · rw [if_neg hdeep, if_neg hdeep]
    exact bind_congr local_takeBlanks fun mid hmid => ifTaken_congr (fun _ _ _ => rfl) (h mid hmid)

theorem afterElement_congr {closing : Char} (h : ∀ mid, mid.length < cs.length → scan mid = scan' mid) :
    afterElement closing scan cs = afterElement closing scan' cs := by
  refine bind_congr local_takeBlanks fun mid hmid => ifTaken_congr (fun c rest hrest => ?_) rfl
  refine bind_congr local_takeBlanks fun last hlast => h last ?_
  rw [hrest, List.length_cons] at hmid
  omega

theorem enough (limit fuel : Nat) : Enough limit fuel := by
  induction fuel with
  | zero => refine ⟨fun h => ?_, fun h => ?_, fun h => ?_⟩ <;> exact absurd h (Nat.not_lt_zero _)
  | succ fuel ih =>
      refine ⟨fun {depth cs fuel'} h h' => ?_, fun {depth cs fuel'} h h' => ?_, fun {depth cs fuel'} h h' => ?_⟩
      · obtain ⟨fuel', rfl⟩ := Nat.exists_eq_succ_of_ne_zero (Nat.ne_zero_of_lt h')
        rw [scanValue_succ, scanValue_succ]
        refine ifTaken_congr (fun c rest hcs => ?_) (ifTaken_congr (fun c rest hcs => ?_) rfl)
        · rw [hcs, List.length_cons] at h h'
          exact enter_congr fun mid hmid => ih.members (by omega) (by omega)
        · rw [hcs, List.length_cons] at h h'
          exact enter_congr fun mid hmid => ih.items (by omega) (by omega)
      · obtain ⟨fuel', rfl⟩ := Nat.exists_eq_succ_of_ne_zero (Nat.ne_zero_of_lt h')
        rw [scanItems_succ, scanItems_succ]
        dsimp only
        rw [ih.value (show 2 * cs.length < fuel by omega) (show 2 * cs.length < fuel' by omega)]
        refine bind_congr ((locals limit fuel').value depth) fun mid hmid => afterElement_congr fun last hlast => ?_
        exact ih.items (by omega) (by omega)
      · obtain ⟨fuel', rfl⟩ := Nat.exists_eq_succ_of_ne_zero (Nat.ne_zero_of_lt h')
        rw [scanMembers_succ, scanMembers_succ]
        refine ifTaken_congr (fun c rest hcs => ?_) rfl
        rw [hcs, List.length_cons] at h h'
        refine bind_congr local_scanQuoted fun name hname => bind_congr local_takeBlanks fun mid hmid => ?_
        refine ifTaken_congr (fun c colon hcolon => ?_) rfl
        rw [hcolon, List.length_cons] at hmid
        refine bind_congr local_takeBlanks fun value hvalue => ?_
        rw [ih.value (show 2 * value.length < fuel by omega) (show 2 * value.length < fuel' by omega)]
        refine bind_congr ((locals limit fuel').value depth) fun last hlast => afterElement_congr fun final hfinal => ?_
        exact ih.members (by omega) (by omega)

end Attest.Json

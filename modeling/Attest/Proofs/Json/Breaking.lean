import Attest.Proofs.Json.Lookahead

/-!
Where a scan breaks off. Up to there the text can still be completed: whatever a scan has taken off when it stops is
the beginning of a text of the grammar, within the limit. A scan that stops at a container too many stands where the
grammar has a value, with as many containers open as the limit allows, and it stops there whatever else is in the text.
-/

namespace Attest.Json

open Draft (skipBlanks)
open Grammar

namespace Grammar

/-! ### Where a value may stand -/

mutual

/-- The beginning of a value, up to where a value may stand inside it, with so many containers open. -/
inductive AwaitsValue : Nat → List Char → Prop
  | here : AwaitsValue 0 []
  | array {n p} (h : AwaitsItems n p) : AwaitsValue (n + 1) ('[' :: p)
  | object {n p} (h : AwaitsMembers n p) : AwaitsValue (n + 1) ('{' :: p)

/-- The same for items, some of which may be complete. -/
inductive AwaitsItems : Nat → List Char → Prop
  | here {n bs p} (hbs : Blanks bs) (h : AwaitsValue n p) : AwaitsItems n (bs ++ p)
  | later {m n first p} (hfirst : Element m first) (h : AwaitsItems n p) : AwaitsItems n (first ++ ',' :: p)

/-- The same for members; a value may stand only after a name. -/
inductive AwaitsMembers : Nat → List Char → Prop
  | here {n before name after bs p} (hbefore : Blanks before) (hname : StringText name) (hafter : Blanks after)
      (hbs : Blanks bs) (h : AwaitsValue n p) : AwaitsMembers n (before ++ (name ++ (after ++ ':' :: (bs ++ p))))
  | later {m n before name after first p} (hbefore : Blanks before) (hname : StringText name) (hafter : Blanks after)
      (hfirst : Element m first) (h : AwaitsMembers n p) :
      AwaitsMembers n (before ++ (name ++ (after ++ ':' :: (first ++ ',' :: p))))

end

/-- The beginning of a text, up to where a value may stand, with so many containers open. -/
def Awaits (n : Nat) (cs : List Char) : Prop :=
  ∃ bs p, Blanks bs ∧ AwaitsValue n p ∧ cs = bs ++ p

theorem AwaitsItems.blanks_append {n : Nat} {bs p : List Char} (hbs : Blanks bs) (h : AwaitsItems n p) :
    AwaitsItems n (bs ++ p) := by
  cases h with
  | here hbefore h =>
      rw [← List.append_assoc]
      exact .here (hbs.append hbefore) h
  | later hfirst h =>
      rw [← List.append_assoc]
      exact .later (hfirst.blanks_append hbs) h

theorem AwaitsMembers.blanks_append {n : Nat} {bs p : List Char} (hbs : Blanks bs) (h : AwaitsMembers n p) :
    AwaitsMembers n (bs ++ p) := by
  cases h with
  | here hbefore hname hafter hbs' h =>
      rw [← List.append_assoc]
      exact .here (hbs.append hbefore) hname hafter hbs' h
  | later hbefore hname hafter hfirst h =>
      rw [← List.append_assoc]
      exact .later (hbs.append hbefore) hname hafter hfirst h

end Grammar

/-! ### Beginnings of words, numbers and strings -/

/-- A scan that stopped had taken off the beginning of a text of this kind. -/
def Begins (kind : List Char → Prop) (stop : Stop) (cs : List Char) : Prop :=
  ∃ p rest s, stop = .before rest ∧ cs = p ++ rest ∧ kind (p ++ s)

theorem bind_eq_error_iff {x : Scan} {f : List Char → Scan} {stop : Stop} :
    (x >>= f) = .error stop ↔ x = .error stop ∨ ∃ mid, x = .ok mid ∧ f mid = .error stop := by
  cases x <;> simp [bind, Except.bind]

variable {cs rest : List Char} {stop : Stop}

theorem begins_of_scanWord {word : List Char} (h : scanWord word cs = .error stop) : Begins (· = word) stop cs := by
  induction word generalizing cs with
  | nil => cases h
  | cons w word ih =>
      cases cs with
      | nil => exact ⟨[], [], w :: word, (Except.error.inj h).symm, rfl, rfl⟩
      | cons c cs =>
          rw [scanWord] at h
          by_cases hc : c = w
          · rw [if_pos hc] at h
            obtain ⟨p, rest, s, hstop, rfl, rfl⟩ := ih h
            exact ⟨c :: p, rest, s, hstop, rfl, by rw [hc]; rfl⟩
          · rw [if_neg hc] at h
            exact ⟨[], c :: cs, w :: word, (Except.error.inj h).symm, rfl, rfl⟩

theorem digits_zero : Digits ['0'] :=
  ⟨List.cons_ne_nil _ _, fun c hc => by rw [List.mem_singleton.1 hc]; rfl⟩

theorem stop_of_scanDigits (h : scanDigits cs = .error stop) : stop = .before cs := by
  cases cs with
  | nil => exact (Except.error.inj h).symm
  | cons c cs =>
      rw [scanDigits] at h
      split at h
      · cases h
      · exact (Except.error.inj h).symm

theorem stop_of_scanWhole (h : scanWhole cs = .error stop) : stop = .before cs := by
  unfold scanWhole at h
  split at h
  · cases h
  · exact stop_of_scanDigits h

theorem begins_of_scanFraction (h : scanFraction cs = .error stop) : Begins Fraction stop cs := by
  unfold scanFraction at h
  split at h
  next rest => exact ⟨['.'], rest, ['0'], stop_of_scanDigits h, rfl, .digits digits_zero⟩
  next => cases h

theorem begins_of_scanExponent (h : scanExponent cs = .error stop) : Begins Exponent stop cs := by
  cases cs with
  | nil => cases h
  | cons c cs =>
      rw [scanExponent] at h
      by_cases hletter : c = 'e' ∨ c = 'E'
      · rw [if_pos hletter] at h
        obtain ⟨sign, hsign, heq⟩ := exists_sign cs
        refine ⟨c :: sign, dropSign cs, ['0'], stop_of_scanDigits h, ?_, .digits hletter hsign digits_zero⟩
        rw [List.cons_append, ← heq]
      · rw [if_neg hletter] at h
        cases h

theorem begins_of_scanNumber (h : scanNumber cs = .error stop) : Begins NumberText stop cs := by
  obtain ⟨minus, hminus, heq⟩ := exists_minus cs
  rw [scanNumber_eq, bind_eq_error_iff] at h
  obtain hwhole | ⟨afterWhole, hwhole, h⟩ := h
  · exact ⟨minus, dropMinus cs, _, stop_of_scanWhole hwhole, heq, .mk hminus .zero .absent .absent⟩
  · obtain ⟨w, hw, hcs⟩ := whole_of_scanWhole hwhole
    rw [hcs] at heq
    rw [bind_eq_error_iff] at h
    obtain hfraction | ⟨afterFraction, hfraction, hexponent⟩ := h
    · obtain ⟨f, rest, s, hstop, rfl, hf⟩ := begins_of_scanFraction hfraction
      refine ⟨minus ++ (w ++ f), rest, s ++ [], hstop, by rw [heq]; simp only [List.append_assoc], ?_⟩
      have hnumber := NumberText.mk hminus hw hf .absent
      simpa only [List.append_assoc] using hnumber
    · obtain ⟨f, hf, rfl⟩ := fraction_of_scanFraction hfraction
      obtain ⟨e, rest, s, hstop, rfl, he⟩ := begins_of_scanExponent hexponent
      refine ⟨minus ++ (w ++ (f ++ e)), rest, s, hstop, by rw [heq]; simp only [List.append_assoc], ?_⟩
      have hnumber := NumberText.mk hminus hw hf he
      simpa only [List.append_assoc] using hnumber

theorem begins_of_scanHex {n : Nat} (h : scanHex n cs = .error stop) :
    Begins (fun digits => digits.length = n ∧ ∀ c ∈ digits, IsHexDigit c) stop cs := by
  have hzeros (n : Nat) : (List.replicate n '0').length = n ∧ ∀ c ∈ List.replicate n '0', IsHexDigit c :=
    ⟨List.length_replicate, fun c hc => by rw [List.eq_of_mem_replicate hc]; exact .inl rfl⟩
  induction n generalizing cs with
  | zero => cases h
  | succ n ih =>
      cases cs with
      | nil => exact ⟨[], [], _, (Except.error.inj h).symm, rfl, hzeros (n + 1)⟩
      | cons c cs =>
          rw [scanHex] at h
          by_cases hc : (Draft.hexValue? c).isSome
          · rw [if_pos hc] at h
            obtain ⟨p, rest, s, hstop, rfl, hlength, hdigits⟩ := ih h
            refine ⟨c :: p, rest, s, hstop, rfl, ?_, ?_⟩
            · rw [List.cons_append, List.length_cons, hlength]
            · exact List.forall_mem_cons.2 ⟨isHexDigit_iff.1 hc, hdigits⟩
          · rw [if_neg hc] at h
            exact ⟨[], c :: cs, _, (Except.error.inj h).symm, rfl, hzeros (n + 1)⟩

theorem begins_of_scanString {fuel : Nat} (h : scanString fuel cs = .error stop) : Begins Pieces stop cs := by
  induction fuel generalizing cs with
  | zero => exact ⟨[], cs, [], (Except.error.inj h).symm, rfl, .nil⟩
  | succ fuel ih =>
      cases cs with
      | nil => exact ⟨[], [], [], (Except.error.inj h).symm, rfl, .nil⟩
      | cons c cs =>
          rw [scanString.eq_def] at h
          dsimp only at h
          split_ifs at h with hquote hslash hcontrol
          · subst hslash
            have hescape : Pieces (['\\', 'n'] ++ []) := .cons (.escape (by decide)) .nil
            cases cs with
            | nil => exact ⟨['\\'], [], ['n'], (Except.error.inj h).symm, rfl, hescape⟩
            | cons e cs =>
                simp only at h
                split_ifs at h with hsimple hunicode
                · obtain ⟨p, rest, s, hstop, rfl, hp⟩ := ih h
                  have hpieces : Pieces (['\\', e] ++ (p ++ s)) := .cons (.escape (isSimpleEscape_iff.1 hsimple)) hp
                  exact ⟨'\\' :: e :: p, rest, s, hstop, rfl, hpieces⟩
                · subst hunicode
                  cases hhex : scanHex 4 cs with
                  | error stop' =>
                      rw [hhex] at h
                      obtain rfl := Except.error.inj h
                      obtain ⟨p, rest, s, hstop, rfl, hlength, hdigits⟩ := begins_of_scanHex hhex
                      have hpieces := Pieces.cons (.unicode hlength hdigits) .nil
                      exact ⟨'\\' :: 'u' :: p, rest, s, hstop, rfl, by simpa using hpieces⟩
                  | ok afterHex =>
                      rw [hhex] at h
                      obtain ⟨digits, hlength, hdigits, rfl⟩ := scanHex_eq_ok_iff.1 hhex
                      obtain ⟨p, rest, s, hstop, rfl, hp⟩ := ih h
                      have hpieces := Pieces.cons (.unicode hlength hdigits) hp
                      exact ⟨'\\' :: 'u' :: (digits ++ p), rest, s, hstop, by simp, by simpa using hpieces⟩
                · exact ⟨['\\'], e :: cs, ['n'], (Except.error.inj h).symm, rfl, hescape⟩
          · exact ⟨[], c :: cs, [], (Except.error.inj h).symm, rfl, .nil⟩
          · obtain ⟨p, rest, s, hstop, rfl, hp⟩ := ih h
            have hpieces : Pieces ([c] ++ (p ++ s)) := .cons (.plain (Nat.le_of_not_lt hcontrol) hquote hslash) hp
            exact ⟨c :: p, rest, s, hstop, rfl, hpieces⟩

/-! ### Beginnings of values -/

/-- A scan stopped in front of what was left, or at a container that is too many for where it stands. -/
def Stop.At (stop : Stop) (rest : List Char) (full : Prop) : Prop :=
  match stop with
  | .before left => left = rest
  | .tooDeep => (∃ c t, rest = c :: t ∧ (c = '[' ∨ c = '{')) ∧ full

theorem Stop.At.imp {full full' : Prop} (h : stop.At rest full) (himp : full → full') : stop.At rest full' := by
  cases stop with
  | before left => exact h
  | tooDeep => exact ⟨h.1, himp h.2⟩

/-- Where a scan at a depth broke off: up to there the text begins one of this kind, which stays within the limit. -/
def Breaks (limit depth : Nat) (kind awaits : Nat → List Char → Prop) (stop : Stop) (cs : List Char) : Prop :=
  ∃ p rest s n, cs = p ++ rest ∧ kind n (p ++ s) ∧ depth + n ≤ limit ∧ stop.At rest (∃ n, awaits n p ∧ depth + n = limit)

theorem Begins.breaks {limit depth : Nat} {kind : List Char → Prop} {awaits : Nat → List Char → Prop}
    (h : Begins kind stop cs) (hkind : ∀ v, kind v → Value 0 v) (hdepth : depth ≤ limit) :
    Breaks limit depth Value awaits stop cs := by
  obtain ⟨p, rest, s, rfl, hcs, hp⟩ := h
  exact ⟨p, rest, s, 0, hcs, hkind _ hp, hdepth, rfl⟩

theorem value_zero : Value 0 ['0'] :=
  .number (.mk (.inl rfl) .zero .absent .absent)

theorem element_of_value {n : Nat} {v : List Char} (h : Value n v) : Element n v := by
  have helement : Element n ([] ++ (v ++ [])) := .mk blanks_nil h blanks_nil
  simpa using helement

theorem ifTaken_eq_error {test : Char → Bool} {taken left : List Char → Scan}
    (h : ifTaken test taken left cs = .error stop) :
    (∃ c rest, cs = c :: rest ∧ test c = true ∧ taken rest = .error stop) ∨ left cs = .error stop := by
  cases cs with
  | nil => exact .inr h
  | cons c rest =>
      rw [Json.ifTaken] at h
      by_cases hc : test c
      · rw [if_pos hc] at h
        exact .inl ⟨c, rest, rfl, hc, h⟩
      · rw [if_neg hc] at h
        exact .inr h

/-- After a container opens: it is too many, or what is inside breaks off. -/
theorem enter_eq_error {limit depth : Nat} {closing : Char} {inside : List Char → Scan}
    (h : enter limit depth closing inside cs = .error stop) :
    limit < depth + 1 ∧ stop = .tooDeep ∨
      depth + 1 ≤ limit ∧ inside (skipBlanks cs) = .error stop := by
  rw [enter] at h
  by_cases hdeep : limit < depth + 1
  · rw [if_pos hdeep] at h
    exact .inl ⟨hdeep, (Except.error.inj h).symm⟩
  · rw [if_neg hdeep] at h
    refine .inr ⟨Nat.le_of_not_lt hdeep, ?_⟩
    obtain ⟨c, rest, -, -, hok⟩ | hinside := ifTaken_eq_error (show ifTaken _ _ _ (skipBlanks cs) = .error stop from h)
    · cases hok
    · exact hinside

/-- After an element: there is a comma, and what comes next breaks off, or nothing can stand where something does. -/
theorem afterElement_eq_error {closing : Char} {more : List Char → Scan}
    (h : afterElement closing more cs = .error stop) :
    (∃ rest, skipBlanks cs = ',' :: rest ∧ more (skipBlanks rest) = .error stop) ∨
      stop = .before (skipBlanks cs) := by
  obtain ⟨c, rest, hcs, hc, hmore⟩ | hleft := ifTaken_eq_error (show ifTaken _ _ _ (skipBlanks cs) = .error stop from h)
  · obtain rfl := eq_of_beq hc
    exact .inl ⟨rest, hcs, hmore⟩
  · obtain ⟨c, rest, -, -, hok⟩ | hstop := ifTaken_eq_error hleft
    · cases hok
    · exact .inr (Except.error.inj hstop).symm

/-- All scans with this bound of the steps break off only where the text can still be completed. -/
structure Broken (limit fuel : Nat) : Prop where
  value : ∀ {depth cs stop}, depth ≤ limit → scanValue limit fuel depth cs = .error stop →
    Breaks limit depth Value AwaitsValue stop cs
  items : ∀ {depth cs stop}, depth ≤ limit → scanItems limit fuel depth cs = .error stop →
    Breaks limit depth Items AwaitsItems stop cs
  members : ∀ {depth cs stop}, depth ≤ limit → scanMembers limit fuel depth cs = .error stop →
    Breaks limit depth Members AwaitsMembers stop cs

namespace Broken

variable {limit fuel depth : Nat}

/-- A container that is too many, where a value may stand. -/
theorem value_deep {c : Char} (hc : c = '[' ∨ c = '{') (hdepth : depth ≤ limit) (hdeep : limit < depth + 1) :
    Breaks limit depth Value AwaitsValue .tooDeep (c :: cs) :=
  ⟨[], c :: cs, ['0'], 0, rfl, value_zero, hdepth, ⟨c, cs, rfl, hc⟩, 0, .here, by omega⟩

theorem of_scanBare (hdepth : depth ≤ limit) (hscan : scanBare cs = .error stop) :
    Breaks limit depth Value AwaitsValue stop cs := by
  cases cs with
  | nil =>
      obtain rfl := Except.error.inj hscan
      exact ⟨[], [], ['0'], 0, rfl, value_zero, hdepth, rfl⟩
  | cons c cs =>
      simp only [scanBare, ifSeen] at hscan
      split_ifs at hscan with hnumber htrue hfalse hnull
      · exact (begins_of_scanNumber hscan).breaks (fun _ hv => .number hv) hdepth
      · exact (begins_of_scanWord hscan).breaks (fun _ hv => .word (.inl hv)) hdepth
      · exact (begins_of_scanWord hscan).breaks (fun _ hv => .word (.inr (.inl hv))) hdepth
      · exact (begins_of_scanWord hscan).breaks (fun _ hv => .word (.inr (.inr hv))) hdepth
      · obtain rfl := Except.error.inj hscan
        exact ⟨[], c :: cs, ['0'], 0, rfl, value_zero, hdepth, rfl⟩

theorem value_succ (h : Broken limit fuel) (hdepth : depth ≤ limit)
    (hscan : scanValue limit (fuel + 1) depth cs = .error stop) : Breaks limit depth Value AwaitsValue stop cs := by
  rw [scanValue_succ] at hscan
  obtain ⟨c, body, rfl, hc, hobject⟩ | hscan := ifTaken_eq_error hscan
  · obtain rfl := eq_of_beq hc
    obtain ⟨hdeep, rfl⟩ | ⟨hdepth, hmembers⟩ := enter_eq_error hobject
    · exact value_deep (.inr rfl) hdepth hdeep
    · obtain ⟨bs, hbs, heq⟩ := exists_blanks body
      obtain ⟨p, rest, s, n, hp, hkind, hn, hstop⟩ := h.members hdepth hmembers
      refine ⟨'{' :: (bs ++ p), rest, s ++ ['}'], n + 1, ?_, ?_, by omega, hstop.imp ?_⟩
      · rw [heq, hp]
        simp
      · have hvalue := Value.object (hkind.blanks_append hbs)
        simpa using hvalue
      · rintro ⟨m, hm, hfull⟩
        exact ⟨m + 1, .object (hm.blanks_append hbs), by omega⟩
  · obtain ⟨c, body, rfl, hc, harray⟩ | hscan := ifTaken_eq_error hscan
    · obtain rfl := eq_of_beq hc
      obtain ⟨hdeep, rfl⟩ | ⟨hdepth, hitems⟩ := enter_eq_error harray
      · exact value_deep (.inl rfl) hdepth hdeep
      · obtain ⟨bs, hbs, heq⟩ := exists_blanks body
        obtain ⟨p, rest, s, n, hp, hkind, hn, hstop⟩ := h.items hdepth hitems
        refine ⟨'[' :: (bs ++ p), rest, s ++ [']'], n + 1, ?_, ?_, by omega, hstop.imp ?_⟩
        · rw [heq, hp]
          simp
        · have hvalue := Value.array (hkind.blanks_append hbs)
          simpa using hvalue
        · rintro ⟨m, hm, hfull⟩
          exact ⟨m + 1, .array (hm.blanks_append hbs), by omega⟩
    · obtain ⟨c, body, rfl, hc, hquoted⟩ | hbare := ifTaken_eq_error hscan
      · obtain rfl := eq_of_beq hc
        obtain ⟨p, rest, s, rfl, rfl, hp⟩ := begins_of_scanString hquoted
        have hvalue := Value.string (.mk hp)
        exact ⟨'"' :: p, rest, s ++ ['"'], 0, rfl, by simpa using hvalue, hdepth, rfl⟩
      · exact of_scanBare hdepth hbare

theorem items_succ (h : Broken limit fuel) (hdepth : depth ≤ limit)
    (hscan : scanItems limit (fuel + 1) depth cs = .error stop) : Breaks limit depth Items AwaitsItems stop cs := by
  rw [scanItems_succ] at hscan
  obtain hvalue | ⟨mid, hvalue, hafter⟩ := bind_eq_error_iff.1 hscan
  · obtain ⟨p, rest, s, n, hp, hkind, hn, hstop⟩ := h.value hdepth hvalue
    refine ⟨p, rest, s, n, hp, .last (element_of_value hkind), hn, hstop.imp ?_⟩
    rintro ⟨m, hm, hfull⟩
    exact ⟨m, .here blanks_nil hm, hfull⟩
  · obtain ⟨n, e, he, hn, rfl⟩ := (sound limit fuel).element hdepth hvalue
    obtain ⟨next, hcomma, hitems⟩ | rfl := afterElement_eq_error hafter
    · obtain ⟨bs, hbs, heq⟩ := exists_blanks next
      obtain ⟨p, rest, s, m, hp, hkind, hm, hstop⟩ := h.items hdepth hitems
      refine ⟨e ++ ',' :: (bs ++ p), rest, s, max n m, ?_, ?_, by omega, hstop.imp ?_⟩
      · rw [hcomma, heq, hp]
        simp
      · have hmore := Items.more he (hkind.blanks_append hbs)
        simpa using hmore
      · rintro ⟨k, hk, hfull⟩
        exact ⟨k, .later he (hk.blanks_append hbs), hfull⟩
    · exact ⟨e, skipBlanks mid, [], n, rfl, by rw [List.append_nil]; exact .last he, hn, rfl⟩

/-- Behind the colon of a member: its value breaks off, or what comes after the value does. -/
theorem member_value {name bs bs' rest : List Char} (h : Broken limit fuel) (hdepth : depth ≤ limit)
    (hname : Pieces name) (hbs : Blanks bs) (hbs' : Blanks bs')
    (hscan : (scanValue limit fuel depth rest >>= afterElement '}' (scanMembers limit fuel depth)) = .error stop) :
    Breaks limit depth Members AwaitsMembers stop ('"' :: (name ++ '"' :: (bs ++ ':' :: (bs' ++ rest)))) := by
  obtain hvalue | ⟨mid, hvalue, hafter⟩ := bind_eq_error_iff.1 hscan
  · obtain ⟨p, left, s, n, rfl, hkind, hn, hstop⟩ := h.value hdepth hvalue
    have hmembers := Members.last blanks_nil (.mk hname) hbs ((element_of_value hkind).blanks_append hbs')
    refine ⟨'"' :: (name ++ '"' :: (bs ++ ':' :: (bs' ++ p))), left, s, n, by simp, by simpa using hmembers, hn,
      hstop.imp ?_⟩
    rintro ⟨m, hm, hfull⟩
    have hawaits := AwaitsMembers.here blanks_nil (.mk hname) hbs hbs' hm
    exact ⟨m, by simpa using hawaits, hfull⟩
  · obtain ⟨n, e, he, hn, rfl⟩ := (sound limit fuel).element hdepth hvalue
    have he' := he.blanks_append hbs'
    obtain ⟨next, hcomma, hmore⟩ | rfl := afterElement_eq_error hafter
    · obtain ⟨bs'', hbs'', heq⟩ := exists_blanks next
      obtain ⟨p, left, s, m, hp, hkind, hm, hstop⟩ := h.members hdepth hmore
      have hmembers := Members.more blanks_nil (.mk hname) hbs he' (hkind.blanks_append hbs'')
      refine ⟨'"' :: (name ++ '"' :: (bs ++ ':' :: (bs' ++ (e ++ ',' :: (bs'' ++ p))))), left, s, max n m, ?_,
        by simpa using hmembers, by omega, hstop.imp ?_⟩
      · rw [hcomma, heq, hp]
        simp
      · rintro ⟨k, hk, hfull⟩
        have hawaits := AwaitsMembers.later blanks_nil (.mk hname) hbs he' (hk.blanks_append hbs'')
        exact ⟨k, by simpa using hawaits, hfull⟩
    · have hmembers := Members.last blanks_nil (.mk hname) hbs he'
      exact ⟨'"' :: (name ++ '"' :: (bs ++ ':' :: (bs' ++ e))), skipBlanks mid, [], n, by simp,
        by simpa using hmembers, hn, rfl⟩

theorem members_succ (h : Broken limit fuel) (hdepth : depth ≤ limit)
    (hscan : scanMembers limit (fuel + 1) depth cs = .error stop) :
    Breaks limit depth Members AwaitsMembers stop cs := by
  have hzero : Element 0 ['0'] := element_of_value value_zero
  rw [scanMembers_succ] at hscan
  obtain ⟨c, tail, rfl, hc, hmember⟩ | hstop := ifTaken_eq_error hscan
  · obtain rfl := eq_of_beq hc
    obtain hname | ⟨afterName, hname, hnamed⟩ := bind_eq_error_iff.1 hmember
    · -- The name breaks off.
      obtain ⟨p, rest, s, rfl, rfl, hp⟩ := begins_of_scanString hname
      have hmembers := Members.last blanks_nil (.mk hp) blanks_nil hzero
      exact ⟨'"' :: p, rest, s ++ ['"', ':', '0'], 0, rfl, by simpa using hmembers, hdepth, rfl⟩
    · obtain ⟨name, hpieces, rfl⟩ := string_of_scanString hname
      obtain ⟨bs, hbs, heq⟩ := exists_blanks afterName
      obtain ⟨c, afterColon, hcolon, hc, hpaired⟩ | hstop :=
        ifTaken_eq_error (show ifTaken _ _ _ (skipBlanks afterName) = .error stop from hnamed)
      · obtain rfl := eq_of_beq hc
        obtain ⟨bs', hbs', heq'⟩ := exists_blanks afterColon
        rw [heq, hcolon, heq']
        exact h.member_value hdepth hpieces hbs hbs' hpaired
      · -- There is no colon after the name.
        obtain rfl := Except.error.inj hstop
        have hmembers := Members.last blanks_nil (.mk hpieces) hbs hzero
        refine ⟨'"' :: (name ++ '"' :: bs), skipBlanks afterName, [':', '0'], 0, ?_, by simpa using hmembers, hdepth, rfl⟩
        rw [List.cons_append, List.append_assoc, List.cons_append, ← heq]
  · obtain rfl := Except.error.inj hstop
    have hmembers := Members.last blanks_nil (.mk .nil) blanks_nil hzero
    exact ⟨[], cs, ['"', '"', ':', '0'], 0, rfl, by simpa using hmembers, hdepth, rfl⟩

end Broken

theorem broken (limit fuel : Nat) : Broken limit fuel := by
  induction fuel with
  | zero =>
      refine ⟨fun hdepth h => ?_, fun hdepth h => ?_, fun hdepth h => ?_⟩
      · obtain rfl := Except.error.inj h
        exact ⟨[], _, ['0'], 0, rfl, value_zero, hdepth, rfl⟩
      · obtain rfl := Except.error.inj h
        exact ⟨[], _, ['0'], 0, rfl, .last (element_of_value value_zero), hdepth, rfl⟩
      · obtain rfl := Except.error.inj h
        have hmembers := Members.last blanks_nil (.mk .nil) blanks_nil (element_of_value value_zero)
        exact ⟨[], _, ['"', '"', ':', '0'], 0, rfl, by simpa using hmembers, hdepth, rfl⟩
  | succ fuel ih => exact ⟨ih.value_succ, ih.items_succ, ih.members_succ⟩

/-! ### Containers too many -/

/-- What has begun and goes on with a bracket starts with no blank. -/
theorem Grammar.AwaitsValue.skipBlanks_append {n : Nat} {p bs t : List Char} {c : Char} (h : AwaitsValue n p)
    (hc : c = '[' ∨ c = '{') (hbs : Blanks bs) : skipBlanks (bs ++ (p ++ c :: t)) = p ++ c :: t := by
  rw [Json.skipBlanks_append hbs]
  cases h with
  | here =>
      rcases hc with rfl | rfl
      · exact skipBlanks_cons rfl t
      · exact skipBlanks_cons rfl t
  | array _ | object _ => exact skipBlanks_cons rfl _

theorem Grammar.AwaitsItems.skipBlanks_append {n : Nat} {p t : List Char} {c : Char} (h : AwaitsItems n p)
    (hc : c = '[' ∨ c = '{') : ∃ d tail, skipBlanks (p ++ c :: t) = d :: tail ∧ Opens d := by
  cases h with
  | @here _ bs p hbs h =>
      rw [List.append_assoc, h.skipBlanks_append hc hbs]
      cases h with
      | here =>
          rcases hc with rfl | rfl
          · exact ⟨'[', t, rfl, .inr (.inl rfl)⟩
          · exact ⟨'{', t, rfl, .inl rfl⟩
      | array _ => exact ⟨'[', _, rfl, .inr (.inl rfl)⟩
      | object _ => exact ⟨'{', _, rfl, .inl rfl⟩
  | later hfirst _ =>
      rw [List.append_assoc]
      exact hfirst.skipBlanks_append _

theorem Grammar.AwaitsMembers.skipBlanks_append {n : Nat} {p : List Char} (h : AwaitsMembers n p) (t : List Char) :
    ∃ tail, skipBlanks (p ++ t) = '"' :: tail := by
  cases h with
  | here hbefore hname _ _ _ | later hbefore hname _ _ _ =>
      cases hname
      rw [List.append_assoc, Json.skipBlanks_append hbefore]
      exact ⟨_, rfl⟩

theorem outcome_bind_deep {limit depth n : Nat} {mid : List Char} {after : List Char → Scan}
    (h : after mid = .error .tooDeep) : (outcome limit depth n mid >>= after) = .error .tooDeep := by
  rcases Nat.lt_or_ge limit (depth + n) with hlt | hle
  · rw [outcome_of_lt hlt]
    rfl
  · rw [outcome_of_le hle]
    exact h

/-- With this bound of the steps scans stop at a container that is too many for where it stands. -/
structure Deep (limit fuel : Nat) : Prop where
  value : ∀ {depth n p c t}, AwaitsValue n p → depth + n = limit → (c = '[' ∨ c = '{') →
    2 * (p ++ c :: t).length ≤ fuel → scanValue limit fuel depth (p ++ c :: t) = .error .tooDeep
  items : ∀ {depth n p c t}, AwaitsItems n p → depth + n = limit → (c = '[' ∨ c = '{') →
    2 * (p ++ c :: t).length + 1 ≤ fuel → scanItems limit fuel depth (skipBlanks (p ++ c :: t)) = .error .tooDeep
  members : ∀ {depth n p c t}, AwaitsMembers n p → depth + n = limit → (c = '[' ∨ c = '{') →
    2 * (p ++ c :: t).length + 1 ≤ fuel → scanMembers limit fuel depth (skipBlanks (p ++ c :: t)) = .error .tooDeep

namespace Deep

variable {limit fuel depth n : Nat} {p t : List Char} {c : Char}

theorem value_succ (h : Deep limit fuel) (hp : AwaitsValue n p) (hdepth : depth + n = limit) (hc : c = '[' ∨ c = '{')
    (hfuel : 2 * (p ++ c :: t).length ≤ fuel + 1) :
    scanValue limit (fuel + 1) depth (p ++ c :: t) = .error .tooDeep := by
  cases hp with
  | here =>
      have hdeep : limit < depth + 1 := by omega
      rcases hc with rfl | rfl
      · exact scanValue_deep_array hdeep
      · exact scanValue_deep_object hdeep
  | array hitems =>
      rw [List.cons_append, List.length_cons] at hfuel
      rw [List.cons_append, scanValue_array (by omega) (hitems.skipBlanks_append hc)]
      exact h.items hitems (by omega) hc (by omega)
  | object hmembers =>
      rw [List.cons_append, List.length_cons] at hfuel
      rw [List.cons_append, scanValue_object (by omega) (hmembers.skipBlanks_append _)]
      exact h.members hmembers (by omega) hc (by omega)

theorem items_succ (h : Deep limit fuel) (hp : AwaitsItems n p) (hdepth : depth + n = limit) (hc : c = '[' ∨ c = '{')
    (hfuel : 2 * (p ++ c :: t).length + 1 ≤ fuel + 1) :
    scanItems limit (fuel + 1) depth (skipBlanks (p ++ c :: t)) = .error .tooDeep := by
  rw [scanItems_eq]
  cases hp with
  | @here _ bs p hbs hvalue =>
      rw [List.append_assoc, List.length_append] at hfuel
      have hdeep := h.value hvalue hdepth hc (show 2 * (p ++ c :: t).length ≤ fuel by omega)
      rw [List.append_assoc, hvalue.skipBlanks_append hc hbs, hdeep]
      rfl
  | @later m _ first p hfirst hrest =>
      -- The first element is read or is itself too deep.
      have hcloses : Closes (',' :: (p ++ c :: t)) := fun d hd => .inl (Option.some.inj hd).symm
      rw [List.append_assoc, List.cons_append, List.length_append, List.length_cons] at hfuel
      obtain ⟨mid, hvalue, hmid⟩ := (complete limit (3 * first.length + 1)).element hfirst (Nat.le_refl _)
        (show 2 * first.length ≤ fuel by omega) (by omega : depth ≤ limit) hcloses
      rw [List.append_assoc, List.cons_append, hvalue]
      refine outcome_bind_deep ?_
      rw [hmid]
      exact h.items hrest hdepth hc (by omega)

theorem members_succ (h : Deep limit fuel) (hp : AwaitsMembers n p) (hdepth : depth + n = limit)
    (hc : c = '[' ∨ c = '{') (hfuel : 2 * (p ++ c :: t).length + 1 ≤ fuel + 1) :
    scanMembers limit (fuel + 1) depth (skipBlanks (p ++ c :: t)) = .error .tooDeep := by
  cases hp with
  | @here _ before name after bs p hbefore hname hafter hbs hvalue =>
      have hsplit : before ++ (name ++ (after ++ ':' :: (bs ++ p))) ++ c :: t =
          before ++ (name ++ (after ++ ':' :: (bs ++ (p ++ c :: t)))) := by simp
      rw [hsplit] at hfuel ⊢
      simp only [List.length_append, List.length_cons] at hfuel
      have hdeep := h.value hvalue hdepth hc
        (show 2 * (p ++ c :: t).length ≤ fuel by simp only [List.length_append, List.length_cons]; omega)
      rw [scanMembers_eq hbefore hname hafter, hvalue.skipBlanks_append hc hbs, hdeep]
      rfl
  | @later m _ before name after first p hbefore hname hafter hfirst hrest =>
      have hcloses : Closes (',' :: (p ++ c :: t)) := fun d hd => .inl (Option.some.inj hd).symm
      have hsplit : before ++ (name ++ (after ++ ':' :: (first ++ ',' :: p))) ++ c :: t =
          before ++ (name ++ (after ++ ':' :: (first ++ ',' :: (p ++ c :: t)))) := by simp
      rw [hsplit] at hfuel ⊢
      simp only [List.length_append, List.length_cons] at hfuel
      obtain ⟨mid, hvalue, hmid⟩ := (complete limit (3 * first.length + 1)).element hfirst (Nat.le_refl _)
        (show 2 * first.length ≤ fuel by omega) (by omega : depth ≤ limit) hcloses
      rw [scanMembers_eq hbefore hname hafter, hvalue]
      refine outcome_bind_deep ?_
      rw [hmid]
      exact h.members hrest hdepth hc (by simp only [List.length_append, List.length_cons]; omega)

end Deep

theorem deep (limit fuel : Nat) : Deep limit fuel := by
  induction fuel with
  | zero =>
      have hpos (p t : List Char) (c : Char) : 0 < (p ++ c :: t).length := by
        rw [List.length_append, List.length_cons]
        omega
      refine ⟨fun {_ _ p c t} _ _ _ h => ?_, fun _ _ _ h => ?_, fun _ _ _ h => ?_⟩
      · have := hpos p t c
        omega
      · omega
      · omega
  | succ fuel ih => exact ⟨ih.value_succ, ih.items_succ, ih.members_succ⟩

end Attest.Json

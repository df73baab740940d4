import Attest.Proofs.Json.Scan

/-!
Recognition is exact: the texts that are recognized are those of the grammar, up to the limit on how deep containers
are nested.

What a scan of a value takes off a text is a value that stays within the limit, by induction on the bound of the
steps. For the other direction the induction is on how a text comes out of the grammar. The scan of a value then
finds after it whatever stands there, and has to stop in front of it; no bound of the steps is ever reached, since
each step that does not take a character is followed by one that does.
-/

namespace Attest.Json

open Draft (skipBlanks)
open Grammar

/-! ### What is taken off a text -/

/-- Scans with this bound of the steps take off only what the grammar has, within the limit. -/
structure Sound (limit fuel : Nat) : Prop where
  value : ∀ {depth cs rest}, depth ≤ limit → scanValue limit fuel depth cs = .ok rest →
    ∃ n v, Value n v ∧ depth + n ≤ limit ∧ cs = v ++ rest
  items : ∀ {depth cs rest}, depth ≤ limit → scanItems limit fuel depth cs = .ok rest →
    ∃ n body, Items n body ∧ depth + n ≤ limit ∧ cs = body ++ ']' :: rest
  members : ∀ {depth cs rest}, depth ≤ limit → scanMembers limit fuel depth cs = .ok rest →
    ∃ n body, Members n body ∧ depth + n ≤ limit ∧ cs = body ++ '}' :: rest

namespace Sound

variable {limit fuel depth : Nat} {cs rest : List Char}

theorem object_succ (h : Sound limit fuel) (hdepth : depth + 1 ≤ limit)
    (hscan : (match skipBlanks cs with
      | '}' :: rest => .ok rest
      | rest => scanMembers limit fuel (depth + 1) rest : Scan) = .ok rest) :
    ∃ n v, Value n v ∧ depth + n ≤ limit ∧ '{' :: cs = v ++ rest := by
  obtain ⟨bs, hbs, heq⟩ := exists_blanks cs
  split at hscan
  next hclose =>
    obtain rfl := Except.ok.inj hscan
    refine ⟨1, _, .emptyObject hbs, hdepth, ?_⟩
    rw [heq, hclose]
    simp
  next =>
    obtain ⟨n, body, hbody, hn, hbodies⟩ := h.members hdepth hscan
    refine ⟨n + 1, _, .object (hbody.blanks_append hbs), by omega, ?_⟩
    rw [heq, hbodies]
    simp

theorem array_succ (h : Sound limit fuel) (hdepth : depth + 1 ≤ limit)
    (hscan : (match skipBlanks cs with
      | ']' :: rest => .ok rest
      | rest => scanItems limit fuel (depth + 1) rest : Scan) = .ok rest) :
    ∃ n v, Value n v ∧ depth + n ≤ limit ∧ '[' :: cs = v ++ rest := by
  obtain ⟨bs, hbs, heq⟩ := exists_blanks cs
  split at hscan
  next hclose =>
    obtain rfl := Except.ok.inj hscan
    refine ⟨1, _, .emptyArray hbs, hdepth, ?_⟩
    rw [heq, hclose]
    simp
  next =>
    obtain ⟨n, body, hbody, hn, hbodies⟩ := h.items hdepth hscan
    refine ⟨n + 1, _, .array (hbody.blanks_append hbs), by omega, ?_⟩
    rw [heq, hbodies]
    simp

theorem value_succ (h : Sound limit fuel) (hdepth : depth ≤ limit)
    (hscan : scanValue limit (fuel + 1) depth cs = .ok rest) :
    ∃ n v, Value n v ∧ depth + n ≤ limit ∧ cs = v ++ rest := by
  cases cs with
  | nil => cases hscan
  | cons c cs =>
      rw [scanValue.eq_def] at hscan
      dsimp only at hscan
      split_ifs at hscan with hbrace hdeep hbracket hdeep hquote hnumber ht hf hn
      · rw [hbrace]
        exact h.object_succ (Nat.le_of_not_lt hdeep) hscan
      · rw [hbracket]
        exact h.array_succ (Nat.le_of_not_lt hdeep) hscan
      · obtain ⟨body, hbody, rfl⟩ := string_of_scanString hscan
        refine ⟨0, _, .string (.mk hbody), hdepth, ?_⟩
        rw [hquote]
        simp
      · obtain ⟨n, hn, heq⟩ := number_of_scanNumber hscan
        exact ⟨0, n, .number hn, hdepth, heq⟩
      · exact ⟨0, _, .word (.inl rfl), hdepth, scanWord_eq_ok_iff.1 hscan⟩
      · exact ⟨0, _, .word (.inr (.inl rfl)), hdepth, scanWord_eq_ok_iff.1 hscan⟩
      · exact ⟨0, _, .word (.inr (.inr rfl)), hdepth, scanWord_eq_ok_iff.1 hscan⟩

/-- An element, taken off with the blanks after it. -/
theorem element (h : Sound limit fuel) (hdepth : depth ≤ limit) (hscan : scanValue limit fuel depth cs = .ok rest) :
    ∃ n e, Element n e ∧ depth + n ≤ limit ∧ cs = e ++ skipBlanks rest := by
  obtain ⟨n, v, hv, hn, rfl⟩ := h.value hdepth hscan
  obtain ⟨bs, hbs, heq⟩ := exists_blanks rest
  refine ⟨n, [] ++ (v ++ bs), .mk blanks_nil hv hbs, hn, ?_⟩
  rw [List.nil_append, List.append_assoc, ← heq]

theorem items_succ (h : Sound limit fuel) (hdepth : depth ≤ limit)
    (hscan : scanItems limit (fuel + 1) depth cs = .ok rest) :
    ∃ n body, Items n body ∧ depth + n ≤ limit ∧ cs = body ++ ']' :: rest := by
  rw [scanItems, bind_eq_ok_iff] at hscan
  obtain ⟨mid, hvalue, hmid⟩ := hscan
  obtain ⟨n, e, he, hn, rfl⟩ := h.element hdepth hvalue
  split at hmid
  next next hcomma =>
    obtain ⟨bs, hbs, heq⟩ := exists_blanks next
    obtain ⟨m, body, hbody, hm, hbodies⟩ := h.items hdepth hmid
    refine ⟨max n m, _, .more he (hbody.blanks_append hbs), by omega, ?_⟩
    rw [hcomma, heq, hbodies]
    simp
  next next hclose =>
    obtain rfl := Except.ok.inj hmid
    exact ⟨n, e, .last he, hn, by rw [hclose]⟩
  next => cases hmid

theorem members_succ (h : Sound limit fuel) (hdepth : depth ≤ limit)
    (hscan : scanMembers limit (fuel + 1) depth cs = .ok rest) :
    ∃ n body, Members n body ∧ depth + n ≤ limit ∧ cs = body ++ '}' :: rest := by
  rw [scanMembers.eq_def] at hscan
  dsimp only at hscan
  split at hscan
  next tail =>
    rw [bind_eq_ok_iff] at hscan
    obtain ⟨afterName, hname, hscan⟩ := hscan
    obtain ⟨name, hpieces, rfl⟩ := string_of_scanString hname
    obtain ⟨bs, hbs, heq⟩ := exists_blanks afterName
    split at hscan
    next afterColon hcolon =>
      obtain ⟨bs', hbs', heq'⟩ := exists_blanks afterColon
      rw [bind_eq_ok_iff] at hscan
      obtain ⟨mid, hvalue, hmid⟩ := hscan
      obtain ⟨n, e, he, hn, hsplit⟩ := h.element hdepth hvalue
      have hall : '"' :: (name ++ '"' :: afterName) =
          [] ++ (('"' :: (name ++ ['"'])) ++ (bs ++ ':' :: ((bs' ++ e) ++ skipBlanks mid))) := by
        rw [heq, hcolon, heq', hsplit]
        simp
      rw [hall]
      split at hmid
      next next hcomma =>
        obtain ⟨bs'', hbs'', heq''⟩ := exists_blanks next
        obtain ⟨m, body, hbody, hm, hbodies⟩ := h.members hdepth hmid
        refine ⟨max n m, _, .more blanks_nil (.mk hpieces) hbs (he.blanks_append hbs') (hbody.blanks_append hbs''),
          by omega, ?_⟩
        rw [hcomma, heq'', hbodies]
        simp
      next next hclose =>
        obtain rfl := Except.ok.inj hmid
        refine ⟨n, _, .last blanks_nil (.mk hpieces) hbs (he.blanks_append hbs'), hn, ?_⟩
        rw [hclose]
        simp
      next => cases hmid
    next => cases hscan
  next => cases hscan

end Sound

theorem sound (limit fuel : Nat) : Sound limit fuel := by
  induction fuel with
  | zero => refine ⟨?_, ?_, ?_⟩ <;> intro _ _ _ _ h <;> cases h
  | succ fuel ih => exact ⟨ih.value_succ, ih.items_succ, ih.members_succ⟩

/-! ### What is found -/

/-- What may follow an element: a comma, a closing bracket or brace, or the end of the text. -/
def Closes (rest : List Char) : Prop :=
  ∀ c ∈ rest.head?, c = ',' ∨ c = ']' ∨ c = '}'

theorem Closes.skipBlanks_eq {rest : List Char} (h : Closes rest) : skipBlanks rest = rest := by
  cases rest with
  | nil => rfl
  | cons c rest =>
      have hc : Draft.isBlank c = false := by
        rcases h c rfl with rfl | rfl | rfl <;> rfl
      exact skipBlanks_cons hc rest

theorem Closes.endsNumber {rest bs : List Char} (h : Closes rest) (hbs : Blanks bs) : EndsNumber (bs ++ rest) := by
  intro c hc
  cases bs with
  | nil => rcases h c hc with rfl | rfl | rfl <;> decide
  | cons b bs =>
      obtain rfl := Option.some.inj hc
      rcases hbs b List.mem_cons_self with rfl | rfl | rfl | rfl <;> decide

/-- Past blanks an element starts with a character that opens a value. -/
theorem Grammar.Element.skipBlanks_append {n : Nat} {cs : List Char} (h : Element n cs) (rest : List Char) :
    ∃ c tail, skipBlanks (cs ++ rest) = c :: tail ∧ Opens c := by
  cases h with
  | @mk _ _ _ after hbefore hvalue _ =>
      obtain ⟨c, v, rfl, hc⟩ := hvalue.exists_cons
      refine ⟨c, v ++ after ++ rest, ?_, hc⟩
      rw [List.append_assoc, Json.skipBlanks_append hbefore, List.cons_append, List.cons_append,
        skipBlanks_cons (isBlank_of_opens hc)]

theorem Grammar.Items.skipBlanks_append {n : Nat} {cs : List Char} (h : Items n cs) (rest : List Char) :
    ∃ c tail, skipBlanks (cs ++ rest) = c :: tail ∧ Opens c := by
  cases h with
  | last h => exact h.skipBlanks_append rest
  | more hfirst _ =>
      rw [List.append_assoc]
      exact hfirst.skipBlanks_append _

theorem Grammar.Members.skipBlanks_append {n : Nat} {cs : List Char} (h : Members n cs) (rest : List Char) :
    ∃ tail, skipBlanks (cs ++ rest) = '"' :: tail := by
  cases h with
  | last hbefore hname _ _ | more hbefore hname _ _ _ =>
      cases hname
      rw [List.append_assoc, Json.skipBlanks_append hbefore]
      exact ⟨_, rfl⟩

/-! ### Single steps -/

/-- What a scan makes of a text of the grammar with this nesting: it stops at a container too many, or it leaves
what stands after the text. -/
def outcome (limit depth n : Nat) (rest : List Char) : Scan :=
  if depth + n ≤ limit then .ok rest else .error .tooDeep

section

variable {limit depth fuel n m : Nat} {cs mid rest bs : List Char}

theorem outcome_of_le (h : depth + n ≤ limit) : outcome limit depth n rest = .ok rest :=
  if_pos h

theorem outcome_of_lt (h : limit < depth + n) : outcome limit depth n rest = .error .tooDeep :=
  if_neg (Nat.not_le.2 h)

theorem outcome_succ : outcome limit (depth + 1) n rest = outcome limit depth (n + 1) rest := by
  rw [outcome, outcome, Nat.add_assoc, Nat.add_comm 1 n]

theorem outcome_bind_ok {f : List Char → Scan} (h : f mid = .ok rest) :
    (outcome limit depth n mid >>= f) = outcome limit depth n rest := by
  rcases Nat.lt_or_ge limit (depth + n) with hlt | hle
  · rw [outcome_of_lt hlt, outcome_of_lt hlt]
    rfl
  · rw [outcome_of_le hle, outcome_of_le hle]
    exact h

/-- One text after another is nested as deep as the deeper one. -/
theorem outcome_bind {f : List Char → Scan} (h : f mid = outcome limit depth n rest) :
    (outcome limit depth m mid >>= f) = outcome limit depth (max m n) rest := by
  rcases Nat.lt_or_ge limit (depth + m) with hlt | hle
  · rw [outcome_of_lt hlt, outcome_of_lt (by omega)]
    rfl
  · have hmax : outcome limit depth (max m n) rest = outcome limit depth n rest := by
      rcases Nat.lt_or_ge limit (depth + n) with hlt | hle'
      · rw [outcome_of_lt hlt, outcome_of_lt (by omega)]
      · rw [outcome_of_le hle', outcome_of_le (by omega)]
    rw [hmax, outcome_of_le hle]
    exact h

theorem scanValue_deep_array (h : limit < depth + 1) :
    scanValue limit (fuel + 1) depth ('[' :: cs) = .error .tooDeep := by
  rw [scanValue.eq_def]
  dsimp only
  rw [if_neg (by decide), if_pos rfl, if_pos h]

theorem scanValue_deep_object (h : limit < depth + 1) :
    scanValue limit (fuel + 1) depth ('{' :: cs) = .error .tooDeep := by
  rw [scanValue.eq_def]
  dsimp only
  rw [if_pos rfl, if_pos h]

theorem scanValue_array (hdepth : depth + 1 ≤ limit) (hopen : ∃ c tail, skipBlanks cs = c :: tail ∧ Opens c) :
    scanValue limit (fuel + 1) depth ('[' :: cs) = scanItems limit fuel (depth + 1) (skipBlanks cs) := by
  obtain ⟨c, tail, heq, hc⟩ := hopen
  rw [scanValue.eq_def]
  dsimp only
  rw [if_neg (by decide), if_pos rfl, if_neg (Nat.not_lt.2 hdepth), heq]
  split
  next hclose =>
    obtain ⟨rfl, -⟩ := List.cons.inj hclose
    rcases hc with h | h | h | h | h | h | h | h <;> cases h
  next => rfl

theorem scanValue_object (hdepth : depth + 1 ≤ limit) (hopen : ∃ tail, skipBlanks cs = '"' :: tail) :
    scanValue limit (fuel + 1) depth ('{' :: cs) = scanMembers limit fuel (depth + 1) (skipBlanks cs) := by
  obtain ⟨tail, heq⟩ := hopen
  rw [scanValue.eq_def]
  dsimp only
  rw [if_pos rfl, if_neg (Nat.not_lt.2 hdepth), heq]
  rfl

theorem scanValue_emptyArray (hdepth : depth + 1 ≤ limit) (hbs : Blanks bs) :
    scanValue limit (fuel + 1) depth ('[' :: (bs ++ ']' :: rest)) = .ok rest := by
  rw [scanValue.eq_def]
  dsimp only
  rw [if_neg (by decide), if_pos rfl, if_neg (Nat.not_lt.2 hdepth), Json.skipBlanks_append hbs, skipBlanks_cons rfl]
  rfl

theorem scanValue_emptyObject (hdepth : depth + 1 ≤ limit) (hbs : Blanks bs) :
    scanValue limit (fuel + 1) depth ('{' :: (bs ++ '}' :: rest)) = .ok rest := by
  rw [scanValue.eq_def]
  dsimp only
  rw [if_pos rfl, if_neg (Nat.not_lt.2 hdepth), Json.skipBlanks_append hbs, skipBlanks_cons rfl]
  rfl

theorem scanValue_string (h : StringText cs) (rest : List Char) :
    scanValue limit (fuel + 1) depth (cs ++ rest) = .ok rest := by
  cases h with
  | @mk body hbody =>
      have heq : '"' :: (body ++ ['"']) ++ rest = '"' :: (body ++ '"' :: rest) := by simp
      rw [heq, scanValue.eq_def]
      dsimp only
      rw [if_neg (by decide), if_neg (by decide), if_pos rfl]
      exact scanString_append hbody (by simp only [List.length_append, List.length_cons]; omega) rest

theorem scanValue_number (h : NumberText cs) (hrest : EndsNumber rest) :
    scanValue limit (fuel + 1) depth (cs ++ rest) = .ok rest := by
  have hscan := scanNumber_append h hrest
  obtain ⟨c, cs, rfl, hc⟩ := h.exists_cons
  have hne : c ≠ '{' ∧ c ≠ '[' ∧ c ≠ '"' := by
    refine ⟨?_, ?_, ?_⟩ <;> rintro rfl <;> exact absurd hc (by decide)
  rw [List.cons_append, scanValue.eq_def]
  dsimp only
  rw [if_neg hne.1, if_neg hne.2.1, if_neg hne.2.2, if_pos hc]
  exact hscan

theorem scanValue_word (h : cs = "true".toList ∨ cs = "false".toList ∨ cs = "null".toList) (rest : List Char) :
    scanValue limit (fuel + 1) depth (cs ++ rest) = .ok rest := by
  rcases h with rfl | rfl | rfl <;> rfl

/-- How a scan of items goes on with what stands after an item. -/
def nextItem (limit fuel depth : Nat) : List Char → Scan
  | ',' :: rest => scanItems limit fuel depth (skipBlanks rest)
  | ']' :: rest => .ok rest
  | rest => .error (.before rest)

/-- How a scan of members goes on with what stands after a member. -/
def nextMember (limit fuel depth : Nat) : List Char → Scan
  | ',' :: rest => scanMembers limit fuel depth (skipBlanks rest)
  | '}' :: rest => .ok rest
  | rest => .error (.before rest)

theorem scanItems_eq (cs : List Char) : scanItems limit (fuel + 1) depth cs =
    scanValue limit fuel depth cs >>= fun rest => nextItem limit fuel depth (skipBlanks rest) := rfl

theorem scanMembers_eq {before name after : List Char} (hbefore : Blanks before) (hname : StringText name)
    (hafter : Blanks after) (cs : List Char) :
    scanMembers limit (fuel + 1) depth (skipBlanks (before ++ (name ++ (after ++ ':' :: cs)))) =
      scanValue limit fuel depth (skipBlanks cs) >>= fun rest => nextMember limit fuel depth (skipBlanks rest) := by
  cases hname with
  | @mk body hbody =>
      have hskip : skipBlanks (before ++ ('"' :: (body ++ ['"']) ++ (after ++ ':' :: cs))) =
          '"' :: (body ++ '"' :: (after ++ ':' :: cs)) := by
        rw [Json.skipBlanks_append hbefore, List.cons_append, skipBlanks_cons rfl]
        simp
      have hscan : scanString ((body ++ '"' :: (after ++ ':' :: cs)).length + 1)
          (body ++ '"' :: (after ++ ':' :: cs)) = .ok (after ++ ':' :: cs) :=
        scanString_append hbody (by simp only [List.length_append, List.length_cons]; omega) _
      have hcolon : skipBlanks (after ++ ':' :: cs) = ':' :: cs := by
        rw [Json.skipBlanks_append hafter, skipBlanks_cons rfl]
      rw [hskip, scanMembers.eq_def]
      change (scanString ((body ++ '"' :: (after ++ ':' :: cs)).length + 1) (body ++ '"' :: (after ++ ':' :: cs)) >>=
        _ : Scan) = _
      rw [hscan]
      simp only [bind, Except.bind, hcolon]
      rfl

end

/-! ### All texts of the grammar -/

theorem Grammar.Value.length_pos {n : Nat} {cs : List Char} (h : Value n cs) : 0 < cs.length := by
  obtain ⟨c, cs, rfl, -⟩ := h.exists_cons
  exact Nat.succ_pos cs.length

/-- Scans come to the outcome for each text of the grammar up to this size. A text that is both a value and a list of
items counts as larger in the latter role, so that each role comes down to smaller ones. -/
structure Complete (limit size : Nat) : Prop where
  value : ∀ {n cs fuel depth rest}, Value n cs → 3 * cs.length ≤ size → 2 * cs.length ≤ fuel → depth ≤ limit →
    EndsNumber rest → scanValue limit fuel depth (cs ++ rest) = outcome limit depth n rest
  element : ∀ {n cs fuel depth rest}, Element n cs → 3 * cs.length + 1 ≤ size → 2 * cs.length ≤ fuel → depth ≤ limit →
    Closes rest → ∃ mid, scanValue limit fuel depth (skipBlanks (cs ++ rest)) = outcome limit depth n mid ∧
      skipBlanks mid = rest
  items : ∀ {n cs fuel depth}, Items n cs → 3 * cs.length + 2 ≤ size → 2 * cs.length + 1 ≤ fuel → depth ≤ limit →
    ∀ rest, scanItems limit fuel depth (skipBlanks (cs ++ ']' :: rest)) = outcome limit depth n rest
  members : ∀ {n cs fuel depth}, Members n cs → 3 * cs.length + 2 ≤ size → 2 * cs.length + 1 ≤ fuel → depth ≤ limit →
    ∀ rest, scanMembers limit fuel depth (skipBlanks (cs ++ '}' :: rest)) = outcome limit depth n rest

namespace Complete

variable {limit size fuel depth n : Nat} {cs rest : List Char}

theorem value_succ (h : Complete limit size) (hvalue : Value n cs) (hsize : 3 * cs.length ≤ size + 1)
    (hfuel : 2 * cs.length ≤ fuel) (hdepth : depth ≤ limit) (hrest : EndsNumber rest) :
    scanValue limit fuel depth (cs ++ rest) = outcome limit depth n rest := by
  have hpos := hvalue.length_pos
  obtain ⟨fuel, rfl⟩ := Nat.exists_eq_succ_of_ne_zero (by omega : fuel ≠ 0)
  have hbracket (opening closing : Char) (body : List Char) :
      opening :: (body ++ [closing]) ++ rest = opening :: (body ++ closing :: rest) := by simp
  cases hvalue with
  | word hword => rw [outcome_of_le hdepth, scanValue_word hword]
  | number hnumber => rw [outcome_of_le hdepth, scanValue_number hnumber hrest]
  | string hstring => rw [outcome_of_le hdepth, scanValue_string hstring]
  | emptyArray hbs =>
      rw [hbracket]
      rcases Nat.lt_or_ge limit (depth + 1) with hdeep | hdepth
      · rw [scanValue_deep_array hdeep, outcome_of_lt hdeep]
      · rw [scanValue_emptyArray hdepth hbs, outcome_of_le hdepth]
  | array hitems =>
      simp only [List.length_cons, List.length_append, List.length_nil] at hfuel hsize
      rw [hbracket]
      rcases Nat.lt_or_ge limit (depth + 1) with hdeep | hdepth
      · rw [scanValue_deep_array hdeep, outcome_of_lt (by omega)]
      · rw [scanValue_array hdepth (hitems.skipBlanks_append _), ← outcome_succ]
        exact h.items hitems (by omega) (by omega) hdepth rest
  | emptyObject hbs =>
      rw [hbracket]
      rcases Nat.lt_or_ge limit (depth + 1) with hdeep | hdepth
      · rw [scanValue_deep_object hdeep, outcome_of_lt hdeep]
      · rw [scanValue_emptyObject hdepth hbs, outcome_of_le hdepth]
  | object hmembers =>
      simp only [List.length_cons, List.length_append, List.length_nil] at hfuel hsize
      rw [hbracket]
      rcases Nat.lt_or_ge limit (depth + 1) with hdeep | hdepth
      · rw [scanValue_deep_object hdeep, outcome_of_lt (by omega)]
      · rw [scanValue_object hdepth (hmembers.skipBlanks_append _), ← outcome_succ]
        exact h.members hmembers (by omega) (by omega) hdepth rest

theorem element_succ (h : Complete limit size) (helement : Element n cs) (hsize : 3 * cs.length + 1 ≤ size + 1)
    (hfuel : 2 * cs.length ≤ fuel) (hdepth : depth ≤ limit) (hrest : Closes rest) :
    ∃ mid, scanValue limit fuel depth (skipBlanks (cs ++ rest)) = outcome limit depth n mid ∧
      skipBlanks mid = rest := by
  cases helement with
  | @mk n before cs after hbefore hvalue hafter =>
      simp only [List.length_append] at hfuel hsize
      have hscan : scanValue limit fuel depth (cs ++ (after ++ rest)) = outcome limit depth n (after ++ rest) :=
        h.value hvalue (by omega) (by omega) hdepth (hrest.endsNumber hafter)
      -- The value starts with no blank, so the blanks that are skipped are those before it.
      obtain ⟨c, tail, rfl, hc⟩ := hvalue.exists_cons
      refine ⟨after ++ rest, ?_, ?_⟩
      · rw [List.append_assoc, Json.skipBlanks_append hbefore, List.append_assoc, List.cons_append,
          skipBlanks_cons (isBlank_of_opens hc)]
        exact hscan
      · rw [Json.skipBlanks_append hafter, hrest.skipBlanks_eq]

theorem items_succ (h : Complete limit size) (hitems : Items n cs) (hsize : 3 * cs.length + 2 ≤ size + 1)
    (hfuel : 2 * cs.length + 1 ≤ fuel) (hdepth : depth ≤ limit) (rest : List Char) :
    scanItems limit fuel depth (skipBlanks (cs ++ ']' :: rest)) = outcome limit depth n rest := by
  obtain ⟨fuel, rfl⟩ := Nat.exists_eq_succ_of_ne_zero (by omega : fuel ≠ 0)
  rw [scanItems_eq]
  cases hitems with
  | last helement =>
      have hcloses : Closes (']' :: rest) := fun c hc => .inr (.inl (Option.some.inj hc).symm)
      obtain ⟨mid, hvalue, hmid⟩ := h.element helement (by omega) (by omega : _ ≤ fuel) hdepth hcloses
      rw [hvalue]
      refine outcome_bind_ok ?_
      rw [hmid]
      rfl
  | @more m n first others hfirst hrest =>
      have hcloses : Closes (',' :: (others ++ ']' :: rest)) := fun c hc => .inl (Option.some.inj hc).symm
      simp only [List.length_append, List.length_cons] at hfuel hsize
      obtain ⟨mid, hvalue, hmid⟩ := h.element hfirst (by omega) (by omega : _ ≤ fuel) hdepth hcloses
      rw [List.append_assoc, List.cons_append, hvalue]
      refine outcome_bind ?_
      rw [hmid]
      exact h.items hrest (by omega) (by omega) hdepth rest

theorem members_succ (h : Complete limit size) (hmembers : Members n cs) (hsize : 3 * cs.length + 2 ≤ size + 1)
    (hfuel : 2 * cs.length + 1 ≤ fuel) (hdepth : depth ≤ limit) (rest : List Char) :
    scanMembers limit fuel depth (skipBlanks (cs ++ '}' :: rest)) = outcome limit depth n rest := by
  obtain ⟨fuel, rfl⟩ := Nat.exists_eq_succ_of_ne_zero (by omega : fuel ≠ 0)
  cases hmembers with
  | @last n before name after cs hbefore hname hafter helement =>
      have hcloses : Closes ('}' :: rest) := fun c hc => .inr (.inr (Option.some.inj hc).symm)
      have hsplit : before ++ (name ++ (after ++ ':' :: cs)) ++ '}' :: rest =
          before ++ (name ++ (after ++ ':' :: (cs ++ '}' :: rest))) := by simp
      simp only [List.length_append, List.length_cons] at hfuel hsize
      obtain ⟨mid, hvalue, hmid⟩ := h.element helement (by omega) (by omega : _ ≤ fuel) hdepth hcloses
      rw [hsplit, scanMembers_eq hbefore hname hafter, hvalue]
      refine outcome_bind_ok ?_
      rw [hmid]
      rfl
  | @more m n before name after first others hbefore hname hafter hfirst hrest =>
      have hcloses : Closes (',' :: (others ++ '}' :: rest)) := fun c hc => .inl (Option.some.inj hc).symm
      have hsplit : before ++ (name ++ (after ++ ':' :: (first ++ ',' :: others))) ++ '}' :: rest =
          before ++ (name ++ (after ++ ':' :: (first ++ ',' :: (others ++ '}' :: rest)))) := by simp
      simp only [List.length_append, List.length_cons] at hfuel hsize
      obtain ⟨mid, hvalue, hmid⟩ := h.element hfirst (by omega) (by omega : _ ≤ fuel) hdepth hcloses
      rw [hsplit, scanMembers_eq hbefore hname hafter, hvalue]
      refine outcome_bind ?_
      rw [hmid]
      exact h.members hrest (by omega) (by omega) hdepth rest

end Complete

theorem complete (limit size : Nat) : Complete limit size := by
  induction size with
  | zero =>
      refine ⟨fun h hsize => ?_, fun _ hsize => ?_, fun _ hsize => ?_, fun _ hsize => ?_⟩
      · have hpos := h.length_pos
        omega
      all_goals omega
  | succ size ih => exact ⟨ih.value_succ, ih.element_succ, ih.items_succ, ih.members_succ⟩

/-! ### Whole texts -/

/-- What passes the check is an element within the limit. -/
theorem element_of_checkText {text : String} {limit : Nat} (h : checkText text limit = .ok ()) :
    ∃ n, n ≤ limit ∧ Element n text.toList := by
  unfold checkText at h
  dsimp only at h
  obtain ⟨bs, hbs, hstart⟩ := exists_blanks text.toList
  split_ifs at h
  split at h
  case h_4 rest hscan =>
    obtain ⟨n, e, he, hn, heq⟩ := (sound _ _).element (Nat.zero_le limit) hscan
    split_ifs at h with hempty
    refine ⟨n, by omega, ?_⟩
    rw [hstart, heq, List.isEmpty_iff.1 hempty, List.append_nil]
    exact he.blanks_append hbs
  all_goals cases h

/-- An element passes the check if it is within the limit, and otherwise is too deep and nothing else. -/
theorem checkText_of_element {text : String} {n : Nat} (h : Element n text.toList) (limit : Nat) :
    checkText text limit = if n ≤ limit then .ok () else .error (.tooDeep limit) := by
  have hcloses : Closes [] := fun c hc => by cases hc
  have hfuel : 2 * text.toList.length ≤ 2 * text.toList.length + 1 := Nat.le_succ _
  obtain ⟨mid, hscan, hmid⟩ := (complete limit (3 * text.toList.length + 1)).element h (Nat.le_refl _) hfuel
    (Nat.zero_le limit) hcloses
  obtain ⟨c, tail, hstart, -⟩ := h.skipBlanks_append []
  rw [List.append_nil] at hscan hstart
  unfold checkText
  dsimp only
  rw [hscan, hstart, if_neg (by simp)]
  rcases Nat.lt_or_ge limit n with hdeep | hle
  · rw [outcome_of_lt (by omega), if_neg (Nat.not_le.2 hdeep)]
  · rw [outcome_of_le (by omega), if_pos hle]
    simp [hmid]

/-- A text has but one nesting. -/
theorem Grammar.Element.nesting_eq {n m : Nat} {cs : List Char} (hn : Element n cs) (hm : Element m cs) : n = m := by
  have htext : (String.ofList cs).toList = cs := String.toList_ofList
  -- The check itself tells which limits the nesting keeps, and it has but one answer.
  have hle (limit : Nat) : n ≤ limit ↔ m ≤ limit := by
    have hchecked := checkText_of_element (htext.symm ▸ hn) limit
    rw [checkText_of_element (htext.symm ▸ hm) limit] at hchecked
    split_ifs at hchecked with h h'
    · exact iff_of_true h' h
    · exact iff_of_false ‹_› h
  exact Nat.le_antisymm ((hle m).2 (Nat.le_refl m)) ((hle n).1 (Nat.le_refl n))

/-- **Recognition is exact.** A text passes the check just if it is one value of the grammar with nothing but blanks
around it, and its one nesting is within the limit. -/
theorem checkText_eq_ok_iff (text : String) (limit : Nat) :
    checkText text limit = .ok () ↔
      ∃ n, Element n text.toList ∧ (∀ m, Element m text.toList → m = n) ∧ n ≤ limit := by
  constructor
  · intro h
    obtain ⟨n, hn, helement⟩ := element_of_checkText h
    exact ⟨n, helement, fun m hm => hm.nesting_eq helement, hn⟩
  · rintro ⟨n, helement, -, hn⟩
    rw [checkText_of_element helement, if_pos hn]

end Attest.Json

import Attest.Proofs.Json.Breaking

/-!
What the check of a text reports, in terms of the texts that pass it. A beginning is viable if some text that passes
the check begins with it. Each defect names the longest viable beginning of the text: it says what that is followed
by, and where. A text is looked at as its bytes in UTF-8, since offsets count those.
-/

namespace Attest.Json

open Draft (skipBlanks)
open Grammar

/-- A text passes the check. -/
def Accepted (limit : Nat) (cs : List Char) : Prop :=
  checkText (String.ofList cs) limit = .ok ()

/-- Bytes that a text begins with that passes the check. -/
def Viable (limit : Nat) (bs : List UInt8) : Prop :=
  ∃ doc : String, checkText doc limit = .ok () ∧ bs <+: bytes doc.toList

/-- The scan of a whole text. -/
def scanText (limit : Nat) (cs : List Char) : Scan :=
  scanValue limit (2 * cs.length + 1) 0 (skipBlanks cs)

variable {limit : Nat} {cs p t rest : List Char} {c d : Char} {text : String}

theorem accepted_toList : Accepted limit text.toList ↔ checkText text limit = .ok () := by
  rw [Accepted, String.ofList_toList]

/-! ### The scan of a whole text -/

theorem scanText_eq {fuel : Nat} (hfuel : 2 * cs.length < fuel) :
    scanText limit cs = takeBlanks cs >>= scanValue limit fuel 0 := by
  have hle : (skipBlanks cs).length ≤ cs.length := (List.dropWhile_suffix Draft.isBlank).length_le
  exact (enough limit _).value (by omega) (by omega)

theorem local_scanText (limit : Nat) : Local (scanText limit) where
  shrinks cs := by
    rw [scanText_eq (Nat.lt_succ_self (2 * cs.length))]
    exact (local_takeBlanks.bind ((locals limit _).value 0)).shrinks cs
  follows := by
    intro x y hxy u
    have hx : 2 * (u ++ x).length < 2 * (x.length + y.length + u.length) + 1 := by
      rw [List.length_append]
      omega
    have hy : 2 * (u ++ y).length < 2 * (x.length + y.length + u.length) + 1 := by
      rw [List.length_append]
      omega
    rw [scanText_eq hx, scanText_eq hy]
    exact (local_takeBlanks.bind ((locals limit _).value 0)).follows hxy u

theorem checkText_eq_empty_iff : checkText text limit = .error .empty ↔ Blanks text.toList := by
  obtain ⟨bs, hbs, hsplit⟩ := exists_blanks text.toList
  have hblanks : Blanks text.toList ↔ skipBlanks text.toList = [] := by
    constructor
    · intro h
      have hnil := skipBlanks_append h []
      rwa [List.append_nil] at hnil
    · intro h
      rw [h, List.append_nil] at hsplit
      rwa [hsplit]
  rw [hblanks]
  unfold checkText
  dsimp only
  rw [← List.isEmpty_iff]
  by_cases hempty : (skipBlanks text.toList).isEmpty
  · simp [hempty]
  · rw [if_neg hempty]
    refine iff_of_false (fun h => ?_) hempty
    split at h
    case h_4 => split at h <;> cases h
    all_goals cases h

/-- What the check makes of the scan of a text that is not blank. -/
theorem checkText_eq (hstart : ¬Blanks text.toList) : checkText text limit =
    match scanText limit text.toList with
    | .error .tooDeep => .error (.tooDeep limit)
    | .error (.before []) => .error .unexpectedEnd
    | .error (.before (c :: rest)) =>
        .error (.unexpected (Draft.byteCount text.toList - Draft.byteCount (c :: rest)) (firstByte c))
    | .ok rest =>
        if (skipBlanks rest).isEmpty then .ok ()
        else .error (.trailing (Draft.byteCount text.toList - Draft.byteCount (skipBlanks rest))) := by
  have hsome : ¬(skipBlanks text.toList).isEmpty = true := by
    intro hempty
    obtain ⟨bs, hbs, hsplit⟩ := exists_blanks text.toList
    rw [List.isEmpty_iff.1 hempty, List.append_nil] at hsplit
    exact hstart (hsplit ▸ hbs)
  unfold checkText
  dsimp only
  rw [if_neg hsome]
  rfl

/-- What a defect says about the scan of the text. -/
def Explains (limit : Nat) (cs : List Char) : TextDefect → Prop
  | .empty => Blanks cs
  | .unexpectedEnd => scanText limit cs = .error (.before [])
  | .unexpected offset _ => ∃ c t, scanText limit cs = .error (.before (c :: t)) ∧
      offset = Draft.byteCount cs - Draft.byteCount (c :: t)
  | .trailing offset => ∃ rest c t, scanText limit cs = .ok rest ∧ skipBlanks rest = c :: t ∧
      offset = Draft.byteCount cs - Draft.byteCount (c :: t)
  | .tooDeep n => n = limit ∧ scanText limit cs = .error .tooDeep

theorem explains_of_checkText {defect : TextDefect} (h : checkText text limit = .error defect) :
    Explains limit text.toList defect := by
  by_cases hblanks : Blanks text.toList
  · obtain rfl := Except.error.inj (h.symm.trans (checkText_eq_empty_iff.2 hblanks))
    exact hblanks
  · rw [checkText_eq hblanks] at h
    split at h
    case h_1 hscan =>
      obtain rfl := Except.error.inj h
      exact ⟨rfl, hscan⟩
    case h_2 hscan =>
      obtain rfl := Except.error.inj h
      exact hscan
    case h_3 c t hscan =>
      obtain rfl := Except.error.inj h
      exact ⟨c, t, hscan, rfl⟩
    case h_4 rest hscan =>
      split_ifs at h with hempty
      obtain rfl := Except.error.inj h
      obtain ⟨c, t, hrest⟩ := List.exists_cons_of_ne_nil (fun hnil => hempty (List.isEmpty_iff.2 hnil))
      exact ⟨rest, c, t, hscan, hrest, by rw [hrest]⟩

theorem accepted_iff_scanText : Accepted limit cs ↔ ∃ rest, scanText limit cs = .ok rest ∧ skipBlanks rest = [] := by
  have htext : (String.ofList cs).toList = cs := String.toList_ofList
  constructor
  · intro h
    have hstart : ¬Blanks (String.ofList cs).toList := by
      intro hblanks
      cases h.symm.trans (checkText_eq_empty_iff.2 hblanks)
    rw [Accepted, checkText_eq hstart, htext] at h
    split at h
    case h_4 rest hscan =>
      split_ifs at h with hempty
      exact ⟨rest, hscan, List.isEmpty_iff.1 hempty⟩
    all_goals cases h
  · rintro ⟨rest, hscan, hrest⟩
    have hstart : ¬Blanks (String.ofList cs).toList := by
      intro hblanks
      have hnil := skipBlanks_append hblanks []
      rw [List.append_nil, htext] at hnil
      rw [scanText, hnil] at hscan
      cases hscan
    rw [Accepted, checkText_eq hstart, htext, hscan]
    simp [hrest]

theorem accepted_of_element {n : Nat} (h : Element n cs) (hn : n ≤ limit) : Accepted limit cs := by
  have htext : (String.ofList cs).toList = cs := String.toList_ofList
  rw [Accepted, checkText_of_element (htext.symm ▸ h), if_pos hn]

/-! ### Where a text breaks off -/

/-- A text whose scan stops: up to there it begins one that passes, and either nothing else that passes goes on there
as the text does, or a container would be one too many. -/
theorem exists_viable_of_scanText {stop : Stop} (h : scanText limit cs = .error stop) :
    ∃ p rest, cs = p ++ rest ∧ (∃ s, Accepted limit (p ++ s)) ∧ stop.At rest (Awaits limit p) := by
  obtain ⟨bs, hbs, hsplit⟩ := exists_blanks cs
  obtain ⟨p, rest, s, n, hp, hvalue, hn, hstop⟩ := (broken limit _).value (Nat.zero_le limit) h
  refine ⟨bs ++ p, rest, ?_, ⟨s, ?_⟩, hstop.imp ?_⟩
  · rw [hsplit, hp, List.append_assoc]
  · rw [List.append_assoc]
    exact accepted_of_element ((element_of_value hvalue).blanks_append hbs) (by omega)
  · rintro ⟨m, hm, hfull⟩
    rw [Nat.zero_add] at hfull
    exact ⟨bs, p, hbs, hfull ▸ hm, rfl⟩

/-- A scan that stops in front of a character does so in front of any of its kind, and at an end. -/
theorem scanText_stops (h : scanText limit (p ++ c :: t) = .error (.before (c :: t))) :
    ¬Accepted limit p ∧ ∀ d t', Akin c d → ¬Accepted limit (p ++ d :: t') := by
  have hstops {y : List Char} (hy : Resembles (c :: t) y) : scanText limit (p ++ y) = .error (.before y) :=
    ((local_scanText limit).follows hy p []).2 h
  have hnever {cs rest : List Char} (h : scanText limit cs = .error (.before rest)) : ¬Accepted limit cs := by
    intro haccepted
    obtain ⟨other, hother, -⟩ := accepted_iff_scanText.1 haccepted
    cases h.symm.trans hother
  have hended := hstops .ended
  rw [List.append_nil] at hended
  exact ⟨hnever hended, fun d t' hakin => hnever (hstops (.akin hakin))⟩

/-- A scan that leaves more than blanks has taken off a text that passes, and leaves the same of any text that goes on
there with a character of the same kind. -/
theorem scanText_leaves (h : scanText limit cs = .ok rest) (hrest : skipBlanks rest = c :: t) :
    ∃ p, cs = p ++ c :: t ∧ Accepted limit p ∧ ∀ d t', Akin c d → ¬Accepted limit (p ++ d :: t') := by
  -- With the blanks after it taken off as well this is one scan.
  have hwhole : Local fun cs => scanText limit cs >>= takeBlanks := (local_scanText limit).bind local_takeBlanks
  have hscan : (scanText limit cs >>= takeBlanks) = .ok (c :: t) := by
    rw [h]
    exact congrArg Except.ok hrest
  obtain ⟨p, rfl⟩ := hwhole.shrinks cs (c :: t) (.inl hscan)
  have hleaves {y : List Char} (hy : Resembles (c :: t) y) : (scanText limit (p ++ y) >>= takeBlanks) = .ok y :=
    (hwhole.follows hy p []).1 hscan
  refine ⟨p, rfl, ?_, fun d t' hakin haccepted => ?_⟩
  · have hended := hleaves .ended
    rw [List.append_nil] at hended
    obtain ⟨mid, hmid, hblanks⟩ := bind_eq_ok_iff.1 hended
    exact accepted_iff_scanText.2 ⟨mid, hmid, Except.ok.inj hblanks⟩
  · obtain ⟨mid, hmid, hblanks⟩ := accepted_iff_scanText.1 haccepted
    have hother : (scanText limit (p ++ d :: t') >>= takeBlanks) = .ok (d :: t') := hleaves (.akin hakin)
    rw [hmid] at hother
    cases (Except.ok.inj hother).symm.trans hblanks

/-- A container too many is found whatever comes after it. -/
theorem scanText_deep (h : Awaits limit p) (hc : c = '[' ∨ c = '{') (t : List Char) :
    scanText limit (p ++ c :: t) = .error .tooDeep := by
  obtain ⟨bs, p, hbs, hp, rfl⟩ := h
  rw [scanText, List.append_assoc, hp.skipBlanks_append hc hbs]
  refine (deep limit _).value hp (Nat.zero_add limit) hc ?_
  simp only [List.length_append]
  omega

theorem not_accepted_of_deep (h : Awaits limit p) (hc : c = '[' ∨ c = '{') (t : List Char) :
    ¬Accepted limit (p ++ c :: t) := by
  intro haccepted
  obtain ⟨rest, hrest, -⟩ := accepted_iff_scanText.1 haccepted
  cases (scanText_deep h hc t).symm.trans hrest

/-! ### In bytes -/

theorem viable_of_accepted {s : List Char} (h : Accepted limit (p ++ s)) : Viable limit (bytes p) := by
  refine ⟨String.ofList (p ++ s), h, ?_⟩
  rw [String.toList_ofList, bytes_append]
  exact ⟨bytes s, rfl⟩

/-- No text that passes goes on after `p` with a character of this kind, and so none with its first byte. -/
theorem not_viable (h : ∀ d t', Akin c d → ¬Accepted limit (p ++ d :: t')) (t : List Char) :
    ¬Viable limit ((bytes (p ++ c :: t)).take ((bytes p).length + 1)) := by
  rintro ⟨doc, hdoc, hbegins⟩
  obtain ⟨d, t', hsplit, hakin⟩ := exists_akin_of_bytes hbegins
  rw [← accepted_toList, hsplit] at hdoc
  exact h d t' hakin hdoc

theorem offset_eq (p rest : List Char) : Draft.byteCount (p ++ rest) - Draft.byteCount rest = (bytes p).length := by
  rw [← length_bytes, ← length_bytes, bytes_append, List.length_append, Nat.add_sub_cancel]

/-- The character at an offset is one of the text, so that the offset lies between two characters. -/
def Boundary (text : String) (offset : Nat) : Prop :=
  ∃ p c t, text.toList = p ++ c :: t ∧ offset = (bytes p).length

theorem take_length_bytes (p rest : List Char) : (bytes (p ++ rest)).take (bytes p).length = bytes p := by
  rw [bytes_append, List.take_left]

/-- What is reported where something stands that cannot stand there. -/
theorem of_unexpected {offset : Nat} {found : Char} (h : checkText text limit = .error (.unexpected offset found)) :
    Boundary text offset ∧
      (∃ doc : String, checkText doc limit = .ok () ∧ (bytes text.toList).take offset <+: bytes doc.toList ∧
        (bytes text.toList).take offset ≠ bytes doc.toList) ∧
      (∀ doc : String, checkText doc limit = .ok () → bytes doc.toList ≠ (bytes text.toList).take offset) ∧
      ¬Viable limit ((bytes text.toList).take (offset + 1)) := by
  obtain ⟨c, t, hscan, rfl⟩ := explains_of_checkText h
  obtain ⟨p, rest, hsplit, ⟨s, hs⟩, rfl⟩ := exists_viable_of_scanText hscan
  rw [hsplit] at hscan
  obtain ⟨hnone, hkind⟩ := scanText_stops hscan
  have hnever (doc : String) (hdoc : checkText doc limit = .ok ()) : bytes doc.toList ≠ bytes p := by
    intro heq
    rw [← accepted_toList, bytes_injective heq] at hdoc
    exact hnone hdoc
  obtain ⟨doc, hdoc, hbegins⟩ := viable_of_accepted hs
  rw [hsplit, offset_eq, take_length_bytes]
  exact ⟨⟨p, c, t, hsplit, rfl⟩, ⟨doc, hdoc, hbegins, fun heq => hnever doc hdoc heq.symm⟩, hnever, not_viable hkind t⟩

theorem of_trailing {offset : Nat} (h : checkText text limit = .error (.trailing offset)) :
    Boundary text offset ∧
      (∃ doc : String, checkText doc limit = .ok () ∧ bytes doc.toList = (bytes text.toList).take offset) ∧
      ¬Viable limit ((bytes text.toList).take (offset + 1)) := by
  obtain ⟨rest, c, t, hscan, hrest, rfl⟩ := explains_of_checkText h
  obtain ⟨p, hsplit, haccepted, hkind⟩ := scanText_leaves hscan hrest
  rw [hsplit, offset_eq, take_length_bytes]
  exact ⟨⟨p, c, t, hsplit, rfl⟩, ⟨String.ofList p, haccepted, by rw [String.toList_ofList]⟩, not_viable hkind t⟩

/-- A container too many stands where a value is expected, with as many containers open as may be. -/
theorem of_tooDeep {n : Nat} (h : checkText text limit = .error (.tooDeep n)) :
    n = limit ∧ ∃ p c t, text.toList = p ++ c :: t ∧ (c = '[' ∨ c = '{') ∧ Awaits limit p ∧ Viable limit (bytes p) := by
  obtain ⟨hlimit, hscan⟩ := explains_of_checkText h
  obtain ⟨p, rest, hsplit, ⟨s, hs⟩, ⟨c, t, rfl, hc⟩, hfull⟩ := exists_viable_of_scanText hscan
  exact ⟨hlimit, p, c, t, hsplit, hc, hfull, viable_of_accepted hs⟩

theorem tooDeep_of_awaits (hsplit : text.toList = p ++ c :: t) (h : Awaits limit p) (hc : c = '[' ∨ c = '{') :
    checkText text limit = .error (.tooDeep limit) := by
  have hstart : ¬Blanks text.toList := by
    intro hblanks
    rcases hc with rfl | rfl
    · rcases hblanks '[' (by rw [hsplit]; simp) with h | h | h | h <;> cases h
    · rcases hblanks '{' (by rw [hsplit]; simp) with h | h | h | h <;> cases h
  rw [checkText_eq hstart, hsplit, scanText_deep h hc t]

theorem viable_of_unexpectedEnd (h : checkText text limit = .error .unexpectedEnd) :
    ¬Blanks text.toList ∧ checkText text limit ≠ .ok () ∧ ∃ doc : String, checkText doc limit = .ok () ∧
      bytes text.toList <+: bytes doc.toList ∧ bytes text.toList ≠ bytes doc.toList := by
  have hscan : scanText limit text.toList = .error (.before []) := explains_of_checkText h
  have hstart : ¬Blanks text.toList := by
    intro hblanks
    cases h.symm.trans (checkText_eq_empty_iff.2 hblanks)
  have hnone : checkText text limit ≠ .ok () := by
    rw [h]
    exact fun hok => by cases hok
  refine ⟨hstart, hnone, ?_⟩
  obtain ⟨p, rest, hsplit, ⟨s, hs⟩, rfl⟩ := exists_viable_of_scanText hscan
  rw [List.append_nil] at hsplit
  obtain ⟨doc, hdoc, hbegins⟩ := viable_of_accepted hs
  rw [← hsplit] at hbegins
  refine ⟨doc, hdoc, hbegins, fun heq => hnone ?_⟩
  rwa [← accepted_toList, bytes_injective heq, accepted_toList]

/-- What is viable has viable beginnings. -/
theorem Viable.take {bs : List UInt8} (h : Viable limit bs) (n : Nat) : Viable limit (bs.take n) := by
  obtain ⟨doc, hdoc, hbegins⟩ := h
  exact ⟨doc, hdoc, (List.take_prefix n bs).trans hbegins⟩

/-- **Each defect marks the longest viable beginning of the text.**
A text is called empty just if it is blank, and called unfinished just if it is neither blank nor passes but something
could be added to it with which it would pass. An unexpected character follows bytes that do not pass but begin a text
that does, and no text that passes begins with one byte more; trailing ones follow bytes that pass, and again no text
that passes begins with one byte more. A text is called too deep just if the first byte that no text which passes goes
on with is an opening bracket or brace where a value is expected, with as many containers open around it as may be.
Offsets lie between characters of the text. -/
theorem defect_marks_longest_viable (text : String) (limit : Nat) :
    (checkText text limit = .error .empty ↔ Blanks text.toList) ∧
      (checkText text limit = .error .unexpectedEnd ↔
        ¬Blanks text.toList ∧ checkText text limit ≠ .ok () ∧ ∃ doc : String, checkText doc limit = .ok () ∧
          bytes text.toList <+: bytes doc.toList ∧ bytes text.toList ≠ bytes doc.toList) ∧
      (∀ offset found, checkText text limit = .error (.unexpected offset found) →
        Boundary text offset ∧
          (∃ doc : String, checkText doc limit = .ok () ∧ (bytes text.toList).take offset <+: bytes doc.toList ∧
            (bytes text.toList).take offset ≠ bytes doc.toList) ∧
          (∀ doc : String, checkText doc limit = .ok () → bytes doc.toList ≠ (bytes text.toList).take offset) ∧
          ¬Viable limit ((bytes text.toList).take (offset + 1))) ∧
      (∀ offset, checkText text limit = .error (.trailing offset) →
        Boundary text offset ∧
          (∃ doc : String, checkText doc limit = .ok () ∧ bytes doc.toList = (bytes text.toList).take offset) ∧
          ¬Viable limit ((bytes text.toList).take (offset + 1))) ∧
      (∀ n, checkText text limit = .error (.tooDeep n) → n = limit) ∧
      (checkText text limit = .error (.tooDeep limit) ↔
        ∃ p c t, text.toList = p ++ c :: t ∧ (c = '[' ∨ c = '{') ∧ Awaits limit p ∧
          Viable limit (bytes p) ∧ ¬Viable limit ((bytes text.toList).take ((bytes p).length + 1))) := by
  refine ⟨checkText_eq_empty_iff, ⟨viable_of_unexpectedEnd, ?_⟩, fun _ _ => of_unexpected, fun _ => of_trailing,
    fun _ h => (of_tooDeep h).1, fun h => ?_, ?_⟩
  · rintro ⟨hstart, hnone, doc, hdoc, hbegins, -⟩
    have hviable : Viable limit (bytes text.toList) := ⟨doc, hdoc, hbegins⟩
    -- Each other defect denies that the text, which is viable, has a viable beginning.
    rcases hresult : checkText text limit with defect | ⟨⟩
    · cases defect with
      | empty => exact absurd (checkText_eq_empty_iff.1 hresult) hstart
      | unexpectedEnd => rfl
      | unexpected offset found => exact absurd (hviable.take (offset + 1)) (of_unexpected hresult).2.2.2
      | trailing offset => exact absurd (hviable.take (offset + 1)) (of_trailing hresult).2.2
      | tooDeep n =>
          obtain ⟨-, p, c, t, hsplit, hc, hawaits, -⟩ := of_tooDeep hresult
          obtain ⟨more, hmore⟩ := hbegins
          obtain ⟨rest, hrest, -⟩ := exists_append_of_bytes hmore
          rw [hsplit, List.append_assoc] at hrest
          rw [← accepted_toList, hrest] at hdoc
          exact absurd hdoc (not_accepted_of_deep hawaits hc _)
    · exact absurd hresult hnone
  · obtain ⟨-, p, c, t, hsplit, hc, hawaits, hviable⟩ := of_tooDeep h
    refine ⟨p, c, t, hsplit, hc, hawaits, hviable, ?_⟩
    rw [hsplit]
    refine not_viable (fun d t' hakin => ?_) t
    obtain rfl : c = d := by
      rcases hakin with rfl | ⟨hbeyond, -⟩
      · rfl
      · rcases hc with rfl | rfl <;> exact absurd hbeyond (by decide)
    exact not_accepted_of_deep hawaits hc t'
  · rintro ⟨p, c, t, hsplit, hc, hawaits, -, -⟩
    exact tooDeep_of_awaits hsplit hawaits hc

/-- A text for each defect. Offsets count bytes. -/
example : checkText " \t" 2 = .error .empty ∧ checkText "[true," 2 = .error .unexpectedEnd ∧
    checkText "[\"é\" 1]" 2 = .error (.unexpected 6 '1') ∧ checkText "[1] é" 2 = .error (.trailing 4) ∧
    checkText "[\x7b\"a\":[]\x7d]" 2 = .error (.tooDeep 2) := by decide +kernel

end Attest.Json

import Attest.Json.Decode
import Attest.Proofs.Json.Notation
import Attest.Proofs.Json.Recognition
import Attest.Proofs.Number.Layout
import Mathlib.Data.List.DropRight

/-!
What reading makes of a text that was written.

A text spells a draft if it is read as that draft wherever it stands, as long as nothing follows that could go on a
number. Lists and objects spell the drafts of what they are written from, whatever blanks there are in them, so it is
enough to know what their leaves spell. Words, strings and integers always spell themselves. A binary number does if
its text alone is read back as that number, which is not so for all of them.
-/

namespace Attest

open Json (EndsNumber Closes skipBlanks_cons isBlank_of_opens)
open Json.Grammar

namespace Draft

variable {cs rest after : List Char} {d : Draft}

/-! ### Strings -/

theorem readHex_append {n : Nat} {digits : List Char} (h : FourHex n digits) (rest : List Char) :
    readHex (digits ++ rest) = .ok (n, rest) := by
  cases h with
  | mk ha hb hc hd =>
      simp only [List.cons_append, List.nil_append, readHex, ha.hexValue?, hb.hexValue?, hc.hexValue?, hd.hexValue?]

theorem readUnicode_character {c : Char} {digits : List Char} (h : FourHex c.toNat digits) (rest : List Char) :
    readUnicode (digits ++ rest) = .ok (some c, rest) := by
  have hvalid : c.toNat < 0xD800 ∨ 0xDFFF < c.toNat := c.valid.imp_right And.left
  simp only [readUnicode, readHex_append h, bind, Except.bind]
  rw [if_pos hvalid, Char.ofNat_toNat]
  rfl

theorem readUnicode_surrogates {c : Char} {m n : Nat} {high low : List Char} (hhigh : FourHex m high)
    (hlow : FourHex n low) (hm : 0xD800 ≤ m ∧ m < 0xDC00) (hn : 0xDC00 ≤ n ∧ n < 0xE000)
    (hc : c.toNat = (m - 0xD800) * 0x400 + (n - 0xDC00) + 0x10000) (rest : List Char) :
    readUnicode (high ++ '\\' :: 'u' :: (low ++ rest)) = .ok (some c, rest) := by
  simp only [readUnicode, readHex_append hhigh, readHex_append hlow, bind, Except.bind]
  rw [if_neg (by omega), if_neg (by omega), if_pos (by omega), ← hc, Char.ofNat_toNat]
  rfl

theorem readString_unicode {c : Char} (h : readUnicode cs = .ok (some c, rest)) (fuel : Nat) :
    readString (fuel + 1) ('\\' :: 'u' :: cs) = (readString fuel rest).map fun (s, rest) => (s.map (c :: ·), rest) := by
  rw [readString, if_neg (by decide), if_pos rfl]
  simp only [h, bind, Except.bind]

/-- However a character is written, it is read in one step. -/
theorem readString_append {c : Char} {piece : List Char} (h : Writes c piece) (fuel : Nat) (cs : List Char) :
    readString (fuel + 1) (piece ++ cs) = (readString fuel cs).map fun (s, rest) => (s.map (c :: ·), rest) := by
  cases h with
  | plain hprintable hquote hslash =>
      rw [List.singleton_append, readString.eq_def]
      dsimp only
      rw [if_neg hquote, if_neg hslash, if_neg (Nat.not_lt.2 hprintable)]
  | escape hmem =>
      simp only [simpleEscapes, List.mem_cons, Prod.mk.injEq, List.not_mem_nil, or_false] at hmem
      rcases hmem with ⟨rfl, rfl⟩ | ⟨rfl, rfl⟩ | ⟨rfl, rfl⟩ | ⟨rfl, rfl⟩ | ⟨rfl, rfl⟩ | ⟨rfl, rfl⟩ | ⟨rfl, rfl⟩ |
        ⟨rfl, rfl⟩ <;> rfl
  | unicode hfour => exact readString_unicode (readUnicode_character hfour cs) fuel
  | surrogates hhigh hlow hm hn hc =>
      have hread := readString_unicode (readUnicode_surrogates hhigh hlow hm hn hc cs) fuel
      rwa [List.cons_append, List.cons_append, List.append_assoc, List.cons_append, List.cons_append]

theorem readString_of_writesAll {fuel : Nat} {chars : List Char} (h : WritesAll chars cs) (hfuel : cs.length < fuel)
    (rest : List Char) : readString fuel (cs ++ '"' :: rest) = .ok (some chars, rest) := by
  induction h generalizing fuel with
  | nil =>
      obtain ⟨fuel, rfl⟩ := Nat.exists_eq_succ_of_ne_zero (Nat.ne_zero_of_lt hfuel)
      rfl
  | @cons c piece chars cs hc _ ih =>
      obtain ⟨fuel, rfl⟩ := Nat.exists_eq_succ_of_ne_zero (Nat.ne_zero_of_lt hfuel)
      have hpiece : 0 < piece.length := by cases hc <;> exact Nat.succ_pos _
      rw [List.length_append] at hfuel
      rw [List.append_assoc, readString_append hc, ih (by omega)]
      rfl

/-! ### Values -/

section

variable {fuel : Nat} {c : Char} {l : NumberLiteral} {n : Number} {items : List Draft}
  {members : List (String × Draft)} {ending : Option Fault}

theorem readValue_numeric (hc : c = '-' ∨ c.isDigit = true) : readValue (fuel + 1) (c :: cs) =
    leaf ((readNumber (c :: cs)).map fun (l, rest) => ((l.value?.map Draft.number).getD .unreadable, rest)) := by
  have hblank : isBlank c = false := isBlank_of_opens (by unfold Opens; tauto)
  have hword : c ≠ 'n' ∧ c ≠ 't' ∧ c ≠ 'f' := by
    refine ⟨?_, ?_, ?_⟩ <;> (rintro rfl; exact absurd hc (by decide))
  rw [readValue.eq_def]
  simp only [skipBlanks_cons hblank]
  rw [if_neg hword.1, if_neg hword.2.1, if_neg hword.2.2, if_pos hc]
  cases readNumber (c :: cs) with
  | error fault => rfl
  | ok read =>
      obtain ⟨l, after⟩ := read
      simp only [Except.map, leaf]
      cases l.value? <;> rfl

theorem readValue_string {chars : List Char} (h : readString fuel cs = .ok (some chars, rest)) :
    readValue (fuel + 1) ('"' :: cs) = (.string (String.ofList chars), some rest) := by
  rw [readValue.eq_def]
  simp only [skipBlanks_cons (show isBlank '"' = false from rfl)]
  rw [if_neg (by decide), if_neg (by decide), if_neg (by decide), if_neg (by decide), if_pos trivial]
  simp only [h, Except.map, leaf]

theorem readValue_skipBlanks (fuel : Nat) (cs : List Char) : readValue fuel (skipBlanks cs) = readValue fuel cs := by
  have hskip : skipBlanks (skipBlanks cs) = skipBlanks cs := List.dropWhile_idempotent _ cs
  cases fuel with
  | zero => rfl
  | succ fuel => rw [readValue.eq_def, readValue.eq_def]; simp only [hskip]

theorem readItems_skipBlanks (fuel : Nat) (cs : List Char) : readItems fuel (skipBlanks cs) = readItems fuel cs := by
  cases fuel with
  | zero => rfl
  | succ fuel => rw [readItems.eq_def, readItems.eq_def]; simp only [readValue_skipBlanks]

theorem readMembers_skipBlanks (fuel : Nat) (cs : List Char) :
    readMembers fuel (skipBlanks cs) = readMembers fuel cs := by
  have hskip : skipBlanks (skipBlanks cs) = skipBlanks cs := List.dropWhile_idempotent _ cs
  cases fuel with
  | zero => rfl
  | succ fuel => rw [readMembers.eq_def, readMembers.eq_def]; simp only [hskip]

theorem readValue_array (hopen : ∃ c tail, skipBlanks cs = c :: tail ∧ Opens c)
    (h : readItems fuel cs = (items, ending, some rest)) :
    readValue (fuel + 1) ('[' :: cs) = (.array items ending, some rest) := by
  obtain ⟨c, tail, heq, hc⟩ := hopen
  rw [← readItems_skipBlanks, heq] at h
  rw [readValue.eq_def]
  simp only [skipBlanks_cons (show isBlank '[' = false from rfl)]
  rw [if_neg (by decide), if_neg (by decide), if_neg (by decide), if_neg (by decide), if_neg (by decide),
    if_pos trivial, heq]
  split
  next hclose =>
    obtain ⟨rfl, -⟩ := List.cons.inj hclose
    exact absurd hc (by unfold Opens; decide)
  next hnil => cases hnil
  next => rw [h]

theorem readValue_object (hopen : ∃ tail, skipBlanks cs = '"' :: tail)
    (h : readMembers fuel cs = (members, ending, some rest)) :
    readValue (fuel + 1) ('{' :: cs) = (.object members ending, some rest) := by
  obtain ⟨tail, heq⟩ := hopen
  rw [← readMembers_skipBlanks, heq] at h
  rw [readValue.eq_def]
  simp only [skipBlanks_cons (show isBlank '{' = false from rfl)]
  rw [if_neg (by decide), if_neg (by decide), if_neg (by decide), if_neg (by decide), if_neg (by decide),
    if_neg (by decide), if_pos trivial, heq]
  split
  next hclose => cases hclose
  next hnil => cases hnil
  next => rw [h]

theorem readItems_last (h : readValue fuel cs = (d, some after)) (hclose : skipBlanks after = ']' :: rest) :
    readItems (fuel + 1) cs = ([d], none, some rest) := by
  rw [readItems.eq_def]
  simp only [h, hclose]

theorem readItems_more {more : List Char} (hfirst : readValue fuel cs = (d, some after))
    (hcomma : skipBlanks after = ',' :: more) (hopen : ∃ c tail, skipBlanks more = c :: tail ∧ Opens c)
    (hmore : readItems fuel more = (items, ending, some rest)) :
    readItems (fuel + 1) cs = (d :: items, ending, some rest) := by
  obtain ⟨c, tail, heq, hc⟩ := hopen
  rw [← readItems_skipBlanks, heq] at hmore
  rw [readItems.eq_def]
  simp only [hfirst, hcomma, heq]
  split
  next hclose =>
    obtain ⟨rfl, -⟩ := List.cons.inj hclose
    exact absurd hc (by unfold Opens; decide)
  next => rw [hmore]

section

variable {key afterKey afterColon : List Char}

theorem readMembers_last (hkey : readString fuel cs = .ok (some key, afterKey))
    (hcolon : skipBlanks afterKey = ':' :: afterColon) (h : readValue fuel afterColon = (d, some after))
    (hclose : skipBlanks after = '}' :: rest) :
    readMembers (fuel + 1) ('"' :: cs) = ([(String.ofList key, d)], none, some rest) := by
  rw [readMembers.eq_def]
  simp only [skipBlanks_cons (show isBlank '"' = false from rfl), hkey, hcolon, h, hclose]

theorem readMembers_more {more : List Char} (hkey : readString fuel cs = .ok (some key, afterKey))
    (hcolon : skipBlanks afterKey = ':' :: afterColon) (hfirst : readValue fuel afterColon = (d, some after))
    (hcomma : skipBlanks after = ',' :: more) (hopen : ∃ tail, skipBlanks more = '"' :: tail)
    (hmore : readMembers fuel more = (members, ending, some rest)) :
    readMembers (fuel + 1) ('"' :: cs) = ((String.ofList key, d) :: members, ending, some rest) := by
  obtain ⟨tail, heq⟩ := hopen
  rw [← readMembers_skipBlanks, heq] at hmore
  rw [readMembers.eq_def]
  simp only [skipBlanks_cons (show isBlank '"' = false from rfl), hkey, hcolon, hfirst, hcomma, heq, hmore]

end

end

/-! ### Texts that spell a draft -/

/-- The text starts like a value and is read as the draft, whatever follows it that cannot go on a number. -/
structure Spells (cs : List Char) (d : Draft) : Prop where
  opens : ∃ c tail, cs = c :: tail ∧ Opens c
  reads : ∀ {fuel rest}, 2 * cs.length < fuel → EndsNumber rest → readValue fuel (cs ++ rest) = (d, some rest)

theorem spells_null : Spells ['n', 'u', 'l', 'l'] .null where
  opens := ⟨'n', _, rfl, by simp [Opens]⟩
  reads := by
    rintro (_ | fuel) rest hfuel -
    · cases hfuel
    · rfl

theorem spells_bool (b : Bool) : Spells (Json.bool b).render (.bool b) where
  opens := by
    cases b
    · exact ⟨'f', _, rfl, by simp [Opens]⟩
    · exact ⟨'t', _, rfl, by simp [Opens]⟩
  reads := by
    rintro (_ | fuel) rest hfuel -
    · cases hfuel
    · cases b <;> rfl

/-- What is read of a number is the value of its literal, if there is one. -/
theorem spells_literal {n : Number} {l : NumberLiteral} (hread : readNumber n.text = .ok (l, [])) :
    Spells n.text ((l.value?.map Draft.number).getD .unreadable) := by
  obtain ⟨c, tail, hcs, hc⟩ := opens_of_readNumber hread
  refine ⟨⟨c, tail, hcs, by unfold Opens; tauto⟩, ?_⟩
  rintro (_ | fuel) rest hfuel hrest
  · cases hfuel
  · have happend := takesFront_readNumber.append hread hrest
    rw [hcs] at happend ⊢
    rw [List.cons_append] at happend ⊢
    rw [readValue_numeric hc, happend]
    simp only [Except.map, leaf, List.nil_append]

theorem spells_number {n : Number} {l : NumberLiteral} (hread : readNumber n.text = .ok (l, []))
    (hvalue : l.value? = some n) : Spells n.text (.number n) := by
  have hspells := spells_literal hread
  rwa [hvalue, Option.map_some, Option.getD_some] at hspells

theorem spells_int {n : Int} (h : (Number.int n).InRange) : Spells (Number.int n).text (.number (.int n)) :=
  spells_number (Number.readNumber_int n) (NumberLiteral.value?_int h)

theorem spells_quoted {s : String} (h : Quoted s cs) : Spells cs (.string s) := by
  cases h with
  | @mk body h =>
      refine ⟨⟨'"', _, rfl, by simp [Opens]⟩, ?_⟩
      rintro (_ | fuel) rest hfuel -
      · cases hfuel
      · simp only [List.length_cons, List.length_append, List.length_nil] at hfuel
        have hread := readValue_string (readString_of_writesAll h (show body.length < fuel by omega) rest)
        rw [String.ofList_toList] at hread
        rwa [List.cons_append, List.append_assoc]

theorem spells_quote (s : String) : Spells (Json.quote s) (.string s) :=
  spells_quoted (quoted_quote s)

/-! ### Lists and objects -/

/-- The texts that spell a draft, as a way of writing it. -/
def Spelled (d : Draft) (cs : List Char) : Prop :=
  Spells cs d

theorem skipBlanks_append_padded (h : Padded Spelled d cs) (rest : List Char) :
    ∃ c tail, skipBlanks (cs ++ rest) = c :: tail ∧ Opens c := by
  cases h with
  | @mk before cs after hbefore hd _ =>
      obtain ⟨c, tail, rfl, hc⟩ := hd.opens
      refine ⟨c, tail ++ after ++ rest, ?_, hc⟩
      rw [List.append_assoc, Json.skipBlanks_append hbefore, List.cons_append, List.cons_append,
        skipBlanks_cons (isBlank_of_opens hc)]

theorem skipBlanks_append_series {ds : List Draft} (h : Series Spelled ds cs) (rest : List Char) :
    ∃ c tail, skipBlanks (cs ++ rest) = c :: tail ∧ Opens c := by
  cases h with
  | last h => exact skipBlanks_append_padded h rest
  | more hfirst _ =>
      rw [List.append_assoc]
      exact skipBlanks_append_padded hfirst _

/-- What is read of a text with blanks around it leaves the blanks after it. -/
theorem readValue_padded {fuel : Nat} (h : Padded Spelled d cs) (hfuel : 2 * cs.length < fuel) (hrest : Closes rest) :
    ∃ after, readValue fuel (cs ++ rest) = (d, some after) ∧ skipBlanks after = rest := by
  cases h with
  | @mk before cs after hbefore hd hafter =>
      simp only [List.length_append] at hfuel
      refine ⟨after ++ rest, ?_, by rw [Json.skipBlanks_append hafter, hrest.skipBlanks_eq]⟩
      rw [List.append_assoc, List.append_assoc, ← readValue_skipBlanks, Json.skipBlanks_append hbefore,
        readValue_skipBlanks]
      exact hd.reads (by omega) (hrest.endsNumber hafter)

theorem closes_cons {c : Char} (h : c = ',' ∨ c = ']' ∨ c = '}') (cs : List Char) : Closes (c :: cs) := by
  intro d hd
  obtain rfl := Option.some.inj hd
  exact h

theorem readItems_series {ds : List Draft} {fuel : Nat} (h : Series Spelled ds cs) (hfuel : 2 * cs.length + 1 < fuel)
    (rest : List Char) : readItems fuel (cs ++ ']' :: rest) = (ds, none, some rest) := by
  induction h generalizing fuel with
  | last hlast =>
      obtain ⟨fuel, rfl⟩ := Nat.exists_eq_succ_of_ne_zero (Nat.ne_zero_of_lt hfuel)
      obtain ⟨after, hread, hclose⟩ :=
        readValue_padded hlast (show _ < fuel by omega) (closes_cons (.inr (.inl rfl)) rest)
      exact readItems_last hread hclose
  | more hfirst hmore ih =>
      obtain ⟨fuel, rfl⟩ := Nat.exists_eq_succ_of_ne_zero (Nat.ne_zero_of_lt hfuel)
      simp only [List.length_append, List.length_cons] at hfuel
      obtain ⟨after, hread, hcomma⟩ := readValue_padded hfirst (show _ < fuel by omega) (closes_cons (.inl rfl) _)
      rw [List.append_assoc, List.cons_append]
      -- An item and its comma leave steps enough for the items behind them.
      exact readItems_more hread hcomma (skipBlanks_append_series hmore _) (ih (by omega))

theorem spells_listed {ds : List Draft} (h : Listed Spelled ds cs) : Spells cs (.array ds none) := by
  cases h with
  | @empty bs hbs =>
      refine ⟨⟨'[', _, rfl, by simp [Opens]⟩, ?_⟩
      rintro (_ | fuel) rest hfuel -
      · cases hfuel
      · rw [List.cons_append, List.append_assoc, List.singleton_append, readValue.eq_def]
        simp only [skipBlanks_cons (show isBlank '[' = false from rfl), Json.skipBlanks_append hbs,
          skipBlanks_cons (show isBlank ']' = false from rfl)]
        rfl
  | @series _ body hbody =>
      refine ⟨⟨'[', _, rfl, by simp [Opens]⟩, ?_⟩
      rintro (_ | fuel) rest hfuel -
      · cases hfuel
      · simp only [List.length_cons, List.length_append, List.length_nil] at hfuel
        rw [List.cons_append, List.append_assoc, List.singleton_append]
        exact readValue_array (skipBlanks_append_series hbody _) (readItems_series hbody (by omega) rest)

theorem spells_list {ts : List (List Char)} {ds : List Draft} (h : List.Forall₂ Spells ts ds) :
    Spells (Json.renderList ts) (.array ds none) :=
  spells_listed (listed_renderList h.flip)

/-- A list spells the drafts of its items if each of them spells its own. -/
theorem spells_map {α : Type} {text : α → List Char} {draft : α → Draft} {as : List α}
    (h : ∀ a ∈ as, Spells (text a) (draft a)) :
    Spells (Json.renderList (as.map text)) (.array (as.map draft) none) :=
  spells_list (List.forall₂_map_left_iff.2 (List.forall₂_map_right_iff.2 (List.forall₂_same.2 h)))

/-- A member that is written with blanks around it is read as its name and its value, and leaves the blanks after it. -/
theorem exists_member_read {m : String × Draft} {fuel : Nat} (h : Padded (Named Spelled) m cs)
    (hfuel : 2 * cs.length < fuel) (hrest : Closes rest) :
    ∃ tail afterKey afterColon after, skipBlanks (cs ++ rest) = '"' :: tail ∧
      readString fuel tail = .ok (some m.1.toList, afterKey) ∧ skipBlanks afterKey = ':' :: afterColon ∧
      readValue fuel afterColon = (m.2, some after) ∧ skipBlanks after = rest := by
  cases h with
  | @mk before _ after hbefore hnamed hafter =>
      cases hnamed with
      | @mk key _ afterName beforeValue d cs hname hafterName hbeforeValue hd =>
          cases hname with
          | @mk body hbody =>
              simp only [List.length_append, List.length_cons, List.length_nil] at hfuel
              refine ⟨body ++ '"' :: (afterName ++ ':' :: (beforeValue ++ (cs ++ (after ++ rest)))),
                afterName ++ ':' :: (beforeValue ++ (cs ++ (after ++ rest))), beforeValue ++ (cs ++ (after ++ rest)),
                after ++ rest, ?_, readString_of_writesAll hbody (by omega) _, ?_, ?_, ?_⟩
              · rw [List.append_assoc, Json.skipBlanks_append hbefore, List.append_assoc, List.cons_append,
                  List.cons_append, skipBlanks_cons rfl]
                simp
              · rw [Json.skipBlanks_append hafterName, skipBlanks_cons rfl]
              · rw [← readValue_skipBlanks, Json.skipBlanks_append hbeforeValue, readValue_skipBlanks]
                exact hd.reads (by omega) (hrest.endsNumber hafter)
              · rw [Json.skipBlanks_append hafter, hrest.skipBlanks_eq]

theorem skipBlanks_append_members {ms : List (String × Draft)} (h : Series (Named Spelled) ms cs) (rest : List Char) :
    ∃ tail, skipBlanks (cs ++ rest) = '"' :: tail := by
  have hpadded {m : String × Draft} {cs : List Char} (h : Padded (Named Spelled) m cs) (rest : List Char) :
      ∃ tail, skipBlanks (cs ++ rest) = '"' :: tail := by
    cases h with
    | mk hbefore hnamed _ =>
        cases hnamed with
        | mk hname _ _ _ =>
            cases hname
            rw [List.append_assoc, Json.skipBlanks_append hbefore]
            exact ⟨_, rfl⟩
  cases h with
  | last h => exact hpadded h rest
  | more hfirst _ =>
      rw [List.append_assoc]
      exact hpadded hfirst _

theorem readMembers_series {ms : List (String × Draft)} {fuel : Nat} (h : Series (Named Spelled) ms cs)
    (hfuel : 2 * cs.length + 1 < fuel) (rest : List Char) :
    readMembers fuel (cs ++ '}' :: rest) = (ms, none, some rest) := by
  induction h generalizing fuel with
  | @last m cs hlast =>
      obtain ⟨fuel, rfl⟩ := Nat.exists_eq_succ_of_ne_zero (Nat.ne_zero_of_lt hfuel)
      obtain ⟨tail, afterKey, afterColon, after, hopen, hkey, hcolon, hvalue, hclose⟩ :=
        exists_member_read hlast (show _ < fuel by omega) (closes_cons (.inr (.inr rfl)) rest)
      have hread := readMembers_last hkey hcolon hvalue hclose
      rwa [String.ofList_toList, ← hopen, readMembers_skipBlanks] at hread
  | @more m ms first others hfirst hmore ih =>
      obtain ⟨fuel, rfl⟩ := Nat.exists_eq_succ_of_ne_zero (Nat.ne_zero_of_lt hfuel)
      simp only [List.length_append, List.length_cons] at hfuel
      obtain ⟨tail, afterKey, afterColon, after, hopen, hkey, hcolon, hvalue, hcomma⟩ :=
        exists_member_read hfirst (show _ < fuel by omega) (closes_cons (.inl rfl) (others ++ '}' :: rest))
      have hread := readMembers_more hkey hcolon hvalue hcomma (skipBlanks_append_members hmore _) (ih (by omega))
      rw [String.ofList_toList, ← hopen, readMembers_skipBlanks] at hread
      rwa [List.append_assoc, List.cons_append]

theorem spells_membered {ms : List (String × Draft)} (h : Membered Spelled ms cs) :
    Spells cs (.object ms none) := by
  cases h with
  | @empty bs hbs =>
      refine ⟨⟨'{', _, rfl, by simp [Opens]⟩, ?_⟩
      rintro (_ | fuel) rest hfuel -
      · cases hfuel
      · rw [List.cons_append, List.append_assoc, List.singleton_append, readValue.eq_def]
        simp only [skipBlanks_cons (show isBlank '{' = false from rfl), Json.skipBlanks_append hbs,
          skipBlanks_cons (show isBlank '}' = false from rfl)]
        rfl
  | @series _ body hbody =>
      refine ⟨⟨'{', _, rfl, by simp [Opens]⟩, ?_⟩
      rintro (_ | fuel) rest hfuel -
      · cases hfuel
      · simp only [List.length_cons, List.length_append, List.length_nil] at hfuel
        rw [List.cons_append, List.append_assoc, List.singleton_append]
        exact readValue_object (skipBlanks_append_members hbody _) (readMembers_series hbody (by omega) rest)

/-- A written member spells a member: they have one name, and the text of the value spells the value. -/
def SpellsMember (field : String × List Char) (member : String × Draft) : Prop :=
  field.1 = member.1 ∧ Spells field.2 member.2

theorem spells_fields {fields : List (String × List Char)} {members : List (String × Draft)}
    (h : List.Forall₂ SpellsMember fields members) : Spells (Json.renderFields fields) (.object members none) :=
  spells_membered (membered_renderFields (h.flip.imp fun _ _ h => ⟨h.1.symm, h.2⟩))

/-- A text that spells a draft is a document of that draft, with any blanks around it. -/
theorem ofText_of_padded (h : Padded Spelled d cs) : ofText (String.ofList cs) = (d, none) := by
  have hcloses : Closes [] := fun c hc => nomatch hc
  obtain ⟨after, hread, hend⟩ := readValue_padded h (Nat.lt_succ_self (2 * cs.length)) hcloses
  rw [List.append_nil] at hread
  simp only [ofText, String.toList_ofList, hread, hend]
  rfl

end Draft

namespace Decoder

variable {α : Type}

theorem decodeText_eq_ok_iff {value : Decoder α} {text : String} {a : α} :
    decodeText value text = .ok a ↔ value nesting (Draft.ofText text).1 = .ok a ∧ (Draft.ofText text).2 = none := by
  rw [decodeText]
  simp only [bind, Except.bind]
  cases value nesting (Draft.ofText text).1 with
  | error fault => simp
  | ok b =>
    cases (Draft.ofText text).2 with
    | none => simp [finish, pure, Except.pure]
    | some fault => simp [finish]

/-- A document is decoded as what its text spells, whatever blanks are around it. -/
theorem decodeText_of_padded {cs : List Char} {d : Draft} (h : Padded Draft.Spelled d cs) (value : Decoder α) :
    decodeText value (String.ofList cs) = value nesting d := by
  rw [decodeText, Draft.ofText_of_padded h]
  simp only [bind, Except.bind]
  cases value nesting d <;> rfl

theorem decodeText_of_spells {cs : List Char} {d : Draft} (h : Draft.Spells cs d) (value : Decoder α) :
    decodeText value (String.ofList cs) = value nesting d :=
  decodeText_of_padded (padded_bare h) value

end Decoder

/-- A binary number that is read back from the text that is written for it. -/
def Binary64.Recovered (x : Binary64) : Prop :=
  Decoder.decodeText Decoder.json (Json.number (.real x)).text = .ok (.number (.real x))

namespace Draft

/-- A binary number is recovered if the literal that its text is denotes it. -/
theorem recovered_iff {x : Binary64} :
    x.Recovered ↔ ∃ l, readNumber (Number.real x).text = .ok (l, []) ∧ l.value? = some (.real x) := by
  have hdecode {l : NumberLiteral} (hread : readNumber (Number.real x).text = .ok (l, [])) :
      Decoder.decodeText Decoder.json (Json.number (.real x)).text =
        Decoder.json Decoder.nesting ((l.value?.map Draft.number).getD .unreadable) :=
    Decoder.decodeText_of_spells (spells_literal hread) Decoder.json
  constructor
  · intro h
    obtain ⟨l, hread⟩ := (Number.real x).exists_readNumber
    rw [Binary64.Recovered, hdecode hread] at h
    cases hvalue : l.value? with
    | none => simp [hvalue, Decoder.json] at h
    | some n =>
        simp only [hvalue, Option.map_some, Option.getD_some, Decoder.json, Except.ok.injEq, Json.number.injEq] at h
        exact ⟨l, hread, by rw [hvalue, h]⟩
  · rintro ⟨l, hread, hvalue⟩
    rw [Binary64.Recovered, hdecode hread, hvalue]
    rfl

theorem spells_real {x : Binary64} (h : x.Recovered) : Spells (Number.real x).text (.number (.real x)) := by
  obtain ⟨l, hread, hvalue⟩ := recovered_iff.1 h
  exact spells_number hread hvalue

end Draft

end Attest

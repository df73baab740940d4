import Attest.Json.Text
import Attest.Proofs.Json.Scan
import Mathlib.Data.List.Forall2

/-!
What texts of the grammar are texts of. A string may be written with any of the escapes, and what a list or an object
holds may be written with any blanks around each part. The compact text is one of these ways.

A way of writing relates what is written to its texts. Those of lists and objects are given by that of what they hold,
whatever this is: strings, drafts, or lists in turn.
-/

namespace Attest.Json.Grammar

/-! ### Strings -/

/-- The hexadecimal digit of a number below sixteen, small or capital. -/
def HexDigit (n : Nat) (c : Char) : Prop :=
  n < 16 ∧ (c = Nat.digitChar n ∨ c = (Nat.digitChar n).toUpper)

/-- Four hexadecimal digits, with the number that they denote. -/
inductive FourHex : Nat → List Char → Prop
  | mk {i j k l : Nat} {a b c d : Char} (ha : HexDigit i a) (hb : HexDigit j b) (hc : HexDigit k c)
      (hd : HexDigit l d) : FourHex (((i * 16 + j) * 16 + k) * 16 + l) [a, b, c, d]

/-- The letters of the escapes that have one, with the characters that they mean. -/
def simpleEscapes : List (Char × Char) :=
  [('"', '"'), ('\\', '\\'), ('/', '/'), ('b', '\x08'), ('f', '\x0c'), ('n', '\n'), ('r', '\r'), ('t', '\t')]

/-- The ways to write a character in a string. Characters beyond the first `2 ^ 16` can be escaped as two surrogates. -/
inductive Writes : Char → List Char → Prop
  | plain {c : Char} (hprintable : 32 ≤ c.toNat) (hquote : c ≠ '"') (hslash : c ≠ '\\') : Writes c [c]
  | escape {e c} (h : (e, c) ∈ simpleEscapes) : Writes c ['\\', e]
  | unicode {c : Char} {digits} (h : FourHex c.toNat digits) : Writes c ('\\' :: 'u' :: digits)
  | surrogates {c : Char} {m n high low} (hhigh : FourHex m high) (hlow : FourHex n low)
      (hm : 0xD800 ≤ m ∧ m < 0xDC00) (hn : 0xDC00 ≤ n ∧ n < 0xE000)
      (hc : c.toNat = (m - 0xD800) * 0x400 + (n - 0xDC00) + 0x10000) :
      Writes c ('\\' :: 'u' :: (high ++ '\\' :: 'u' :: low))

/-- The ways to write the characters of a string one after the other. -/
inductive WritesAll : List Char → List Char → Prop
  | nil : WritesAll [] []
  | cons {c piece chars cs} (hc : Writes c piece) (h : WritesAll chars cs) : WritesAll (c :: chars) (piece ++ cs)

/-- The texts of a string. -/
inductive Quoted : String → List Char → Prop
  | mk {s : String} {cs} (h : WritesAll s.toList cs) : Quoted s ('"' :: (cs ++ ['"']))

/-! ### Lists and objects -/

section

variable {α β : Type} {item : α → List Char → Prop}

/-- A text with blanks around it. -/
inductive Padded (item : α → List Char → Prop) : α → List Char → Prop
  | mk {a before cs after} (hbefore : Blanks before) (h : item a cs) (hafter : Blanks after) :
      Padded item a (before ++ (cs ++ after))

/-- One or more texts with commas between them and blanks around each. -/
inductive Series (item : α → List Char → Prop) : List α → List Char → Prop
  | last {a cs} (h : Padded item a cs) : Series item [a] cs
  | more {a as first rest} (hfirst : Padded item a first) (hrest : Series item as rest) :
      Series item (a :: as) (first ++ ',' :: rest)

/-- Nothing or a series between brackets. -/
inductive Enclosed (opening closing : Char) (item : α → List Char → Prop) : List α → List Char → Prop
  | empty {bs} (h : Blanks bs) : Enclosed opening closing item [] (opening :: (bs ++ [closing]))
  | series {as cs} (h : Series item as cs) : Enclosed opening closing item as (opening :: (cs ++ [closing]))

/-- A name with its value. -/
inductive Named (value : α → List Char → Prop) : String × α → List Char → Prop
  | mk {key name after before a cs} (hname : Quoted key name) (hafter : Blanks after) (hbefore : Blanks before)
      (h : value a cs) : Named value (key, a) (name ++ (after ++ ':' :: (before ++ cs)))

/-- The texts of a list. -/
abbrev Listed (item : α → List Char → Prop) : List α → List Char → Prop :=
  Enclosed '[' ']' item

/-- The texts of an object, whose names may be repeated. -/
abbrev Membered (value : α → List Char → Prop) : List (String × α) → List Char → Prop :=
  Enclosed '{' '}' (Named value)

/-- Each way of writing what is held gives one for what holds it. -/
theorem Padded.imp {item' : β → List Char → Prop} {f : α → β} (h : ∀ a cs, item a cs → item' (f a) cs)
    {a : α} {cs : List Char} (hpadded : Padded item a cs) : Padded item' (f a) cs := by
  cases hpadded with
  | mk hbefore ha hafter => exact .mk hbefore (h _ _ ha) hafter

theorem Series.map {item' : β → List Char → Prop} {f : α → β} (h : ∀ a cs, item a cs → item' (f a) cs)
    {as : List α} {cs : List Char} (hseries : Series item as cs) : Series item' (as.map f) cs := by
  induction hseries with
  | last ha => exact .last (ha.imp h)
  | more hfirst _ ih => exact .more (hfirst.imp h) ih

theorem Enclosed.map {opening closing : Char} {item' : β → List Char → Prop} {f : α → β}
    (h : ∀ a cs, item a cs → item' (f a) cs) {as : List α} {cs : List Char}
    (henclosed : Enclosed opening closing item as cs) : Enclosed opening closing item' (as.map f) cs := by
  cases henclosed with
  | empty hbs => exact .empty hbs
  | series hseries => exact .series (hseries.map h)

theorem Named.map {value : α → List Char → Prop} {value' : β → List Char → Prop} {f : α → β}
    (h : ∀ a cs, value a cs → value' (f a) cs) {m : String × α} {cs : List Char} (hnamed : Named value m cs) :
    Named value' (m.1, f m.2) cs := by
  cases hnamed with
  | mk hname hafter hbefore ha => exact .mk hname hafter hbefore (h _ _ ha)

end

/-! ### The compact text -/

theorem hexDigit_digitChar {n : Nat} (h : n < 16) : HexDigit n (Nat.digitChar n) :=
  ⟨h, .inl rfl⟩

theorem fourHex_control {c : Char} (h : c.toNat < 32) : FourHex c.toNat ('0' :: '0' :: hexPair c.toNat) := by
  have hzero : HexDigit 0 '0' := hexDigit_digitChar (by decide)
  have hfirst := hexDigit_digitChar (show c.toNat / 16 < 16 by omega)
  have hlast := hexDigit_digitChar (show c.toNat % 16 < 16 by omega)
  have hfour := FourHex.mk hzero hzero hfirst hlast
  rwa [show ((0 * 16 + 0) * 16 + c.toNat / 16) * 16 + c.toNat % 16 = c.toNat by omega] at hfour

theorem writes_escape (c : Char) : Writes c (escape c) := by
  unfold escape
  split_ifs with hquote hslash hback htab hline hfeed hreturn hcontrol
  · exact .escape (by simp [hquote, simpleEscapes])
  · exact .escape (by simp [hslash, simpleEscapes])
  · exact .escape (by simp [hback, simpleEscapes])
  · exact .escape (by simp [htab, simpleEscapes])
  · exact .escape (by simp [hline, simpleEscapes])
  · exact .escape (by simp [hfeed, simpleEscapes])
  · exact .escape (by simp [hreturn, simpleEscapes])
  -- The other control characters are written by their number.
  · exact .unicode (fourHex_control hcontrol)
  · exact .plain (Nat.le_of_not_lt hcontrol) hquote hslash

theorem writesAll_escaped (chars : List Char) : WritesAll chars (chars.flatMap escape) := by
  induction chars with
  | nil => exact .nil
  | cons c chars ih =>
      rw [List.flatMap_cons]
      exact .cons (writes_escape c) ih

theorem quoted_quote (s : String) : Quoted s (quote s) := by
  rw [quote, List.cons_append]
  exact .mk (writesAll_escaped s.toList)

theorem commaSeparated_singleton (t : List Char) : commaSeparated [t] = t := by
  simp [commaSeparated]

theorem commaSeparated_cons (t u : List Char) (ts : List (List Char)) :
    commaSeparated (t :: u :: ts) = t ++ ',' :: commaSeparated (u :: ts) := by
  simp [commaSeparated, List.intercalate]

section

variable {α : Type} {item value : α → List Char → Prop}

theorem padded_bare {a : α} {cs : List Char} (h : item a cs) : Padded item a cs := by
  have hpadded := Padded.mk blanks_nil h blanks_nil
  rwa [List.append_nil, List.nil_append] at hpadded

theorem series_commaSeparated {a : α} {as : List α} {t : List Char} {ts : List (List Char)}
    (h : List.Forall₂ item (a :: as) (t :: ts)) : Series item (a :: as) (commaSeparated (t :: ts)) := by
  induction ts generalizing a as t with
  | nil =>
      obtain ⟨ha, hmore⟩ := List.forall₂_cons.1 h
      obtain rfl := List.forall₂_nil_right_iff.1 hmore
      rw [commaSeparated_singleton]
      exact .last (padded_bare ha)
  | cons u ts ih =>
      obtain ⟨ha, hmore⟩ := List.forall₂_cons.1 h
      obtain ⟨b, bs, -, -, rfl⟩ := List.forall₂_cons_right_iff.1 hmore
      rw [commaSeparated_cons]
      exact .more (padded_bare ha) (ih hmore)

theorem enclosed_commaSeparated {as : List α} {ts : List (List Char)} (opening closing : Char)
    (h : List.Forall₂ item as ts) : Enclosed opening closing item as (opening :: (commaSeparated ts ++ [closing])) := by
  cases h with
  | nil => exact .empty blanks_nil
  | cons ha hmore => exact .series (series_commaSeparated (.cons ha hmore))

theorem listed_renderList {as : List α} {ts : List (List Char)} (h : List.Forall₂ item as ts) :
    Listed item as (renderList ts) :=
  enclosed_commaSeparated '[' ']' h

/-- A member as it is written in an object. -/
def fieldText (field : String × List Char) : List Char :=
  quote field.1 ++ ':' :: field.2

theorem renderFields_eq (fields : List (String × List Char)) :
    renderFields fields = '{' :: commaSeparated (fields.map fieldText) ++ ['}'] :=
  rfl

theorem named_fieldText {key : String} {a : α} {cs : List Char} (h : value a cs) :
    Named value (key, a) (fieldText (key, cs)) := by
  have hnamed := Named.mk (quoted_quote key) blanks_nil blanks_nil h
  rwa [List.nil_append, List.nil_append] at hnamed

theorem membered_renderFields {members : List (String × α)} {fields : List (String × List Char)}
    (h : List.Forall₂ (fun member field => member.1 = field.1 ∧ value member.2 field.2) members fields) :
    Membered value members (renderFields fields) := by
  refine enclosed_commaSeparated '{' '}' (List.forall₂_map_right_iff.2 (h.imp ?_))
  rintro ⟨key, a⟩ ⟨name, cs⟩ ⟨rfl, hvalue⟩
  exact named_fieldText hvalue

end

/-! ### In the grammar -/

theorem HexDigit.hexValue? {n : Nat} {c : Char} (h : HexDigit n c) : Draft.hexValue? c = some n := by
  have hall : ((List.range 16).all fun n => Draft.hexValue? (Nat.digitChar n) == some n &&
      Draft.hexValue? (Nat.digitChar n).toUpper == some n) = true := rfl
  obtain ⟨hlt, hc⟩ := h
  obtain ⟨hsmall, hcapital⟩ := Bool.and_eq_true_iff.1 (List.all_eq_true.1 hall n (List.mem_range.2 hlt))
  rcases hc with rfl | rfl
  · exact eq_of_beq hsmall
  · exact eq_of_beq hcapital

theorem FourHex.piece {n : Nat} {digits : List Char} (h : FourHex n digits) : Piece ('\\' :: 'u' :: digits) := by
  cases h with
  | mk ha hb hc hd =>
      have hdigit {n : Nat} {c : Char} (h : HexDigit n c) : IsHexDigit c :=
        isHexDigit_iff.1 (by rw [h.hexValue?]; rfl)
      refine .unicode rfl ?_
      simp only [List.forall_mem_cons]
      exact ⟨hdigit ha, hdigit hb, hdigit hc, hdigit hd, by simp⟩

theorem WritesAll.pieces {chars cs : List Char} (h : WritesAll chars cs) : Pieces cs := by
  induction h with
  | nil => exact .nil
  | cons hc _ ih =>
      cases hc with
      | plain hprintable hquote hslash => exact .cons (.plain hprintable hquote hslash) ih
      | @escape e _ hmem =>
          refine .cons (.escape ?_) ih
          simp only [simpleEscapes, List.mem_cons, Prod.mk.injEq, List.not_mem_nil, or_false] at hmem
          rcases hmem with h | h | h | h | h | h | h | h <;> simp [h.1]
      | unicode hfour => exact .cons hfour.piece ih
      | @surrogates _ _ _ high low hhigh hlow =>
          have hpieces := Pieces.cons hhigh.piece (.cons hlow.piece ih)
          simpa using hpieces

/-- The texts of strings are those of the grammar. -/
theorem Quoted.stringText {s : String} {cs : List Char} (h : Quoted s cs) : StringText cs := by
  cases h with
  | mk h => exact .mk h.pieces

end Attest.Json.Grammar

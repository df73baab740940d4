import Attest.Proofs.Json.Proper
import Attest.Proofs.Number.Layout

/-!
No two values have the same text.

A text that is written shows where it ends, as long as what follows it could not go on a number. So wherever two texts
with something behind them are alike, what they were written from is the same and what is behind them is too. That holds
of strings, which end with the first quote that is not escaped, and of numbers, whose literals tell them apart, and from
these it carries over to lists and to objects. Which of these a text is shows in its first character.
-/

namespace Attest

open Draft (closes_cons)

/-! ### Numbers -/

theorem Decimal.value_pos_iff {d : Decimal} : 0 < d.value ↔ 0 < d.digits := by
  rw [value, mul_pos_iff_of_pos_right (by positivity), Nat.cast_pos]

namespace DecimalStyle

variable {style : DecimalStyle} {x y : Binary64}

theorem digits_decimal_pos_iff : 0 < (style.decimal x).digits ↔ x.isZero = false := by
  rw [decimal]
  split
  next hzero => simp [hzero]
  next hzero => simp [Decimal.digits_shortest_pos (Bool.eq_false_iff.2 hzero), hzero]

theorem eq_of_decimal_value (hsign : x.negative = y.negative) (h : (style.decimal x).value = (style.decimal y).value) : x = y := by
  have hpos : 0 < (style.decimal x).digits ↔ 0 < (style.decimal y).digits := by
    rw [← Decimal.value_pos_iff, h, Decimal.value_pos_iff]
  by_cases hzero : x.isZero = true
  · have hzero' : y.isZero = true := by
      simpa [digits_decimal_pos_iff, hzero] using hpos
    rw [Binary64.eq_zero_of_isZero hzero, Binary64.eq_zero_of_isZero hzero', hsign]
  · have hzero' : ¬y.isZero = true := by
      simpa [digits_decimal_pos_iff, hzero] using hpos
    rw [decimal, decimal, if_neg hzero, if_neg hzero'] at h
    exact Decimal.eq_of_shortest_value hsign h

end DecimalStyle

namespace Number

/-- Numbers are told apart by their texts. -/
theorem text_injective : Function.Injective text := by
  intro m n h
  obtain ⟨l, hsign, hdenotes, hint, htext⟩ := m.exists_literal
  obtain ⟨l', hsign', hdenotes', hint', htext'⟩ := n.exists_literal
  have hl : l = l' := by
    have hread := hdenotes.readNumber true
    rw [← htext, h, htext', hdenotes'.readNumber true] at hread
    exact (Prod.mk.inj (Except.ok.inj hread)).1.symm
  subst hl
  have hnegative := hsign.symm.trans hsign'
  have hvalue := hdenotes.magnitude.symm.trans hdenotes'.magnitude
  have hkind : (∃ i, m = .int i) ↔ ∃ i, n = .int i := hint.trans hint'.symm
  cases m with
  | int i =>
      obtain ⟨j, rfl⟩ := hkind.1 ⟨i, rfl⟩
      have habs : i.natAbs = j.natAbs := by
        simpa only [decimal, Decimal.value, zpow_zero, mul_one, Nat.cast_inj] using hvalue
      have hneg : i < 0 ↔ j < 0 := by simpa [isNegative] using hnegative
      exact congrArg Number.int (by omega)
  | real x =>
      cases n with
      | int j => exact absurd (hkind.2 ⟨j, rfl⟩) (by simp)
      | real y => exact congrArg Number.real (DecimalStyle.eq_of_decimal_value hnegative hvalue)

end Number

namespace Json

/-! ### Texts that show where they end -/

/-- What was written shows where its text ends, before anything that closes an element. -/
def Delimited {α : Type} (text : α → List Char) (a : α) : Prop :=
  ∀ ⦃b rest rest'⦄, Closes rest → Closes rest' → text a ++ rest = text b ++ rest' → a = b ∧ rest = rest'

theorem delimited_number (n : Number) : Delimited Number.text n := by
  intro m rest rest' hrest hrest' h
  have hread {k : Number} {rest : List Char} (hrest : Closes rest) :
      ∃ l, Draft.readNumber (k.text ++ rest) = .ok (l, rest) := by
    obtain ⟨l, hread⟩ := k.exists_readNumber
    exact ⟨l, Draft.takesFront_readNumber.append hread (hrest.endsNumber Grammar.blanks_nil)⟩
  obtain ⟨l, hl⟩ := hread (k := n) hrest
  obtain ⟨l', hl'⟩ := hread (k := m) hrest'
  rw [h, hl'] at hl
  obtain ⟨-, rfl⟩ := Prod.mk.inj (Except.ok.inj hl)
  exact ⟨Number.text_injective (List.append_cancel_right h), rfl⟩

/-- A string shows its end whatever follows. -/
theorem quote_append_inj {s t : String} {rest rest' : List Char} (h : quote s ++ rest = quote t ++ rest') :
    s = t ∧ rest = rest' := by
  have hread (s : String) (rest : List Char) {fuel : Nat} (hfuel : (quote s).length ≤ fuel) :
      Draft.readString fuel ((quote s).tail ++ rest) = .ok (some s.toList, rest) := by
    have hlength : (s.toList.flatMap escape).length < fuel := by
      rw [quote, List.cons_append, List.length_cons, List.length_append] at hfuel
      omega
    have hread := Draft.readString_of_writesAll (Grammar.writesAll_escaped s.toList) hlength rest
    rwa [quote, List.cons_append, List.tail_cons, List.append_assoc]
  have hs := hread s rest (Nat.le_add_right (quote s).length (quote t).length)
  have ht := hread t rest' (Nat.le_add_left (quote t).length (quote s).length)
  have htail : (quote s).tail ++ rest = (quote t).tail ++ rest' := (List.cons.inj h).2
  rw [htail, ht] at hs
  obtain ⟨hchars, rfl⟩ := Prod.mk.inj (Except.ok.inj hs)
  exact ⟨(String.toList_inj.1 (Option.some.inj hchars)).symm, rfl⟩

/-! ### Series -/

/-- What is behind the first of a series of texts. -/
def seriesTail (closing : Char) (rest : List Char) : List (List Char) → List Char
  | [] => closing :: rest
  | t :: ts => ',' :: (t ++ seriesTail closing rest ts)

theorem commaSeparated_cons_append (t : List Char) (ts : List (List Char)) (closing : Char) (rest : List Char) :
    commaSeparated (t :: ts) ++ closing :: rest = t ++ seriesTail closing rest ts := by
  induction ts generalizing t with
  | nil => rw [Grammar.commaSeparated_singleton, seriesTail]
  | cons u ts ih => rw [Grammar.commaSeparated_cons, List.append_assoc, List.cons_append, ih, seriesTail]

section

variable {α : Type} {text : α → List Char} {closing : Char} {as bs : List α} {rest rest' : List Char}

theorem closes_seriesTail (hclosing : closing = ']' ∨ closing = '}') (ts : List (List Char)) :
    Closes (seriesTail closing rest ts) := by
  cases ts with
  | nil => exact closes_cons (.inr hclosing) rest
  | cons t ts => exact closes_cons (.inl rfl) _

theorem seriesTail_inj (hclosing : closing = ']' ∨ closing = '}') (has : ∀ a ∈ as, Delimited text a)
    (h : seriesTail closing rest (as.map text) = seriesTail closing rest' (bs.map text)) : as = bs ∧ rest = rest' := by
  have hcomma : closing ≠ ',' := by
    rintro rfl
    simp at hclosing
  induction as generalizing bs with
  | nil =>
      cases bs with
      | nil => exact ⟨rfl, (List.cons.inj h).2⟩
      | cons b bs => exact absurd (List.cons.inj h).1 hcomma
  | cons a as ih =>
      cases bs with
      | nil => exact absurd (List.cons.inj h).1.symm hcomma
      | cons b bs =>
          obtain ⟨ha, has⟩ := List.forall_mem_cons.1 has
          obtain ⟨rfl, hmore⟩ :=
            ha (closes_seriesTail hclosing _) (closes_seriesTail hclosing _) (List.cons.inj h).2
          obtain ⟨rfl, rfl⟩ := ih has hmore
          exact ⟨rfl, rfl⟩

/-- A series of texts that does not start with the closing character shows its end by it. -/
theorem commaSeparated_append_inj (hclosing : closing = ']' ∨ closing = '}')
    (hopen : ∀ a, ∃ c tail, text a = c :: tail ∧ c ≠ closing) (has : ∀ a ∈ as, Delimited text a)
    (h : commaSeparated (as.map text) ++ closing :: rest = commaSeparated (bs.map text) ++ closing :: rest') :
    as = bs ∧ rest = rest' := by
  have hempty {b : α} {bs : List α} {rest rest' : List Char} :
      closing :: rest ≠ commaSeparated ((b :: bs).map text) ++ closing :: rest' := by
    intro h
    obtain ⟨c, tail, htext, hc⟩ := hopen b
    rw [List.map_cons, commaSeparated_cons_append, htext] at h
    exact hc (List.cons.inj h).1.symm
  cases as with
  | nil =>
      cases bs with
      | nil => exact ⟨rfl, (List.cons.inj h).2⟩
      | cons b bs => exact absurd h hempty
  | cons a as =>
      cases bs with
      | nil => exact absurd h.symm hempty
      | cons b bs =>
          rw [List.map_cons, List.map_cons, commaSeparated_cons_append, commaSeparated_cons_append] at h
          obtain ⟨ha, has⟩ := List.forall_mem_cons.1 has
          obtain ⟨rfl, hmore⟩ := ha (closes_seriesTail hclosing _) (closes_seriesTail hclosing _) h
          obtain ⟨rfl, rfl⟩ := seriesTail_inj hclosing has hmore
          exact ⟨rfl, rfl⟩

end

/-! ### Values -/

/-- What a value is, apart from its parts. -/
inductive Kind
  | null
  | bool
  | number
  | string
  | array
  | object

def kind : Json → Kind
  | .null => .null
  | .bool _ => .bool
  | .number _ => .number
  | .string _ => .string
  | .array _ => .array
  | .object _ => .object

/-- What a text is, as its first character shows. -/
def Kind.ofFirst (c : Char) : Kind :=
  if c = 'n' then .null
  else if c = 't' ∨ c = 'f' then .bool
  else if c = '"' then .string
  else if c = '[' then .array
  else if c = '{' then .object
  else .number

theorem Kind.ofFirst_numeric {c : Char} (h : c = '-' ∨ c.isDigit = true) : Kind.ofFirst c = .number := by
  have hne : c ≠ 'n' ∧ ¬(c = 't' ∨ c = 'f') ∧ c ≠ '"' ∧ c ≠ '[' ∧ c ≠ '{' := by
    refine ⟨?_, ?_, ?_, ?_, ?_⟩
    case refine_2 => rintro (rfl | rfl) <;> exact absurd h (by decide)
    all_goals rintro rfl; exact absurd h (by decide)
  rw [ofFirst, if_neg hne.1, if_neg hne.2.1, if_neg hne.2.2.1, if_neg hne.2.2.2.1, if_neg hne.2.2.2.2]

theorem exists_render_eq_cons (v : Json) :
    ∃ c tail, v.render = c :: tail ∧ Grammar.Opens c ∧ Kind.ofFirst c = v.kind := by
  cases v with
  | null => exact ⟨'n', _, rfl, by simp [Grammar.Opens], rfl⟩
  | bool b => cases b <;> exact ⟨_, _, rfl, by simp [Grammar.Opens], rfl⟩
  | number n =>
      obtain ⟨c, tail, htext, hc⟩ := n.numberText_text.exists_cons
      exact ⟨c, tail, htext, by unfold Grammar.Opens; tauto, Kind.ofFirst_numeric hc⟩
  | string s => exact ⟨'"', _, rfl, by simp [Grammar.Opens], rfl⟩
  | array items => exact ⟨'[', _, rfl, by simp [Grammar.Opens], rfl⟩
  | object members => exact ⟨'{', _, rfl, by simp [Grammar.Opens], rfl⟩

theorem kind_eq_of_render_append {v w : Json} {rest rest' : List Char} (h : v.render ++ rest = w.render ++ rest') :
    v.kind = w.kind := by
  obtain ⟨c, tail, hv, -, hc⟩ := exists_render_eq_cons v
  obtain ⟨d, tail', hw, -, hd⟩ := exists_render_eq_cons w
  rw [hv, hw] at h
  rw [← hc, ← hd, (List.cons.inj h).1]

theorem delimited_bool (b : Bool) : Delimited render (.bool b) := by
  intro w rest rest' _ _ h
  have hkind := kind_eq_of_render_append h
  cases w <;> cases hkind
  next b' => cases b <;> cases b' <;> simp_all [render]

theorem delimited_array {items : List Json} (hitems : ∀ v ∈ items, Delimited render v) :
    Delimited render (.array items) := by
  intro w rest rest' _ _ h
  have hkind := kind_eq_of_render_append h
  cases w <;> cases hkind
  next items' =>
    have hopen (v : Json) : ∃ c tail, v.render = c :: tail ∧ c ≠ ']' := by
      obtain ⟨c, tail, hv, hc, -⟩ := exists_render_eq_cons v
      exact ⟨c, tail, hv, fun heq => absurd hc (by rw [heq]; unfold Grammar.Opens; decide)⟩
    rw [render_array, render_array, renderList, renderList, List.append_assoc, List.append_assoc] at h
    obtain ⟨rfl, rfl⟩ := commaSeparated_append_inj (.inl rfl) hopen hitems (List.cons.inj h).2
    exact ⟨rfl, rfl⟩

/-- A member as it is written in an object. -/
def memberText (m : String × Json) : List Char :=
  Grammar.fieldText (m.1, m.2.render)

theorem delimited_member {m : String × Json} (hm : Delimited render m.2) : Delimited memberText m := by
  intro n rest rest' hrest hrest' h
  rw [memberText, memberText, Grammar.fieldText, Grammar.fieldText, List.append_assoc, List.append_assoc] at h
  obtain ⟨hkey, hbehind⟩ := quote_append_inj h
  obtain ⟨hvalue, hrest⟩ := hm hrest hrest' (List.cons.inj hbehind).2
  exact ⟨Prod.ext hkey hvalue, hrest⟩

theorem delimited_object {members : List (String × Json)} (hmembers : ∀ m ∈ members, Delimited render m.2) :
    Delimited render (.object members) := by
  intro w rest rest' _ _ h
  have hkind := kind_eq_of_render_append h
  cases w <;> cases hkind
  next members' =>
    have hopen (m : String × Json) : ∃ c tail, memberText m = c :: tail ∧ c ≠ '}' :=
      ⟨'"', _, rfl, by decide⟩
    rw [render_object, render_object, renderFields, renderFields, List.map_map, List.map_map, List.append_assoc,
      List.append_assoc] at h
    obtain ⟨rfl, rfl⟩ := commaSeparated_append_inj (.inr rfl) hopen
      (fun m hm => delimited_member (hmembers m hm)) (List.cons.inj h).2
    exact ⟨rfl, rfl⟩

mutual

/-- **Every value shows where its text ends**, and what it is. -/
theorem delimited_render : ∀ v : Json, Delimited render v
  | .null => by
      intro w rest rest' _ _ h
      have hkind := kind_eq_of_render_append h
      cases w <;> cases hkind
      exact ⟨rfl, List.append_cancel_left h⟩
  | .bool b => delimited_bool b
  | .number n => by
      intro w rest rest' hrest hrest' h
      have hkind := kind_eq_of_render_append h
      cases w <;> cases hkind
      next m =>
        obtain ⟨rfl, rfl⟩ := delimited_number n hrest hrest' h
        exact ⟨rfl, rfl⟩
  | .string s => by
      intro w rest rest' _ _ h
      have hkind := kind_eq_of_render_append h
      cases w <;> cases hkind
      next t =>
        obtain ⟨rfl, rfl⟩ := quote_append_inj h
        exact ⟨rfl, rfl⟩
  | .array items => delimited_array (delimited_items items)
  | .object members => delimited_object (delimited_members members)
termination_by structural v => v

theorem delimited_items : ∀ items : List Json, ∀ v ∈ items, Delimited render v
  | [] => fun _ h => nomatch h
  | v :: rest => List.forall_mem_cons.2 ⟨delimited_render v, delimited_items rest⟩
termination_by structural items => items

theorem delimited_members : ∀ members : List (String × Json), ∀ m ∈ members, Delimited render m.2
  | [] => fun _ h => nomatch h
  | m :: rest => List.forall_mem_cons.2 ⟨delimited_memberValue m, delimited_members rest⟩
termination_by structural members => members

theorem delimited_memberValue : ∀ m : String × Json, Delimited render m.2
  | (_, v) => delimited_render v
termination_by structural m => m

end

theorem render_injective : Function.Injective render := by
  intro v w h
  have hcloses : Closes [] := fun _ hc => nomatch hc
  exact (delimited_render v hcloses hcloses (congrArg (· ++ []) h)).1

theorem text_injective : Function.Injective text := fun _ _ h => render_injective (String.ofList_injective h)

end Json

end Attest

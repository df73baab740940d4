/-!
The grammar of RFC 8259 over the characters of a text, with how deep the containers of a value are nested. Nothing
here knows how a text is read: the productions say which texts there are, and a text may be split up in any way that
they allow.

What is called an element here is a value with the blanks around it. Blanks only stand where an element may, before
and after the name of a member, and inside an empty container.
-/

namespace Attest.Json.Grammar

def Blanks (cs : List Char) : Prop :=
  ∀ c ∈ cs, c = ' ' ∨ c = '\t' ∨ c = '\n' ∨ c = '\r'

/-! ### Numbers -/

/-- A nonempty run of digits. -/
def Digits (cs : List Char) : Prop :=
  cs ≠ [] ∧ ∀ c ∈ cs, c.isDigit = true

/-- Zero, or a run of digits that does not start with zero. -/
inductive Whole : List Char → Prop
  | zero : Whole ['0']
  | run {cs} (h : Digits cs) (hzero : cs.head? ≠ some '0') : Whole cs

inductive Fraction : List Char → Prop
  | absent : Fraction []
  | digits {cs} (h : Digits cs) : Fraction ('.' :: cs)

inductive Exponent : List Char → Prop
  | absent : Exponent []
  | digits {letter sign cs} (hletter : letter = 'e' ∨ letter = 'E') (hsign : sign = [] ∨ sign = ['+'] ∨ sign = ['-'])
      (h : Digits cs) : Exponent (letter :: (sign ++ cs))

inductive NumberText : List Char → Prop
  | mk {minus whole fraction exponent} (hminus : minus = [] ∨ minus = ['-']) (hwhole : Whole whole)
      (hfraction : Fraction fraction) (hexponent : Exponent exponent) :
      NumberText (minus ++ (whole ++ (fraction ++ exponent)))

/-! ### Strings -/

def IsHexDigit (c : Char) : Prop :=
  c.isDigit = true ∨ 'a' ≤ c ∧ c ≤ 'f' ∨ 'A' ≤ c ∧ c ≤ 'F'

/-- What stands for one character of a string, or for half a surrogate pair. -/
inductive Piece : List Char → Prop
  | plain {c : Char} (hprintable : 32 ≤ c.toNat) (hquote : c ≠ '"') (hslash : c ≠ '\\') : Piece [c]
  | escape {c} (h : c ∈ ['"', '\\', '/', 'b', 'f', 'n', 'r', 't']) : Piece ['\\', c]
  | unicode {digits} (hlength : digits.length = 4) (h : ∀ c ∈ digits, IsHexDigit c) : Piece ('\\' :: 'u' :: digits)

inductive Pieces : List Char → Prop
  | nil : Pieces []
  | cons {piece cs} (hpiece : Piece piece) (h : Pieces cs) : Pieces (piece ++ cs)

inductive StringText : List Char → Prop
  | mk {cs} (h : Pieces cs) : StringText ('"' :: (cs ++ ['"']))

/-! ### Values -/

mutual

/-- A value whose containers are nested so deep, a value that is no container counting as zero. -/
inductive Value : Nat → List Char → Prop
  | word {cs} (h : cs = "true".toList ∨ cs = "false".toList ∨ cs = "null".toList) : Value 0 cs
  | number {cs} (h : NumberText cs) : Value 0 cs
  | string {cs} (h : StringText cs) : Value 0 cs
  | emptyArray {cs} (h : Blanks cs) : Value 1 ('[' :: (cs ++ [']']))
  | array {n cs} (h : Items n cs) : Value (n + 1) ('[' :: (cs ++ [']']))
  | emptyObject {cs} (h : Blanks cs) : Value 1 ('{' :: (cs ++ ['}']))
  | object {n cs} (h : Members n cs) : Value (n + 1) ('{' :: (cs ++ ['}']))

/-- A value with the blanks around it. -/
inductive Element : Nat → List Char → Prop
  | mk {n before cs after} (hbefore : Blanks before) (h : Value n cs) (hafter : Blanks after) :
      Element n (before ++ (cs ++ after))

/-- One or more elements with commas between them. -/
inductive Items : Nat → List Char → Prop
  | last {n cs} (h : Element n cs) : Items n cs
  | more {m n first rest} (hfirst : Element m first) (hrest : Items n rest) : Items (max m n) (first ++ ',' :: rest)

/-- One or more names, each with its element, with commas between them. -/
inductive Members : Nat → List Char → Prop
  | last {n before name after cs} (hbefore : Blanks before) (hname : StringText name) (hafter : Blanks after)
      (h : Element n cs) : Members n (before ++ (name ++ (after ++ ':' :: cs)))
  | more {m n before name after first rest} (hbefore : Blanks before) (hname : StringText name) (hafter : Blanks after)
      (hfirst : Element m first) (hrest : Members n rest) :
      Members (max m n) (before ++ (name ++ (after ++ ':' :: (first ++ ',' :: rest))))

end

/-! ### Blanks -/

theorem blanks_nil : Blanks [] :=
  fun _ h => nomatch h

theorem Blanks.append {a b : List Char} (ha : Blanks a) (hb : Blanks b) : Blanks (a ++ b) :=
  fun c hc => (List.mem_append.1 hc).elim (ha c) (hb c)

/-- More blanks before an element. -/
theorem Element.blanks_append {n : Nat} {bs cs : List Char} (hbs : Blanks bs) (h : Element n cs) :
    Element n (bs ++ cs) := by
  cases h with
  | mk hbefore hvalue hafter =>
      rw [← List.append_assoc]
      exact .mk (hbs.append hbefore) hvalue hafter

theorem Items.blanks_append {n : Nat} {bs cs : List Char} (hbs : Blanks bs) (h : Items n cs) : Items n (bs ++ cs) := by
  cases h with
  | last h => exact .last (h.blanks_append hbs)
  | more hfirst hrest =>
      rw [← List.append_assoc]
      exact .more (hfirst.blanks_append hbs) hrest

theorem Members.blanks_append {n : Nat} {bs cs : List Char} (hbs : Blanks bs) (h : Members n cs) :
    Members n (bs ++ cs) := by
  cases h with
  | last hbefore hname hafter h =>
      rw [← List.append_assoc]
      exact .last (hbs.append hbefore) hname hafter h
  | more hbefore hname hafter hfirst hrest =>
      rw [← List.append_assoc]
      exact .more (hbs.append hbefore) hname hafter hfirst hrest

/-! ### First characters -/

/-- The characters that a value may start with. -/
def Opens (c : Char) : Prop :=
  c = '{' ∨ c = '[' ∨ c = '"' ∨ c = '-' ∨ c.isDigit = true ∨ c = 't' ∨ c = 'f' ∨ c = 'n'

theorem Digits.exists_cons {cs : List Char} (h : Digits cs) :
    ∃ c rest, cs = c :: rest ∧ c.isDigit = true ∧ ∀ d ∈ rest, d.isDigit = true := by
  obtain ⟨hne, hdigits⟩ := h
  obtain ⟨c, rest, rfl⟩ := List.exists_cons_of_ne_nil hne
  exact ⟨c, rest, rfl, hdigits c List.mem_cons_self, fun d hd => hdigits d (List.mem_cons_of_mem c hd)⟩

theorem Whole.digits {cs : List Char} (h : Whole cs) : Digits cs := by
  cases h with
  | zero => exact ⟨List.cons_ne_nil _ _, List.forall_mem_singleton.2 rfl⟩
  | run h _ => exact h

theorem Whole.exists_cons {cs : List Char} (h : Whole cs) : ∃ c rest, cs = c :: rest ∧ c.isDigit = true := by
  obtain ⟨c, rest, rfl, hc, -⟩ := h.digits.exists_cons
  exact ⟨c, rest, rfl, hc⟩

theorem NumberText.exists_cons {cs : List Char} (h : NumberText cs) :
    ∃ c rest, cs = c :: rest ∧ (c = '-' ∨ c.isDigit = true) := by
  cases h with
  | mk hminus hwhole _ _ =>
      obtain ⟨c, rest, rfl, hc⟩ := hwhole.exists_cons
      rcases hminus with rfl | rfl
      · exact ⟨c, _, rfl, .inr hc⟩
      · exact ⟨'-', _, rfl, .inl rfl⟩

/-- A value is not empty, and its first character tells that it is a value. -/
theorem Value.exists_cons {n : Nat} {cs : List Char} (h : Value n cs) : ∃ c rest, cs = c :: rest ∧ Opens c := by
  cases h with
  | word h =>
      rcases h with rfl | rfl | rfl
      · exact ⟨'t', _, rfl, by simp [Opens]⟩
      · exact ⟨'f', _, rfl, by simp [Opens]⟩
      · exact ⟨'n', _, rfl, by simp [Opens]⟩
  | number h =>
      obtain ⟨c, rest, rfl, hc⟩ := h.exists_cons
      refine ⟨c, rest, rfl, ?_⟩
      rcases hc with rfl | hc
      · simp [Opens]
      · simp [Opens, hc]
  | string h =>
      cases h with
      | mk h => exact ⟨'"', _, rfl, by simp [Opens]⟩
  | emptyArray _ | array _ => exact ⟨'[', _, rfl, by simp [Opens]⟩
  | emptyObject _ | object _ => exact ⟨'{', _, rfl, by simp [Opens]⟩

end Attest.Json.Grammar

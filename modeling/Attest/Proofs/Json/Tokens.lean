import Attest.Json.Text
import Attest.Proofs.Json.Nesting
import Attest.Proofs.Json.Notation
import Attest.Proofs.Json.Recognition
import Attest.Proofs.Number.Layout

/-!
The text of a value is recognized, with blanks or without.

A text is a sequence of tokens. Between them blanks may stand, as they do in a text that is laid out in lines, and the
compact text is the one without any. Whatever blanks there are, the text is one value of the grammar, with the nesting
of the value that was written, so it passes the check just if the limit allows this nesting.
-/

namespace Attest

namespace Json

/-! ### Tokens -/

mutual

/-- The tokens of the text of a value: brackets, commas, colons, and whole words, numbers and strings. -/
def tokens : Json → List (List Char)
  | .array items => ['['] :: ([[',']].intercalate (tokensOfItems items) ++ [[']']])
  | .object members => ['{'] :: ([[',']].intercalate (tokensOfMembers members) ++ [['}']])
  | .null => [render .null]
  | .bool b => [render (.bool b)]
  | .number n => [render (.number n)]
  | .string s => [render (.string s)]
termination_by structural v => v

def tokensOfItems : List Json → List (List (List Char))
  | [] => []
  | v :: rest => v.tokens :: tokensOfItems rest
termination_by structural vs => vs

def tokensOfMembers : List (String × Json) → List (List (List Char))
  | [] => []
  | m :: rest => tokensOfMember m :: tokensOfMembers rest
termination_by structural ms => ms

def tokensOfMember : String × Json → List (List Char)
  | (key, v) => quote key :: [':'] :: v.tokens
termination_by structural m => m

end

theorem flatten_intercalate_commas (parts : List (List (List Char))) :
    ([[',']].intercalate parts).flatten = commaSeparated (parts.map List.flatten) := by
  induction parts with
  | nil => rfl
  | cons ts parts ih =>
      cases parts with
      | nil => rw [List.intercalate_singleton, List.map_singleton, Grammar.commaSeparated_singleton]
      | cons us parts =>
          rw [List.intercalate_cons_cons, List.flatten_append, ih, List.flatten_append]
          simp [Grammar.commaSeparated_cons]

mutual

/-- The compact text is the tokens one after the other. -/
theorem flatten_tokens : ∀ v : Json, v.tokens.flatten = v.render
  | .array items => by
      simp [tokens, render, flatten_intercalate_commas, map_flatten_tokensOfItems items]
  | .object members => by
      simp [tokens, render, flatten_intercalate_commas, map_flatten_tokensOfMembers members]
  | .null | .bool _ | .number _ | .string _ => List.append_nil _
termination_by structural v => v

theorem map_flatten_tokensOfItems : ∀ items : List Json, (tokensOfItems items).map List.flatten = renderItems items
  | [] => rfl
  | v :: rest => by rw [tokensOfItems, renderItems, List.map_cons, flatten_tokens v, map_flatten_tokensOfItems rest]
termination_by structural items => items

theorem map_flatten_tokensOfMembers :
    ∀ members : List (String × Json), (tokensOfMembers members).map List.flatten = renderMembers members
  | [] => rfl
  | m :: rest => by
      rw [tokensOfMembers, renderMembers, List.map_cons, flatten_tokensOfMember m, map_flatten_tokensOfMembers rest]
termination_by structural members => members

theorem flatten_tokensOfMember : ∀ m : String × Json, (tokensOfMember m).flatten = renderMember m
  | (key, v) => by rw [tokensOfMember, renderMember, List.flatten_cons, List.flatten_cons, flatten_tokens v]; rfl
termination_by structural m => m

end

namespace Grammar

/-! ### Blanks between tokens -/

/-- A text of these tokens with blanks before, between and after them. -/
inductive Spaced : List (List Char) → List Char → Prop
  | nil {bs} (h : Blanks bs) : Spaced [] bs
  | cons {bs t ts cs} (hbs : Blanks bs) (h : Spaced ts cs) : Spaced (t :: ts) (bs ++ (t ++ cs))

theorem spaced_flatten (ts : List (List Char)) : Spaced ts ts.flatten := by
  induction ts with
  | nil => exact .nil blanks_nil
  | cons t ts ih => exact .cons blanks_nil ih

variable {t : List Char} {ts us : List (List Char)} {cs : List Char}

theorem Spaced.blanks (h : Spaced [] cs) : Blanks cs := by
  cases h with
  | nil h => exact h

/-- The text falls into parts where its tokens do. -/
theorem Spaced.split (h : Spaced (ts ++ t :: us) cs) :
    ∃ before after, cs = before ++ (t ++ after) ∧ Spaced ts before ∧ Spaced us after := by
  induction ts generalizing cs with
  | nil =>
      cases h with
      | cons hbs h => exact ⟨_, _, rfl, .nil hbs, h⟩
  | cons s ts ih =>
      cases h with
      | cons hbs h =>
          obtain ⟨before, after, rfl, hbefore, hafter⟩ := ih h
          exact ⟨_, after, by simp only [List.append_assoc], .cons hbs hbefore, hafter⟩

theorem Spaced.split_first (h : Spaced (t :: us) cs) :
    ∃ bs after, cs = bs ++ (t ++ after) ∧ Blanks bs ∧ Spaced us after := by
  cases h with
  | cons hbs h => exact ⟨_, _, rfl, hbs, h⟩

/-! ### Values with blanks -/

theorem element_of_token (h : Spaced [t] cs) (hvalue : Value 0 t) : Element 0 cs := by
  obtain ⟨before, after, rfl, hbefore, hafter⟩ := h.split_first
  exact .mk hbefore hvalue hafter.blanks

/-- A text of tokens in brackets is a text of these tokens between the brackets, with blanks around the whole. -/
theorem Spaced.enclosed {opening closing : Char} (h : Spaced ([opening] :: (ts ++ [[closing]])) cs) :
    ∃ before inner after, cs = before ++ (opening :: (inner ++ [closing]) ++ after) ∧
      Blanks before ∧ Spaced ts inner ∧ Blanks after := by
  obtain ⟨before, rest, rfl, hbefore, hrest⟩ := h.split_first
  obtain ⟨inner, after, rfl, hinner, hafter⟩ := hrest.split
  exact ⟨before, inner, after, by simp, hbefore, hinner, hafter.blanks⟩

theorem Spaced.split_comma {ps : List (List Char)} {qs : List (List (List Char))}
    (h : Spaced ([[',']].intercalate (ts :: ps :: qs)) cs) :
    ∃ first rest, cs = first ++ ',' :: rest ∧ Spaced ts first ∧ Spaced ([[',']].intercalate (ps :: qs)) rest := by
  rw [List.intercalate_cons_cons, List.append_assoc, List.singleton_append] at h
  exact h.split

mutual

/-- However the tokens of a value are spaced, they make a value of its nesting. -/
theorem element_of_spaced : ∀ (v : Json) {cs : List Char}, Spaced v.tokens cs → Element v.nesting cs
  | .null, _, h => element_of_token h (.word (.inr (.inr rfl)))
  | .bool true, _, h => element_of_token h (.word (.inl rfl))
  | .bool false, _, h => element_of_token h (.word (.inr (.inl rfl)))
  | .number n, _, h => element_of_token h (.number n.numberText_text)
  | .string s, _, h => element_of_token h (.string (quoted_quote s).stringText)
  | .array items, _, h => by
      obtain ⟨before, inner, after, rfl, hbefore, hinner, hafter⟩ := h.enclosed
      refine .mk hbefore ?_ hafter
      -- The grammar has a production of its own for brackets with nothing but blanks between them.
      rcases items_of_spaced items hinner with ⟨rfl, hblanks⟩ | hitems
      · exact .emptyArray hblanks
      · exact .array hitems
  | .object members, _, h => by
      obtain ⟨before, inner, after, rfl, hbefore, hinner, hafter⟩ := h.enclosed
      refine .mk hbefore ?_ hafter
      rcases members_of_spaced members hinner with ⟨rfl, hblanks⟩ | hmembers
      · exact .emptyObject hblanks
      · exact .object hmembers
termination_by structural v => v

theorem items_of_spaced : ∀ (items : List Json) {cs : List Char},
    Spaced ([[',']].intercalate (tokensOfItems items)) cs →
      items = [] ∧ Blanks cs ∨ Items (nestingItems items) cs
  | [], _, h => .inl ⟨rfl, h.blanks⟩
  | [v], _, h => by
      have helement := element_of_spaced v (by simpa [tokensOfItems] using h)
      exact .inr (.last (by simpa [nestingItems] using helement))
  | v :: w :: rest, _, h => by
      obtain ⟨first, others, rfl, hfirst, hothers⟩ := h.split_comma
      obtain ⟨hnil, -⟩ | hitems := items_of_spaced (w :: rest) hothers
      · cases hnil
      · exact .inr (.more (element_of_spaced v hfirst) hitems)
termination_by structural items => items

theorem members_of_spaced : ∀ (members : List (String × Json)) {cs : List Char},
    Spaced ([[',']].intercalate (tokensOfMembers members)) cs →
      members = [] ∧ Blanks cs ∨ Members (nestingMembers members) cs
  | [], _, h => .inl ⟨rfl, h.blanks⟩
  | [m], _, h => by
      obtain ⟨before, name, after, cs, rfl, hbefore, hname, hafter, helement⟩ :=
        member_of_spaced m (by simpa [tokensOfMembers] using h)
      exact .inr (.last hbefore hname hafter (by simpa [nestingMembers] using helement))
  | m :: n :: rest, _, h => by
      obtain ⟨first, others, rfl, hfirst, hothers⟩ := h.split_comma
      obtain ⟨before, name, after, cs, rfl, hbefore, hname, hafter, helement⟩ := member_of_spaced m hfirst
      obtain ⟨hnil, -⟩ | hmembers := members_of_spaced (n :: rest) hothers
      · cases hnil
      · have hmore := Members.more hbefore hname hafter helement hmembers
        exact .inr (by simpa [nestingMembers] using hmore)
termination_by structural members => members

theorem member_of_spaced : ∀ (m : String × Json) {cs : List Char}, Spaced (tokensOfMember m) cs →
    ∃ before name after value, cs = before ++ (name ++ (after ++ ':' :: value)) ∧
      Blanks before ∧ StringText name ∧ Blanks after ∧ Element (nestingMember m) value
  | (key, v), _, h => by
      obtain ⟨before, rest, rfl, hbefore, hrest⟩ := h.split_first
      obtain ⟨after, value, rfl, hafter, hvalue⟩ := hrest.split_first
      exact ⟨before, quote key, after, value, rfl, hbefore, (quoted_quote key).stringText, hafter,
        element_of_spaced v hvalue⟩
termination_by structural m => m

end

end Grammar

/-! ### Recognition -/

open Grammar (Spaced)

variable (v : Json) (limit : Nat)

theorem isText_of_spaced {cs : List Char} (h : Spaced v.tokens cs) :
    isText (String.ofList cs) limit = decide (v.nesting ≤ limit) := by
  have helement : Grammar.Element v.nesting (String.ofList cs).toList := by
    rw [String.toList_ofList]
    exact Grammar.element_of_spaced v h
  rw [isText, checkText_of_element helement]
  split_ifs with hle
  · rw [decide_eq_true hle]
    rfl
  · rw [decide_eq_false hle]
    rfl

/-- **What is written of a value is recognized.** The compact text passes the check just if the limit allows the
nesting of the value, and blanks between its tokens make no difference. -/
theorem isText_text_iff :
    v.tokens.flatten = v.render ∧ (isText v.text limit = true ↔ v.nesting ≤ limit) ∧
      ∀ cs, Spaced v.tokens cs → isText (String.ofList cs) limit = isText v.text limit := by
  have hcompact : isText v.text limit = decide (v.nesting ≤ limit) := by
    have hspaced := Grammar.spaced_flatten v.tokens
    rw [flatten_tokens] at hspaced
    exact isText_of_spaced v limit hspaced
  refine ⟨flatten_tokens v, by rw [hcompact, decide_eq_true_iff], ?_⟩
  intro cs h
  rw [hcompact, isText_of_spaced v limit h]

/-- An object around an empty list. -/
def shelf : Json :=
  .object [("box", .array [])]

/-- The same over three lines. -/
def spacedShelf : List Char :=
  ['{', '\n', ' ', '"', 'b', 'o', 'x', '"', ':', ' ', '[', ']', '\n', '}']

theorem isText_text_iff_spacedShelf :
    Spaced shelf.tokens spacedShelf ∧ isText (String.ofList spacedShelf) 1 = isText shelf.text 1 ∧
      isText shelf.text 1 = false ∧ isText (String.ofList spacedShelf) 2 = true := by
  have hline : Grammar.Blanks ['\n'] := by simp [Grammar.Blanks]
  have hspace : Grammar.Blanks [' '] := by simp [Grammar.Blanks]
  have hspaced : Spaced shelf.tokens spacedShelf :=
    .cons Grammar.blanks_nil (.cons (hline.append hspace) (.cons Grammar.blanks_nil (.cons hspace
      (.cons Grammar.blanks_nil (.cons hline (.nil Grammar.blanks_nil))))))
  obtain ⟨-, hshallow, hsame⟩ := isText_text_iff shelf 1
  obtain ⟨-, hdeep, hsame'⟩ := isText_text_iff shelf 2
  refine ⟨hspaced, hsame _ hspaced, ?_, ?_⟩
  · rw [Bool.eq_false_iff, ne_eq, hshallow]
    decide
  · rw [hsame' _ hspaced, hdeep]
    decide

end Json

end Attest

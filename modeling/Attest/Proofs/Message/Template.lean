import Attest.Message.Template
import Mathlib.Data.Nat.Digits.Defs

/-!
What filling a template does, against a grammar of templates. A template is a row of tokens: a doubled brace, a
placeholder, which is a numeral in braces, or a character that is no brace. Filling puts for each token what it stands
for, one after the other, and fails just if the text is no such row or a placeholder has no argument.

No token begins like another one, so the first characters of a text tell its first token. This is what makes a filler
that looks one character ahead exact, and it is why templates can be put one behind the other.
-/

namespace Attest.Template

/-- A number as it is written in a placeholder, leading zeros and all. -/
structure Numeral where
  digits : List Char
  nonempty : digits ≠ []
  isDigit : ∀ d ∈ digits, d.isDigit = true

/-- The number that is meant, the last digit counting one. -/
def Numeral.value (n : Numeral) : Nat :=
  Nat.ofDigits 10 (n.digits.reverse.map fun d => d.toNat - '0'.toNat)

inductive Token
  | opening
  | closing
  | placeholder (numeral : Numeral)
  | plain (c : Char) (opening_ne : c ≠ '{') (closing_ne : c ≠ '}')

namespace Token

/-- How a token is written. -/
def source : Token → List Char
  | opening => ['{', '{']
  | closing => ['}', '}']
  | placeholder numeral => '{' :: (numeral.digits ++ ['}'])
  | plain c _ _ => [c]

/-- What a token stands for; a placeholder stands for its argument, whatever is written in it. -/
def text? (args : List String) : Token → Option (List Char)
  | opening => some ['{']
  | closing => some ['}']
  | placeholder numeral => args[numeral.value]?.map String.toList
  | plain c _ _ => some [c]

end Token

/-- A template in one piece, from its tokens. -/
def written (tokens : List Token) : List Char :=
  tokens.flatMap Token.source

@[simp] theorem written_nil : written [] = [] := rfl

@[simp] theorem written_cons (token : Token) (tokens : List Token) :
    written (token :: tokens) = token.source ++ written tokens := rfl

@[simp] theorem written_append (tokens more : List Token) :
    written (tokens ++ more) = written tokens ++ written more :=
  List.flatMap_append

/-- The text that tokens come to, each replaced by what it stands for. -/
inductive Fills (args : List String) : List Token → List Char → Prop
  | nil : Fills args [] []
  | cons {token tokens piece out} (h : token.text? args = some piece) (hrest : Fills args tokens out) :
      Fills args (token :: tokens) (piece ++ out)

variable {args : List String} {tokens : List Token} {out : List Char}

theorem Fills.append {more : List Token} {out' : List Char} (h : Fills args tokens out) (h' : Fills args more out') :
    Fills args (tokens ++ more) (out ++ out') := by
  induction h with
  | nil => exact h'
  | cons htoken _ ih =>
      rw [List.cons_append, List.append_assoc]
      exact .cons htoken ih

/-! ### Filling token by token -/

theorem natOfDigits_eq (digits : List Char) :
    NumberLiteral.natOfDigits digits = Nat.ofDigits 10 (digits.reverse.map fun d => d.toNat - '0'.toNat) := by
  rw [Nat.ofDigits_eq_foldr, List.map_reverse, List.foldr_reverse, List.foldl_map]
  simp only [NumberLiteral.natOfDigits, NumberLiteral.digitValue, Nat.cast_id, Nat.add_comm]

theorem fill_digit {d : Char} (h : d.isDigit = true) (read rest : List Char) :
    fill args (some read) (d :: rest) = fill args (some (d :: read)) rest := by
  have hne : d ≠ '}' := by rintro rfl; exact absurd h (by decide)
  exact (if_neg hne).trans (if_pos h)

/-- Digits behind an opened brace are kept until the brace is closed. -/
theorem fill_digits {digits : List Char} (h : ∀ d ∈ digits, d.isDigit = true) (read rest : List Char) :
    fill args (some read) (digits ++ rest) = fill args (some (digits.reverse ++ read)) rest := by
  induction digits generalizing read with
  | nil => rfl
  | cons d digits ih =>
      obtain ⟨hd, hdigits⟩ := List.forall_mem_cons.1 h
      rw [List.cons_append, fill_digit hd, ih hdigits, List.reverse_cons, List.append_assoc]
      rfl

/-- A closed brace is replaced by the argument that has the number behind the opened one. -/
theorem fill_close {read : List Char} (h : read ≠ []) (rest : List Char) :
    fill args (some read) ('}' :: rest) = (args[NumberLiteral.natOfDigits read.reverse]?.map String.toList).bind
      fun piece => (fill args none rest).map (piece ++ ·) := by
  refine (if_pos rfl).trans ((if_neg (by simpa using h)).trans ?_)
  cases args[NumberLiteral.natOfDigits read.reverse]? <;> rfl

theorem fill_placeholder (numeral : Numeral) (rest : List Char) :
    fill args none ('{' :: (numeral.digits ++ '}' :: rest)) =
      (args[numeral.value]?.map String.toList).bind fun piece => (fill args none rest).map (piece ++ ·) := by
  have hopen : fill args none ('{' :: (numeral.digits ++ '}' :: rest)) =
      fill args (some []) (numeral.digits ++ '}' :: rest) := by
    refine fill.eq_5 args _ fun more hmore => ?_
    obtain ⟨d, ds, hdigits⟩ := List.exists_cons_of_ne_nil numeral.nonempty
    -- A digit stands behind the brace, so the brace is not doubled.
    rw [hdigits, List.cons_append, List.cons.injEq] at hmore
    exact absurd (numeral.isDigit d (hdigits ▸ List.mem_cons_self)) (hmore.1 ▸ by decide)
  have hread : numeral.digits.reverse ++ [] ≠ [] := by simpa using numeral.nonempty
  rw [hopen, fill_digits numeral.isDigit, fill_close hread, List.append_nil, List.reverse_reverse, natOfDigits_eq]
  rfl

/-- **A token at the front is replaced by what it stands for**, if there is such a thing, and the rest is filled. -/
theorem fill_source_append (token : Token) (rest : List Char) :
    fill args none (token.source ++ rest) =
      (token.text? args).bind fun piece => (fill args none rest).map (piece ++ ·) := by
  cases token with
  | opening | closing => rfl
  | placeholder numeral =>
      rw [Token.source, List.cons_append, List.append_assoc]
      exact fill_placeholder numeral rest
  | plain c hopening hclosing =>
      exact fill.eq_7 args c rest (fun _ h => absurd h hopening) (fun _ h => absurd h hclosing) hopening hclosing

theorem fill_written_eq_some_iff : fill args none (written tokens) = some out ↔ Fills args tokens out := by
  induction tokens generalizing out with
  | nil =>
      rw [written_nil]
      change some [] = some out ↔ _
      rw [Option.some.injEq]
      exact ⟨fun h => h ▸ .nil, fun | .nil => rfl⟩
  | cons token tokens ih =>
      rw [written_cons, fill_source_append]
      simp only [Option.bind_eq_some_iff, Option.map_eq_some_iff, ih]
      constructor
      · rintro ⟨piece, hpiece, rest, hrest, rfl⟩
        exact .cons hpiece hrest
      · rintro (_ | ⟨hpiece, hrest⟩)
        exact ⟨_, hpiece, _, hrest, rfl⟩

/-! ### Whatever can be filled is a row of tokens -/

/-- What has been read of a token that is still open. -/
def begun : Option (List Char) → List Char
  | none => []
  | some digits => '{' :: digits.reverse

/-- **Only rows of tokens can be filled.** In the middle of a placeholder the part that has been read belongs to the
first token. -/
theorem exists_written_of_fill (state : Option (List Char)) (rest : List Char)
    (hdigits : ∀ digits ∈ state, ∀ d ∈ digits, d.isDigit = true) (h : (fill args state rest).isSome) :
    ∃ tokens, begun state ++ rest = written tokens := by
  fun_induction fill args state rest with
  | case1 => exact ⟨[], rfl⟩
  | case3 rest ih =>
      obtain ⟨tokens, htokens⟩ := ih (by simp) (by simpa using h)
      exact ⟨.opening :: tokens, by simpa [begun, Token.source] using htokens⟩
  | case4 rest ih =>
      obtain ⟨tokens, htokens⟩ := ih (by simp) (by simpa using h)
      exact ⟨.closing :: tokens, by simpa [begun, Token.source] using htokens⟩
  | case5 rest _ ih => exact ih (by simp) h
  | case7 c rest _ _ hopening hclosing ih =>
      obtain ⟨tokens, htokens⟩ := ih (by simp) (by simpa using h)
      exact ⟨.plain c hopening hclosing :: tokens, by simpa [begun, Token.source] using htokens⟩
  | case9 digits rest hne arg _ ih =>
      obtain ⟨tokens, htokens⟩ := ih (by simp) (by simpa using h)
      have hread : ∀ d ∈ digits.reverse, d.isDigit = true := by simpa using hdigits digits rfl
      exact ⟨.placeholder ⟨digits.reverse, by simpa using hne, hread⟩ :: tokens,
        by simpa [begun, Token.source] using htokens⟩
  | case11 digits c rest _ hc ih =>
      obtain ⟨tokens, htokens⟩ := ih (by simpa [hc] using hdigits digits rfl) h
      exact ⟨tokens, by simpa [begun] using htokens⟩
  | case2 | case6 | case8 | case10 | case12 => cases h

theorem fill_eq_some_iff {template : List Char} :
    fill args none template = some out ↔ ∃ tokens, template = written tokens ∧ Fills args tokens out := by
  constructor
  · intro h
    obtain ⟨tokens, rfl⟩ : ∃ tokens, template = written tokens :=
      exists_written_of_fill none template (by simp) (by rw [h, Option.isSome_some])
    exact ⟨tokens, rfl, fill_written_eq_some_iff.1 h⟩
  · rintro ⟨tokens, rfl, h⟩
    exact fill_written_eq_some_iff.2 h

theorem interpolate_eq_some_iff {template text : String} :
    interpolate template args = some text ↔
      ∃ tokens, template.toList = written tokens ∧ Fills args tokens text.toList := by
  rw [interpolate, Option.map_eq_some_iff, ← fill_eq_some_iff]
  exact ⟨fun ⟨out, hout, htext⟩ => by rw [hout, ← htext, String.toList_ofList],
    fun h => ⟨text.toList, h, String.ofList_toList⟩⟩

theorem fills_of_interpolate {template text : String} (h : interpolate template args = some text)
    (htokens : template.toList = written tokens) : Fills args tokens text.toList := by
  obtain ⟨out, hout, rfl⟩ := Option.map_eq_some_iff.1 h
  rw [String.toList_ofList]
  exact fill_written_eq_some_iff.1 (htokens ▸ hout)

/-! ### What a text keeps of its template and of its arguments -/

/-- The number of the argument that a token asks for. -/
def Token.reference? : Token → Option Nat
  | placeholder numeral => some numeral.value
  | _ => none

/-- The template has a placeholder for the argument with this number. -/
def Refers (template : String) (n : Nat) : Prop :=
  ∃ tokens, template.toList = written tokens ∧ ∃ token ∈ tokens, token.reference? = some n

theorem Fills.exists_piece (h : Fills args tokens out) {token : Token} (hmem : token ∈ tokens) :
    ∃ piece, token.text? args = some piece ∧ piece <:+: out := by
  induction h with
  | nil => cases hmem
  | @cons first tokens piece out hfirst _ ih =>
      rcases List.mem_cons.1 hmem with rfl | hmem
      · exact ⟨piece, hfirst, (List.prefix_append piece out).isInfix⟩
      · obtain ⟨other, hother, hinfix⟩ := ih hmem
        exact ⟨other, hother, hinfix.trans (List.suffix_append piece out).isInfix⟩

/-- **The arguments that a template refers to stand in the text as they are.** -/
theorem exists_argument_of_refers {template text : String} {n : Nat} (h : interpolate template args = some text)
    (hrefers : Refers template n) : ∃ arg, args[n]? = some arg ∧ arg.toList <:+: text.toList := by
  obtain ⟨tokens, htokens, token, hmem, hreference⟩ := hrefers
  obtain ⟨piece, hpiece, hinfix⟩ := (fills_of_interpolate h htokens).exists_piece hmem
  cases token with
  | placeholder numeral =>
      obtain rfl : numeral.value = n := Option.some.inj hreference
      obtain ⟨arg, harg, rfl⟩ := Option.map_eq_some_iff.1 hpiece
      exact ⟨arg, harg, hinfix⟩
  | _ => cases hreference

/-- Characters that have no meaning in templates stand in the text too. -/
theorem mem_of_interpolate {template text : String} {c : Char} (h : interpolate template args = some text)
    (hopening : c ≠ '{') (hclosing : c ≠ '}') (hdigit : c.isDigit = false) (hc : c ∈ template.toList) :
    c ∈ text.toList := by
  obtain ⟨tokens, htokens, hfills⟩ := interpolate_eq_some_iff.1 h
  rw [htokens, written, List.mem_flatMap] at hc
  obtain ⟨token, hmem, hsource⟩ := hc
  obtain ⟨piece, hpiece, hinfix⟩ := hfills.exists_piece hmem
  cases token with
  | placeholder numeral =>
      have hdigits : c ∈ numeral.digits := by simpa [Token.source, hopening, hclosing] using hsource
      exact absurd (numeral.isDigit c hdigits) (by simp [hdigit])
  | plain d _ _ =>
      obtain rfl : c = d := by simpa [Token.source] using hsource
      obtain rfl : [c] = piece := Option.some.inj hpiece
      exact hinfix.subset List.mem_cons_self
  | opening | closing => simp [Token.source, hopening, hclosing] at hsource

theorem Fills.exists_of_length_eq {args' : List String} (h : Fills args tokens out)
    (hlength : args.length = args'.length) : ∃ out', Fills args' tokens out' := by
  induction h with
  | nil => exact ⟨[], .nil⟩
  | @cons token tokens piece out htoken _ ih =>
      obtain ⟨rest, hrest⟩ := ih
      suffices hpiece : ∃ piece', token.text? args' = some piece' from hpiece.elim fun _ h => ⟨_, .cons h hrest⟩
      cases token with
      | placeholder numeral =>
          obtain ⟨arg, harg, -⟩ := Option.map_eq_some_iff.1 htoken
          obtain ⟨hlt, -⟩ := List.getElem?_eq_some_iff.1 harg
          rw [hlength] at hlt
          exact ⟨_, Option.map_eq_some_iff.2 ⟨_, List.getElem?_eq_getElem hlt, rfl⟩⟩
      | _ => exact ⟨_, htoken⟩

/-- Whether a template can be filled depends on nothing but the number of the arguments. -/
theorem exists_interpolate_of_length_eq {template text : String} {args' : List String}
    (h : interpolate template args = some text) (hlength : args.length = args'.length) :
    ∃ text', interpolate template args' = some text' := by
  obtain ⟨tokens, htokens, hfills⟩ := interpolate_eq_some_iff.1 h
  obtain ⟨out, hout⟩ := hfills.exists_of_length_eq hlength
  exact ⟨String.ofList out, interpolate_eq_some_iff.2 ⟨tokens, htokens, by rwa [String.toList_ofList]⟩⟩

/-! ### Texts as templates -/

/-- A text with each of its braces doubled. -/
def doubled (s : String) : String :=
  String.ofList (s.toList.flatMap fun c => if c = '{' ∨ c = '}' then [c, c] else [c])

/-- The token that stands for a character. -/
def Token.standing (c : Char) : Token :=
  if hopening : c = '{' then .opening
  else if hclosing : c = '}' then .closing
  else .plain c hopening hclosing

theorem Token.standing_spec (args : List String) (c : Char) :
    (Token.standing c).source = (if c = '{' ∨ c = '}' then [c, c] else [c]) ∧
      (Token.standing c).text? args = some [c] := by
  by_cases hopening : c = '{'
  · subst hopening
    exact ⟨rfl, rfl⟩
  · by_cases hclosing : c = '}'
    · subst hclosing
      exact ⟨rfl, rfl⟩
    · simp [standing, hopening, hclosing, source, text?]

theorem fills_standing (cs : List Char) : Fills args (cs.map Token.standing) cs := by
  induction cs with
  | nil => exact .nil
  | cons c cs ih => exact .cons (Token.standing_spec args c).2 ih

theorem toList_doubled (s : String) : (doubled s).toList = written (s.toList.map Token.standing) := by
  rw [doubled, String.toList_ofList, written, List.flatMap_map]
  simp only [fun c => (Token.standing_spec [] c).1]

/-- **Filling is exact.** A template can be filled just if it is a row of tokens whose placeholders all have arguments,
and then the text is what the tokens stand for, one after the other; any other template is left as it is. So templates
that can be filled can be filled one behind the other, and every text has a template, which doubles its braces. -/
theorem interpolate_follows_grammar (template : String) (args : List String) :
    (∀ text, interpolate template args = some text ↔
      ∃ tokens, template.toList = written tokens ∧ Fills args tokens text.toList) ∧
    (∀ text, interpolate template args = some text → render template args = text) ∧
    ((¬∃ tokens out, template.toList = written tokens ∧ Fills args tokens out) →
      interpolate template args = none ∧ render template args = template) ∧
    (∀ more text text', interpolate template args = some text → interpolate more args = some text' →
      interpolate (template ++ more) args = some (text ++ text')) ∧
    ∀ s, interpolate (doubled s) args = some s := by
  refine ⟨fun text => interpolate_eq_some_iff, fun text h => ?_, fun hnone => ?_, fun more text text' h h' => ?_,
    fun s => ?_⟩
  · rw [render, h, Option.getD_some]
  · have hinterpolate : interpolate template args = none := by
      refine Option.eq_none_iff_forall_ne_some.2 fun text htext => hnone ?_
      obtain ⟨tokens, htokens, hfills⟩ := interpolate_eq_some_iff.1 htext
      exact ⟨tokens, _, htokens, hfills⟩
    exact ⟨hinterpolate, by rw [render, hinterpolate, Option.getD_none]⟩
  · obtain ⟨tokens, htokens, hfills⟩ := interpolate_eq_some_iff.1 h
    obtain ⟨others, hothers, hfills'⟩ := interpolate_eq_some_iff.1 h'
    refine interpolate_eq_some_iff.2 ⟨tokens ++ others, ?_, ?_⟩
    · rw [String.toList_append, htokens, hothers, written_append]
    · rw [String.toList_append]
      exact hfills.append hfills'
  · exact interpolate_eq_some_iff.2 ⟨_, toList_doubled s, fills_standing s.toList⟩

/-- A braced argument that itself looks like a placeholder, and behind it a number with a leading zero. -/
theorem interpolate_follows_grammar_bracedArgument :
    interpolate "{{{0}}}" ["{1}", "end"] = some "{{1}}" ∧ interpolate "{01}" ["{1}", "end"] = some "end" ∧
      interpolate "{{{0}}}{01}" ["{1}", "end"] = some "{{1}}end" := by
  have hzero : interpolate "{01}" ["{1}", "end"] = some "end" := by decide +kernel
  have hbraced : interpolate "{{{0}}}" ["{1}", "end"] = some "{{1}}" := by
    have hfills : Fills ["{1}", "end"]
        [.opening, .placeholder ⟨['0'], List.cons_ne_nil _ _, List.forall_mem_singleton.2 rfl⟩, .closing]
        (['{'] ++ ("{1}".toList ++ (['}'] ++ []))) :=
      .cons rfl (.cons rfl (.cons rfl .nil))
    have htext : "{{1}}".toList = ['{'] ++ ("{1}".toList ++ (['}'] ++ [])) := by decide +kernel
    refine ((interpolate_follows_grammar _ _).1 _).2 ⟨_, ?_, htext ▸ hfills⟩
    decide +kernel
  exact ⟨hbraced, hzero, (interpolate_follows_grammar _ _).2.2.2.1 _ _ _ hbraced hzero⟩

end Attest.Template

import Attest.Proofs.Message.Lookup
import Attest.Proofs.Message.Template
import Attest.Proofs.Plan.Chain
import Attest.Proofs.Plan.Correspondence

/-!
What is built in always has words. In every language there is a template for each rule and for each finding about the
shape of a payload, and it asks for no more arguments than the rule has; so that a failure is told in a sentence with
its arguments put in, whatever these are.

The tables are gone through once, entry by entry. That a text consists of certain characters is found out at once,
while reading the characters off a text takes long; so the tables are spelled out first, and what has to be known about
the templates is decided about their characters.
-/

namespace Attest

/-! ### Tags in any case -/

namespace Locale

variable {c : Char} {tag : String}

/-- What becomes a lower-case letter is a letter. -/
theorem bounds_of_isLower (h : c.toLower.isLower = true) :
    65 ≤ c.toNat ∧ c.toNat ≤ 90 ∨ 97 ≤ c.toNat ∧ c.toNat ≤ 122 := by
  by_cases hupper : c.val ≥ 'A'.val ∧ c.val ≤ 'Z'.val
  · exact .inl hupper
  · have hself : c.toLower = c := dif_neg hupper
    rw [hself] at h
    obtain ⟨hlow, hhigh⟩ := (Bool.and_eq_true _ _).mp h
    exact .inr ⟨of_decide_eq_true hlow, of_decide_eq_true hhigh⟩

theorem isBlank_of_isLower (h : c.toLower.isLower = true) : isBlank c = false := by
  have hbounds := bounds_of_isLower h
  exact isBlank_of_visible (by omega) (by omega)

theorem normalizeChar_of_isLower (h : c.toLower.isLower = true) : normalizeChar c = c.toLower := by
  refine if_neg ?_
  rintro rfl
  exact absurd h (by decide)

/-- A tag of letters only is the same as in lower case. -/
theorem ofTag_eq (h : ∀ c ∈ tag.toList, c.toLower.isLower = true) : ofTag tag = ⟨tag.toLower⟩ := by
  have hblank : ∀ c ∈ tag.toList, isBlank c = false := fun c hc => isBlank_of_isLower (h c hc)
  have htrim : trimBlanks tag.toList = tag.toList := trimmed_iff.1 <| trimmed_self
    (fun c hc => hblank c (List.mem_of_mem_head? hc)) fun c hc => hblank c (List.mem_of_mem_getLast? hc)
  rw [ofTag, normalize, htrim, List.map_congr_left fun c hc => normalizeChar_of_isLower (h c hc),
    ← String.toList_map, String.ofList_toList]
  rfl

end Locale

/-! ### The tables, spelled out -/

namespace Catalog

open Template (Refers interpolate fill)

/-- An entry of a table and its characters. -/
inductive SpelledOut : String × String → List Char × List Char → Prop
  | intro (key template : List Char) : SpelledOut (String.ofList key, String.ofList template) (key, template)

variable {table : Table} {letters : List (List Char × List Char)} {key template : List Char} {count : Nat}

theorem lookup_of_spelledOut (h : List.Forall₂ SpelledOut table letters)
    (hlookup : letters.lookup key = some template) :
    table.lookup (String.ofList key) = some (String.ofList template) := by
  induction h with
  | nil => cases hlookup
  | @cons _ _ table letters hentry _ ih =>
      obtain ⟨other, text⟩ := hentry
      rw [List.lookup_cons] at hlookup ⊢
      by_cases heq : key = other
      · subst heq
        rw [beq_self_eq_true] at hlookup ⊢
        obtain rfl := Option.some.inj hlookup
        rfl
      · rw [beq_false_of_ne heq] at hlookup
        rw [beq_false_of_ne fun htexts => heq (String.ofList_injective htexts)]
        exact ih hlookup

/-- The key is one word, for which the table has a template of several words that so many arguments can fill. -/
def hasWords (key : List Char) (count : Nat) (letters : List (List Char × List Char)) : Bool :=
  !key.contains ' ' && (letters.lookup key).any fun template =>
    template.contains ' ' && (fill (List.replicate count "") none template).isSome

/-- In each language there is such a template for the key. -/
structure Worded (key : String) (count : Nat) : Prop where
  oneWord : ' ' ∉ key.toList
  exists_template : ∀ table ∈ tables.map Prod.snd, ∃ template, table.lookup key = some template ∧
    ' ' ∈ template.toList ∧ ∀ args : List String, args.length = count → ∃ text, interpolate template args = some text

theorem worded_of_hasWords {tableLetters : List (List (List Char × List Char))}
    (hspelled : List.Forall₂ (List.Forall₂ SpelledOut) (tables.map Prod.snd) tableLetters)
    (hwords : ∀ letters ∈ tableLetters, hasWords key count letters = true) : Worded (String.ofList key) count := by
  have hblank : ' ' ∉ key := by
    obtain ⟨letters, hletters⟩ : ∃ letters, letters ∈ tableLetters :=
      List.exists_mem_of_length_pos (by rw [← hspelled.length_eq]; decide)
    have hcheck := hwords letters hletters
    simp only [hasWords, Bool.and_eq_true, Bool.not_eq_true', List.contains_eq_mem, decide_eq_false_iff_not] at hcheck
    exact hcheck.1
  refine ⟨by rwa [String.toList_ofList], fun table htable => ?_⟩
  obtain ⟨letters, hletters, htableLetters⟩ := exists_left_of_forall₂ hspelled.flip htable
  have hcheck := hwords letters hletters
  simp only [hasWords, Bool.and_eq_true, Option.any_eq_true, List.contains_eq_mem, decide_eq_true_eq] at hcheck
  obtain ⟨-, template, hlookup, hspaced, hfill⟩ := hcheck
  obtain ⟨out, hout⟩ := Option.isSome_iff_exists.1 hfill
  refine ⟨_, lookup_of_spelledOut htableLetters hlookup, by rwa [String.toList_ofList], fun args hlength => ?_⟩
  have hblanks : interpolate (String.ofList template) (List.replicate count "") = some (String.ofList out) := by
    rw [interpolate, String.toList_ofList, hout, Option.map_some]
  exact Template.exists_interpolate_of_length_eq hblanks (by rw [List.length_replicate, hlength])

/-- **Every rule has words in every language**, and so has every finding about the shape of a payload. -/
theorem worded : (∀ rule : Rule, Worded rule.name rule.arguments.length) ∧
    ∀ key ∈ ["not_null", "expected_object", "expected_array"], Worded key 0 := by
  obtain ⟨tableLetters, hspelled, hrules, hshape⟩ : ∃ tableLetters,
      List.Forall₂ (List.Forall₂ SpelledOut) (tables.map Prod.snd) tableLetters ∧
      (∀ rule : Rule, ∃ key, rule.name = String.ofList key ∧
        ∀ letters ∈ tableLetters, hasWords key rule.arguments.length letters = true) ∧
      ∀ finding ∈ ["not_null", "expected_object", "expected_array"], ∃ key, finding = String.ofList key ∧
        ∀ letters ∈ tableLetters, hasWords key 0 letters = true :=
    -- Spelling out the tables is what finds the characters that the other two parts are about.
    ⟨_,
      by
        rw [tables, english, spanish, german]
        repeat constructor,
      fun rule => by
        cases rule <;> simp only [Rule.name, Rule.arguments, List.length_cons, List.length_nil] <;>
          exact ⟨_, rfl, by decide +kernel⟩,
      by
        simp only [List.forall_mem_cons]
        exact ⟨⟨_, rfl, by decide +kernel⟩, ⟨_, rfl, by decide +kernel⟩, ⟨_, rfl, by decide +kernel⟩, nofun⟩⟩
  constructor
  · intro rule
    obtain ⟨key, hkey, hwords⟩ := hrules rule
    exact hkey ▸ worded_of_hasWords hspelled hwords
  · intro finding hfinding
    obtain ⟨key, hkey, hwords⟩ := hshape finding hfinding
    exact hkey ▸ worded_of_hasWords hspelled hwords

theorem exists_lookup_of_worded {key tag : String} {args : List String} (h : Worded key args.length)
    (htag : tag ∈ MessageBundle.locales) :
    ∃ template text, MessageBundle.builtIn? key ⟨tag⟩ = some template ∧ interpolate template args = some text ∧
      ' ' ∈ template.toList := by
  obtain ⟨table, htable⟩ : ∃ table, tables.lookup tag = some table := by
    refine Option.isSome_iff_exists.1 (Option.isSome_iff_ne_none.2 fun hnone => ?_)
    obtain ⟨entry, hentry, rfl⟩ := List.mem_map.1 htag
    exact bne_iff_ne.1 (List.lookup_eq_none_iff.1 hnone _ hentry) rfl
  have hmem : table ∈ tables.map Prod.snd := by
    obtain ⟨before, after, htables, -⟩ := List.lookup_eq_some_iff.1 htable
    exact List.mem_map.2 ⟨(tag, table), by rw [htables]; simp, rfl⟩
  obtain ⟨template, hlookup, hspaced, hfill⟩ := h.exists_template table hmem
  obtain ⟨text, htext⟩ := hfill args rfl
  exact ⟨template, text, by rw [MessageBundle.builtIn?, htable, Option.bind_some, hlookup], htext, hspaced⟩

end Catalog

/-- What a step that asks no predicate and has no key of its own says of a value. -/
theorem PlannedStep.message_of_complaint? (s : PlannedStep) {ctx : Context} {value parent : Json} {text : String}
    (hexplicit : s.explicitMessage = false) (hmatcher : ∀ predicate, s.matcher ≠ .custom predicate)
    (h : s.complaint? ctx value parent = some text) : (ctx.message s.rule.name s.rule.arguments).answer = text := by
  have hverdict : ∃ b, s.verdict ctx value parent = .ok (.ofBool b) := by
    rw [verdict, check]
    cases hcases : s.matcher with
    | builtIn => exact ⟨_, rfl⟩
    | pattern vetted => exact ⟨_, rfl⟩
    | custom predicate => exact absurd hcases (hmatcher predicate)
  obtain ⟨b, hverdict⟩ := hverdict
  rw [complaint?, hverdict] at h
  cases b with
  | true => cases h
  | false =>
      obtain rfl := Option.some.inj h
      have hmessage : s.message none ctx = ctx.message s.messageKey s.arguments := rfl
      rw [hmessage, s.messageKey_eq hexplicit, s.arguments_eq]

namespace Context

open Template (Refers interpolate)

/-- The text is what a context says for a key with these arguments: the template that is built in for it with the
arguments put in, so neither the template as it stands nor the key. -/
structure Words (ctx : Context) (key : String) (args : List String) (template text : String) : Prop where
  builtIn : MessageBundle.builtIn? key ctx.locale = some template
  filled : interpolate template args = some text
  said : ctx.message key args = .done text
  verbatim : ∀ n, Refers template n → ∃ arg, args[n]? = some arg ∧ arg.toList <:+: text.toList
  ne_key : text ≠ key

variable {ctx : Context} {key : String} {args : List String}

theorem exists_words (hresolver : ctx.resolver = MessageBundle.standard.resolver)
    (hlocale : ctx.locale.tag ∈ MessageBundle.locales) (h : Catalog.Worded key args.length) :
    ∃ template text, ctx.Words key args template text := by
  obtain ⟨template, text, hbuiltIn, hfilled, hspaced⟩ := Catalog.exists_lookup_of_worded h hlocale
  have htemplate : MessageBundle.standard.template key ctx.locale = template := by
    rw [MessageBundle.template, hbuiltIn]
    rfl
  refine ⟨template, text, hbuiltIn, hfilled, ?_, fun n => Template.exists_argument_of_refers hfilled, ?_⟩
  · rw [message, hresolver, MessageBundle.resolver, MessageBundle.text, htemplate, Template.render, hfilled]
    rfl
  · rintro rfl
    -- The text keeps the blanks of its template, and a key has none.
    exact h.oneWord (Template.mem_of_interpolate hfilled (by decide) (by decide) (by decide) hspaced)

/-- **What is built in always has words.** In a context without messages of its own and with the locale of a built-in
table, written in any case, every rule is told by the template of its name with its arguments put in, and every finding
about the shape of a payload by one that needs no arguments. So a step without a key of its own that finds a value
invalid, and that asks no predicate, leaves such a text behind. -/
theorem failures_have_words {tag : String} (htag : tag.toLower ∈ ["en", "es", "de"])
    (hlocale : ctx.locale = Locale.ofTag tag) (hresolver : ctx.resolver = MessageBundle.standard.resolver) :
    (∀ rule : Rule, ∃ template text, ctx.Words rule.name rule.arguments template text) ∧
    (∀ key ∈ ["not_null", "expected_object", "expected_array"], ∃ template text, ctx.Words key [] template text) ∧
    ∀ (s : PlannedStep) (value parent : Json) (text : String), s.explicitMessage = false →
      (∀ predicate, s.matcher ≠ .custom predicate) → s.complaint? ctx value parent = some text →
      ∃ template, ctx.Words s.rule.name s.rule.arguments template text := by
  have hbuiltIn : ctx.locale.tag ∈ MessageBundle.locales := by
    have hletters : (["en", "es", "de"].all fun language => language.toList.all (·.isLower)) = true := by
      decide +kernel
    simp only [List.all_eq_true] at hletters
    have hlower : ∀ c ∈ tag.toList, c.toLower.isLower = true := by
      intro c hc
      have htoLower : tag.toLower.toList = tag.toList.map Char.toLower := String.toList_map
      exact hletters _ htag _ (htoLower ▸ List.mem_map_of_mem hc)
    rw [hlocale, Locale.ofTag_eq hlower]
    exact htag
  have hrules (rule : Rule) : ∃ template text, ctx.Words rule.name rule.arguments template text :=
    exists_words hresolver hbuiltIn (Catalog.worded.1 rule)
  refine ⟨hrules, fun key hkey => exists_words hresolver hbuiltIn (Catalog.worded.2 key hkey), ?_⟩
  intro s value parent text hmessage hmatcher hcomplaint
  obtain ⟨template, said, hwords⟩ := hrules s.rule
  have hsaid := s.message_of_complaint? hmessage hmatcher hcomplaint
  rw [hwords.said] at hsaid
  obtain rfl : said = text := hsaid
  exact ⟨template, hwords⟩

/-- A context for messages in German. -/
def inGerman : Context :=
  (standard ⟨none⟩ (.fixed ⟨0, 0⟩)).withLocale (.ofTag "De")

/-- An argument that looks like a placeholder. -/
theorem failures_have_words_bracedStart :
    "De".toLower ∈ ["en", "es", "de"] ∧
      inGerman.Words "starts_with" ["{1}"] "muss mit {0} beginnen" "muss mit {1} beginnen" := by
  have htag : "De".toLower ∈ ["en", "es", "de"] := by decide +kernel
  refine ⟨htag, ?_⟩
  have hlocale : inGerman.locale = .ofTag "De" := rfl
  obtain ⟨template, text, hwords⟩ := (failures_have_words htag hlocale rfl).1 (.startsWith "{1}")
  have htemplate : MessageBundle.builtIn? "starts_with" (.ofTag "De") = some "muss mit {0} beginnen" := by
    decide +kernel
  obtain rfl := Option.some.inj (htemplate.symm.trans hwords.builtIn)
  have htext : interpolate "muss mit {0} beginnen" ["{1}"] = some "muss mit {1} beginnen" := by decide +kernel
  obtain rfl := Option.some.inj (htext.symm.trans hwords.filled)
  exact hwords

end Context

end Attest

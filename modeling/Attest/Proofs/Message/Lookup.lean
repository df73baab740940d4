import Attest.Message.Resolver
import Attest.Proofs.Text.Blank
import Mathlib.Data.List.Induction

/-!
Which template a key stands for. Of the overrides that were made for the key and for the locale that is asked for, the
last one counts; if there is none, the template that is built in for exactly this locale; if there is none either, the
key itself. Two tags are for one locale if they normalize to the same text, whenever they are normalized.

A normalized tag is its own normalization: no character becomes a blank or stops being one, so there is nothing left to
trim, and what a character is read as is read as itself.
-/

namespace Attest

/-! ### Tags -/

namespace Locale

/-- What a character of a tag is read as. -/
inductive ReadAs : Char → Char → Prop
  | separator : ReadAs '_' '-'
  | letter {c d : Char} (hupper : c.isUpper = true) (hlower : d.toNat = c.toNat + 32) : ReadAs c d
  | other {c : Char} (hseparator : c ≠ '_') (hupper : c.isUpper = false) : ReadAs c c

/-- The text that a tag is for: without the blanks around it, and every character for what it is read as. -/
def Means (tag text : String) : Prop :=
  ∃ core, Trimmed tag.toList core ∧ List.Forall₂ ReadAs core text.toList

variable {c d : Char} {tag text : String}

theorem isUpper_iff : c.isUpper = true ↔ 65 ≤ c.toNat ∧ c.toNat ≤ 90 :=
  decide_eq_true_iff

theorem toNat_toLower (h : c.isUpper = true) : c.toLower.toNat = c.toNat + 32 := by
  obtain ⟨-, hle⟩ := isUpper_iff.1 h
  have hval : c.toLower.val = c.val + 32 := congrArg Char.val (dif_pos (of_decide_eq_true h))
  have hsum : (c.val + 32).toNat = (c.toNat + 32) % 2 ^ 32 := UInt32.toNat_add _ _
  rw [Char.toNat, hval, hsum]
  omega

theorem toLower_of_not_isUpper (h : c.isUpper = false) : c.toLower = c :=
  dif_neg (of_decide_eq_false h)

theorem readAs_iff : ReadAs c d ↔ normalizeChar c = d := by
  rw [normalizeChar]
  constructor
  · rintro (_ | ⟨hupper, hlower⟩ | ⟨hseparator, hupper⟩)
    · rfl
    · have hne : c ≠ '_' := by
        rintro rfl
        cases hupper
      rw [if_neg hne]
      exact Char.toNat_inj.1 ((toNat_toLower hupper).trans hlower.symm)
    · rw [if_neg hseparator, toLower_of_not_isUpper hupper]
  · rintro rfl
    by_cases hseparator : c = '_'
    · rw [if_pos hseparator, hseparator]
      exact .separator
    · rw [if_neg hseparator]
      cases hupper : c.isUpper with
      | true => exact .letter hupper (toNat_toLower hupper)
      | false =>
          rw [toLower_of_not_isUpper hupper]
          exact .other hseparator hupper

/-- No character becomes a blank, and none stops being one. -/
theorem ReadAs.isBlank_eq (h : ReadAs c d) : isBlank d = isBlank c := by
  cases h with
  | separator => rfl
  | letter hupper hlower =>
      obtain ⟨hle, hle'⟩ := isUpper_iff.1 hupper
      rw [isBlank_of_visible (c := d) (by omega) (by omega), isBlank_of_visible (c := c) (by omega) (by omega)]
  | other => rfl

/-- What a character is read as is read as itself. -/
theorem ReadAs.self (h : ReadAs c d) : ReadAs d d := by
  cases h with
  | separator => exact .other (by decide) rfl
  | letter hupper hlower =>
      obtain ⟨hle, hle'⟩ := isUpper_iff.1 hupper
      refine .other ?_ ?_
      · rintro rfl
        have hseparator : '_'.toNat = 95 := rfl
        omega
      · rw [← Bool.not_eq_true, isUpper_iff]
        omega
  | other hseparator hupper => exact .other hseparator hupper

theorem forall₂_readAs_iff {cs ds : List Char} : List.Forall₂ ReadAs cs ds ↔ cs.map normalizeChar = ds := by
  have hiff : ReadAs = fun c d => normalizeChar c = d := by
    funext c d
    exact propext readAs_iff
  rw [hiff, ← List.forall₂_map_left_iff, List.forall₂_eq_eq_eq]

theorem means_iff : Means tag text ↔ normalize tag = text := by
  simp only [Means, trimmed_iff, forall₂_readAs_iff, normalize]
  constructor
  · rintro ⟨core, rfl, htext⟩
    rw [htext, String.ofList_toList]
  · rintro rfl
    exact ⟨_, rfl, String.toList_ofList.symm⟩

/-- What tags are for is for itself. -/
theorem Means.self (h : Means tag text) : Means text text := by
  obtain ⟨core, ⟨-, hhead, hlast⟩, hread⟩ := h
  obtain htext := forall₂_readAs_iff.1 hread
  have hblank (c : Char) : isBlank (normalizeChar c) = isBlank c := (readAs_iff.2 rfl).isBlank_eq
  refine ⟨text.toList, trimmed_self ?_ ?_, List.forall₂_same.2 fun d hd => ?_⟩
  · simpa [← htext, hblank] using hhead
  · simpa [← htext, hblank] using hlast
  · rw [← htext] at hd
    obtain ⟨c, -, rfl⟩ := List.mem_map.1 hd
    exact (readAs_iff.2 rfl).self

theorem normalize_normalize (tag : String) : normalize (normalize tag) = normalize tag :=
  means_iff.1 (means_iff.2 rfl).self

end Locale

/-! ### Overrides -/

/-- An override as it is asked for, its tag as it is written. -/
structure Override where
  tag : String
  key : String
  template : String

namespace Override

/-- The override with its tag normalized beforehand. -/
def normalized (o : Override) : Override :=
  { o with tag := Locale.normalize o.tag }

/-- The override is for this key and for the locale that the tag is for. -/
def Serves (o : Override) (key tag : String) : Prop :=
  o.key = key ∧ ∃ text, Locale.Means o.tag text ∧ Locale.Means tag text

variable {o : Override} {key tag : String}

theorem serves_iff : o.Serves key tag ↔ Locale.ofTag o.tag = Locale.ofTag tag ∧ o.key = key := by
  simp only [Serves, Locale.means_iff, exists_eq_left', Locale.ofTag, Locale.mk.injEq]
  rw [and_comm, eq_comm]

end Override

namespace MessageBundle

/-- The bundle with overrides made one after the other. -/
def ofOverrides (calls : List Override) : MessageBundle :=
  calls.foldl (fun b o => b.override (.ofTag o.tag) o.key o.template) standard

/-- The template that a key stands for where a tag is asked for. -/
inductive Chooses (calls : List Override) (key tag : String) : String → Prop
  | overridden {before after : List Override} {o : Override} (hcalls : calls = before ++ o :: after)
      (hserves : o.Serves key tag) (hafter : ∀ later ∈ after, ¬later.Serves key tag) :
      Chooses calls key tag o.template
  | builtIn {text template : String} {table : Catalog.Table} (hnone : ∀ o ∈ calls, ¬o.Serves key tag)
      (hmeans : Locale.Means tag text) (htable : (text, table) ∈ Catalog.tables) (hentry : (key, template) ∈ table) :
      Chooses calls key tag template
  | bare (hnone : ∀ o ∈ calls, ¬o.Serves key tag)
      (hnothing : ∀ text table template, Locale.Means tag text → (text, table) ∈ Catalog.tables →
        (key, template) ∉ table) : Chooses calls key tag key

variable {calls : List Override} {key tag template text : String}

theorem overridden?_eq_lookup (b : MessageBundle) (key : String) (locale : Locale) :
    b.overridden? key locale = (b.overridesOf locale).lookup key := by
  rw [overridden?, overridesOf]
  cases b.overrides.lookup locale <;> rfl

theorem overridesOf_override (b : MessageBundle) (locale locale' : Locale) (key template : String) :
    (b.override locale key template).overridesOf locale' =
      if locale = locale' then putEntry key template (b.overridesOf locale) else b.overridesOf locale' := by
  rw [override, overridesOf, lookup_putEntry]
  split <;> rfl

/-- An override replaces the template of its key and locale, and no other. -/
theorem overridden?_override (b : MessageBundle) (locale locale' : Locale) (key key' template : String) :
    (b.override locale key template).overridden? key' locale' =
      if locale = locale' ∧ key = key' then some template else b.overridden? key' locale' := by
  rw [overridden?_eq_lookup, overridden?_eq_lookup, overridesOf_override]
  by_cases hlocale : locale = locale'
  · rw [if_pos hlocale, hlocale, lookup_putEntry]
    simp only [true_and]
  · rw [if_neg hlocale, if_neg fun h => hlocale h.1]

theorem ofOverrides_append_singleton (calls : List Override) (o : Override) :
    ofOverrides (calls ++ [o]) = (ofOverrides calls).override (.ofTag o.tag) o.key o.template :=
  List.foldl_append

theorem overridden?_of_serves {o : Override} (h : o.Serves key tag) (calls : List Override) :
    (ofOverrides (calls ++ [o])).overridden? key (.ofTag tag) = some o.template := by
  rw [ofOverrides_append_singleton, overridden?_override, if_pos (Override.serves_iff.1 h)]

theorem overridden?_of_not_serves {o : Override} (h : ¬o.Serves key tag) (calls : List Override) :
    (ofOverrides (calls ++ [o])).overridden? key (.ofTag tag) = (ofOverrides calls).overridden? key (.ofTag tag) := by
  rw [ofOverrides_append_singleton, overridden?_override, if_neg (mt Override.serves_iff.2 h)]

/-- Overrides that are for something else change nothing. -/
theorem overridden?_append {after : List Override} (h : ∀ o ∈ after, ¬o.Serves key tag) (calls : List Override) :
    (ofOverrides (calls ++ after)).overridden? key (.ofTag tag) = (ofOverrides calls).overridden? key (.ofTag tag) := by
  induction after using List.reverseRecOn with
  | nil => rw [List.append_nil]
  | append_singleton after o ih =>
      obtain ⟨hafter, ho⟩ := List.forall_mem_append.1 h
      rw [← List.append_assoc, overridden?_of_not_serves (ho o List.mem_cons_self), ih hafter]

/-- An override that is for something else might as well not have been made. -/
theorem overridden?_remove {o : Override} (h : ¬o.Serves key tag) (before after : List Override) :
    (ofOverrides (before ++ o :: after)).overridden? key (.ofTag tag) =
      (ofOverrides (before ++ after)).overridden? key (.ofTag tag) := by
  induction after using List.reverseRecOn with
  | nil => rw [overridden?_of_not_serves h, List.append_nil]
  | append_singleton after last ih =>
      rw [← List.append_assoc, ← List.cons_append, ← List.append_assoc]
      by_cases hlast : last.Serves key tag
      · rw [overridden?_of_serves hlast, overridden?_of_serves hlast]
      · rw [overridden?_of_not_serves hlast, overridden?_of_not_serves hlast, ih]

/-- Either some override is the last one for this key and locale, or there is none. -/
theorem exists_last_serving (calls : List Override) (key tag : String) :
    (∃ before o after, calls = before ++ o :: after ∧ o.Serves key tag ∧ ∀ later ∈ after, ¬later.Serves key tag) ∨
      ∀ o ∈ calls, ¬o.Serves key tag := by
  induction calls with
  | nil => exact .inr (by simp)
  | cons o calls ih =>
      obtain ⟨before, last, after, rfl, hlast⟩ | hnone := ih
      · exact .inl ⟨o :: before, last, after, rfl, hlast⟩
      · by_cases ho : o.Serves key tag
        · exact .inl ⟨[], o, calls, rfl, ho, hnone⟩
        · exact .inr (List.forall_mem_cons.2 ⟨ho, hnone⟩)

theorem overridden?_eq_some {before after : List Override} {o : Override} (h : o.Serves key tag)
    (hafter : ∀ later ∈ after, ¬later.Serves key tag) :
    (ofOverrides (before ++ o :: after)).overridden? key (.ofTag tag) = some o.template := by
  rw [List.append_cons, overridden?_append hafter, overridden?_of_serves h]

theorem overridden?_eq_none (h : ∀ o ∈ calls, ¬o.Serves key tag) :
    (ofOverrides calls).overridden? key (.ofTag tag) = none :=
  overridden?_append h []

/-! ### What is built in -/

/-- There is one table for each language, and in it one template for each key. -/
theorem nodup_tables : (Catalog.tables.map (·.1)).Nodup ∧ ∀ entry ∈ Catalog.tables, (entry.2.map (·.1)).Nodup := by
  decide +kernel

theorem builtIn?_eq_some_iff : builtIn? key ⟨text⟩ = some template ↔
    ∃ table, (text, table) ∈ Catalog.tables ∧ (key, template) ∈ table := by
  rw [builtIn?, Option.bind_eq_some_iff]
  constructor
  · rintro ⟨table, htable, hentry⟩
    have hmem := (lookup_eq_some_iff_mem nodup_tables.1).1 htable
    exact ⟨table, hmem, (lookup_eq_some_iff_mem (nodup_tables.2 _ hmem)).1 hentry⟩
  · rintro ⟨table, hmem, hentry⟩
    exact ⟨table, (lookup_eq_some_iff_mem nodup_tables.1).2 hmem,
      (lookup_eq_some_iff_mem (nodup_tables.2 _ hmem)).2 hentry⟩

/-! ### The chain -/

theorem template_eq_of_overridden (h : (ofOverrides calls).overridden? key (.ofTag tag) = some template) :
    (ofOverrides calls).template key (.ofTag tag) = template := by
  rw [MessageBundle.template, h]
  rfl

theorem template_eq_builtIn (h : ∀ o ∈ calls, ¬o.Serves key tag) :
    (ofOverrides calls).template key (.ofTag tag) = (builtIn? key (.ofTag tag)).getD key := by
  rw [MessageBundle.template, overridden?_eq_none h, Option.none_or]

/-- There is one template only that can be chosen. -/
theorem Chooses.template_eq (h : Chooses calls key tag template) :
    (ofOverrides calls).template key (.ofTag tag) = template := by
  cases h with
  | overridden hcalls hserves hafter =>
      subst hcalls
      exact template_eq_of_overridden (overridden?_eq_some hserves hafter)
  | builtIn hnone hmeans htable hentry =>
      obtain rfl := Locale.means_iff.1 hmeans
      rw [template_eq_builtIn hnone, Locale.ofTag, builtIn?_eq_some_iff.2 ⟨_, htable, hentry⟩, Option.getD_some]
  | bare hnone hnothing =>
      have hbuiltIn : builtIn? key (.ofTag tag) = none := by
        refine Option.eq_none_iff_forall_ne_some.2 fun template htemplate => ?_
        obtain ⟨table, htable, hentry⟩ := builtIn?_eq_some_iff.1 htemplate
        exact hnothing _ table template (Locale.means_iff.2 rfl) htable hentry
      rw [template_eq_builtIn hnone, hbuiltIn, Option.getD_none]

/-- Some template is chosen, whatever overrides there are. -/
theorem exists_chooses (calls : List Override) (key tag : String) : ∃ template, Chooses calls key tag template := by
  obtain ⟨before, o, after, hcalls, hserves, hafter⟩ | hnone := exists_last_serving calls key tag
  · exact ⟨_, .overridden hcalls hserves hafter⟩
  · by_cases hentry : ∃ text table template, Locale.Means tag text ∧ (text, table) ∈ Catalog.tables ∧
        (key, template) ∈ table
    · obtain ⟨text, table, template, hmeans, htable, hentry⟩ := hentry
      exact ⟨template, .builtIn hnone hmeans htable hentry⟩
    · exact ⟨key, .bare hnone fun text table template hmeans htable hmem =>
        hentry ⟨text, table, template, hmeans, htable, hmem⟩⟩

theorem template_eq_iff :
    (ofOverrides calls).template key (.ofTag tag) = template ↔ Chooses calls key tag template := by
  refine ⟨?_, Chooses.template_eq⟩
  rintro rfl
  obtain ⟨template, h⟩ := exists_chooses calls key tag
  rwa [h.template_eq]

theorem ofTag_normalize (tag : String) : Locale.ofTag (Locale.normalize tag) = Locale.ofTag tag :=
  congrArg Locale.mk (Locale.normalize_normalize tag)

theorem ofOverrides_normalized (calls : List Override) :
    ofOverrides (calls.map Override.normalized) = ofOverrides calls := by
  rw [ofOverrides, List.foldl_map]
  simp only [Override.normalized, ofTag_normalize]
  rfl

/-- **Lookup follows its chain.** Whatever overrides are made one after the other on the standard bundle, the template
for a key and a tag is that of the last override with this key and a tag that is for the same locale, or else the one
that is built in for just this locale, or else the key; what is said is this template filled. Overrides of other keys
or for other locales have no say in it. And normalizing is done once and for all: to normalize a tag again, that of an
override or the one asked for, changes neither the tag nor what is found. -/
theorem lookup_follows_chain (calls : List Override) (key tag : String) (args : List String) :
    (∀ template, (ofOverrides calls).template key (.ofTag tag) = template ↔ Chooses calls key tag template) ∧
      (∃ template, Chooses calls key tag template ∧
        (ofOverrides calls).text key args (.ofTag tag) = Template.render template args) ∧
      (∀ before o after, calls = before ++ o :: after → ¬o.Serves key tag →
        (ofOverrides calls).template key (.ofTag tag) = (ofOverrides (before ++ after)).template key (.ofTag tag)) ∧
      Locale.normalize (Locale.normalize tag) = Locale.normalize tag ∧
      (ofOverrides (calls.map Override.normalized)).template key (.ofTag (Locale.normalize tag)) =
        (ofOverrides calls).template key (.ofTag tag) := by
  refine ⟨fun template => template_eq_iff, ?_, ?_, Locale.normalize_normalize tag, ?_⟩
  · obtain ⟨template, h⟩ := exists_chooses calls key tag
    exact ⟨template, h, by rw [text, h.template_eq]⟩
  · rintro before o after rfl hserves
    rw [template, template, overridden?_remove hserves]
  · rw [ofOverrides_normalized, ofTag_normalize]

/-- Overrides for two spellings of one locale, and one for its language. -/
def frenchOverrides : List Override :=
  [⟨"fr-FR", "required", "obligatoire"⟩, ⟨" FR_fr ", "required", "est obligatoire"⟩, ⟨"fr", "required", "requis"⟩]

/-- The later spelling counts, and the language has no say in it. -/
theorem lookup_follows_chain_region :
    ¬Override.Serves ⟨"fr", "required", "requis"⟩ "required" "fr_FR" ∧
      (ofOverrides frenchOverrides).template "required" (.ofTag "fr_FR") = "est obligatoire" ∧
      (ofOverrides (frenchOverrides.take 2)).template "required" (.ofTag "fr_FR") = "est obligatoire" := by
  have hlanguage : ¬Override.Serves ⟨"fr", "required", "requis"⟩ "required" "fr_FR" := by
    rw [Override.serves_iff]
    decide +kernel
  have hregion : Override.Serves ⟨" FR_fr ", "required", "est obligatoire"⟩ "required" "fr_FR" := by
    rw [Override.serves_iff]
    decide +kernel
  obtain ⟨hchain, -, hothers, -⟩ := lookup_follows_chain frenchOverrides "required" "fr_FR" []
  have htemplate := (hchain "est obligatoire").2 (@Chooses.overridden _ _ _ (frenchOverrides.take 1) _ _ rfl
    hregion (List.forall_mem_singleton.2 hlanguage))
  exact ⟨hlanguage, htemplate, (hothers (frenchOverrides.take 2) _ [] rfl hlanguage).symm.trans htemplate⟩

end MessageBundle

end Attest

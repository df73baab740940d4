import Attest.Proofs.Json.Proper

/-!
Decoding of drafts.

The draft of a proper value is decoded as that value if it is nested no deeper than is allowed. The other way round,
the integers in the draft of any text are 64-bit words, and so whatever is decoded of it as a value is proper.
-/

namespace Attest

namespace Fault

variable {α β : Type} {x : Except Fault α} {b : β}

theorem bind_eq_ok_iff {f : α → Except Fault β} : (x >>= f) = .ok b ↔ ∃ a, x = .ok a ∧ f a = .ok b := by
  cases x <;> simp [bind, Except.bind]

theorem map_eq_ok_iff {f : α → β} : x.map f = .ok b ↔ ∃ a, x = .ok a ∧ f a = b := by
  cases x <;> simp [Except.map]

@[simp] theorem ok_bind (a : α) (f : α → Except Fault β) : (Except.ok a >>= f) = f a := rfl

@[simp] theorem pure_eq_ok (a : α) : (pure a : Except Fault α) = .ok a := rfl

@[simp] theorem map_ok (f : α → β) (a : α) : (Except.ok a : Except Fault α).map f = .ok (f a) := rfl

/-- What each step of a fold keeps holds in the end. -/
theorem of_foldlM {σ : Type} {I : σ → Prop} {f : σ → α → Except Fault σ} {xs : List α} {s s' : σ}
    (hstep : ∀ x ∈ xs, ∀ {s s'}, I s → f s x = .ok s' → I s') (hs : I s) (h : xs.foldlM f s = .ok s') : I s' := by
  induction xs generalizing s with
  | nil =>
      obtain rfl := Except.ok.inj h
      exact hs
  | cons x rest ih =>
      obtain ⟨hx, hrest⟩ := List.forall_mem_cons.1 hstep
      rw [List.foldlM_cons] at h
      obtain ⟨t, ht, h⟩ := bind_eq_ok_iff.1 h
      exact ih hrest (hx hs ht) h

end Fault

/-! ### Drafts of values -/

namespace Decoder

theorem jsonItems_ofItems {depth : Nat} {items : List Json} (h : ∀ v ∈ items, json depth (.ofJson v) = .ok v) :
    jsonItems depth (Draft.ofItems items) = .ok items := by
  induction items with
  | nil => rfl
  | cons v rest ih =>
      obtain ⟨hv, hrest⟩ := List.forall_mem_cons.1 h
      rw [Draft.ofItems, jsonItems, hv, ih hrest]
      rfl

theorem jsonMembers_ofMembers {depth : Nat} {members : List (String × Json)}
    (h : ∀ m ∈ members, json depth (.ofJson m.2) = .ok m.2) :
    jsonMembers depth (Draft.ofMembers members) = .ok members := by
  induction members with
  | nil => rfl
  | cons m rest ih =>
      obtain ⟨key, v⟩ := m
      obtain ⟨hv, hrest⟩ := List.forall_mem_cons.1 h
      rw [Draft.ofMembers, Draft.ofMember, jsonMembers, jsonMember, hv, ih hrest]
      rfl

/-- The draft of a proper value is decoded as the value. -/
theorem json_ofJson {v : Json} (h : v.Proper) {depth : Nat} (hdepth : v.nesting ≤ depth) :
    json depth (.ofJson v) = .ok v := by
  induction h generalizing depth with
  | null | bool _ | number _ | string _ => rfl
  | @array items _ ih =>
      rw [Json.nesting] at hdepth
      obtain ⟨depth, rfl⟩ := Nat.exists_eq_succ_of_ne_zero (Nat.ne_zero_of_lt hdepth)
      have hitems : jsonItems depth (Draft.ofItems items) = .ok items := jsonItems_ofItems fun v hv =>
        ih v hv (Nat.le_trans (Json.nesting_le_of_mem hv) (Nat.le_of_succ_le_succ hdepth))
      rw [Draft.ofJson, json, hitems]
      rfl
  | @object members hsorted _ ih =>
      rw [Json.nesting] at hdepth
      obtain ⟨depth, rfl⟩ := Nat.exists_eq_succ_of_ne_zero (Nat.ne_zero_of_lt hdepth)
      have hmembers : jsonMembers depth (Draft.ofMembers members) = .ok members := jsonMembers_ofMembers fun m hm =>
        ih m hm (Nat.le_trans (Json.nesting_le_of_mem_members hm) (Nat.le_of_succ_le_succ hdepth))
      rw [Draft.ofJson, json, hmembers, ← Json.ofMembers_of_sorted hsorted]
      rfl

/-! ### Parts of a record -/

section

variable {α : Type}

@[simp] theorem finish_none : finish none = .ok () := rfl

@[simp] theorem required_some (a : α) : required (some a) = .ok a := rfl

@[simp] theorem once_none (value : Decoder α) (depth : Nat) (d : Draft) :
    once value none depth d = (value depth d).map some := rfl

@[simp] theorem string_string (depth : Nat) (s : String) : string depth (.string s) = .ok s := rfl

@[simp] theorem bool_bool (depth : Nat) (b : Bool) : bool depth (.bool b) = .ok b := rfl

end

/-- A list is decoded of the drafts of its items. -/
theorem list_map {α : Type} {item : Decoder α} {draft : α → Draft} {depth : Nat} {as : List α}
    (h : ∀ a ∈ as, item depth (draft a) = .ok a) : list item (depth + 1) (.array (as.map draft) none) = .ok as := by
  have hitems : (as.map draft).mapM (item depth) = .ok as := by
    induction as with
    | nil => rfl
    | cons a rest ih =>
        obtain ⟨ha, hrest⟩ := List.forall_mem_cons.1 h
        rw [List.map_cons, List.mapM_cons, ha, ih hrest]
        rfl
  rw [list, hitems]
  rfl

/-- The members of an object are decoded of the drafts of their values. -/
theorem members_map {α : Type} {value : Decoder α} {draft : α → Draft} {depth : Nat} {ms : List (String × α)}
    (h : ∀ m ∈ ms, value depth (draft m.2) = .ok m.2) :
    members value (depth + 1) (.object (ms.map fun m => (m.1, draft m.2)) none) = .ok ms := by
  rw [members]
  refine Fault.bind_eq_ok_iff.2 ⟨ms, ?_, rfl⟩
  induction ms with
  | nil => rfl
  | cons m rest ih =>
      obtain ⟨hm, hrest⟩ := List.forall_mem_cons.1 h
      rw [List.map_cons, List.mapM_cons, ih hrest]
      simp only [hm, Fault.ok_bind, Fault.pure_eq_ok]

/-! ### How deep a draft can be -/

theorem exists_jsonItems_iff {depth : Nat} {items : List Draft} :
    (∃ vs, jsonItems depth items = .ok vs) ↔ ∀ d ∈ items, ∃ v, json depth d = .ok v := by
  induction items with
  | nil => simp [jsonItems]
  | cons d rest ih =>
      rw [List.forall_mem_cons, ← ih]
      simp [jsonItems, Fault.bind_eq_ok_iff]

theorem exists_jsonMembers_iff {depth : Nat} {members : List (String × Draft)} :
    (∃ kvs, jsonMembers depth members = .ok kvs) ↔ ∀ m ∈ members, ∃ v, json depth m.2 = .ok v := by
  induction members with
  | nil => simp [jsonMembers]
  | cons m rest ih =>
      obtain ⟨key, d⟩ := m
      rw [List.forall_mem_cons, ← ih]
      simp [jsonMembers, jsonMember, Fault.bind_eq_ok_iff]

theorem exists_json_array_iff {depth : Nat} {items : List Draft} :
    (∃ v, json (depth + 1) (.array items none) = .ok v) ↔ ∀ d ∈ items, ∃ v, json depth d = .ok v := by
  rw [← exists_jsonItems_iff]
  simp [json, Fault.bind_eq_ok_iff]

theorem exists_json_object_iff {depth : Nat} {members : List (String × Draft)} :
    (∃ v, json (depth + 1) (.object members none) = .ok v) ↔ ∀ m ∈ members, ∃ v, json depth m.2 = .ok v := by
  rw [← exists_jsonMembers_iff]
  simp [json, Fault.bind_eq_ok_iff]

mutual

/-- The draft of a value can be decoded if the value is nested no deeper than is allowed, and only then. -/
theorem exists_json_ofJson_iff : ∀ (v : Json) (depth : Nat),
    (∃ w, json depth (.ofJson v) = .ok w) ↔ v.nesting ≤ depth
  | .null, _ | .bool _, _ | .number _, _ | .string _, _ => ⟨fun _ => Nat.zero_le _, fun _ => ⟨_, rfl⟩⟩
  | .array items, 0 | .object members, 0 => ⟨fun ⟨_, h⟩ => (nomatch h), fun h => (nomatch h)⟩
  | .array items, depth + 1 => by
      rw [Draft.ofJson, exists_json_array_iff, exists_items_ofItems_iff items, Json.nesting, Nat.succ_le_succ_iff]
  | .object members, depth + 1 => by
      rw [Draft.ofJson, exists_json_object_iff, exists_members_ofMembers_iff members, Json.nesting,
        Nat.succ_le_succ_iff]
termination_by structural v => v

theorem exists_items_ofItems_iff : ∀ (items : List Json) (depth : Nat),
    (∀ d ∈ Draft.ofItems items, ∃ w, json depth d = .ok w) ↔ Json.nestingItems items ≤ depth
  | [], _ => by simp [Draft.ofItems, Json.nestingItems]
  | v :: rest, depth => by
      rw [Draft.ofItems, List.forall_mem_cons, exists_json_ofJson_iff v, exists_items_ofItems_iff rest,
        Json.nestingItems, Nat.max_le]
termination_by structural items => items

theorem exists_members_ofMembers_iff : ∀ (members : List (String × Json)) (depth : Nat),
    (∀ m ∈ Draft.ofMembers members, ∃ w, json depth m.2 = .ok w) ↔ Json.nestingMembers members ≤ depth
  | [], _ => by simp [Draft.ofMembers, Json.nestingMembers]
  | m :: rest, depth => by
      rw [Draft.ofMembers, List.forall_mem_cons, exists_member_ofMember_iff m, exists_members_ofMembers_iff rest,
        Json.nestingMembers, Nat.max_le]
termination_by structural members => members

theorem exists_member_ofMember_iff : ∀ (m : String × Json) (depth : Nat),
    (∃ w, json depth (Draft.ofMember m).2 = .ok w) ↔ Json.nestingMember m ≤ depth
  | (_, v), depth => exists_json_ofJson_iff v depth
termination_by structural m => m

end

end Decoder

/-! ### Drafts of texts -/

/-- A draft whose integers are 64-bit words. -/
inductive Draft.Proper : Draft → Prop
  | null : Proper .null
  | bool (b : Bool) : Proper (.bool b)
  | number {n : Number} (h : n.InRange) : Proper (.number n)
  | string (s : String) : Proper (.string s)
  | unreadable : Proper .unreadable
  | array {items : List Draft} (ending : Option Fault) (h : ∀ d ∈ items, Proper d) : Proper (.array items ending)
  | object {members : List (String × Draft)} (ending : Option Fault) (h : ∀ m ∈ members, Proper m.2) :
      Proper (.object members ending)
  | broken (fault : Fault) : Proper (.broken fault)

namespace Draft

theorem proper_leaf_word {d : Draft} (h : d.Proper) (word cs : List Char) :
    (leaf ((readWord word cs).map (d, ·))).1.Proper := by
  cases readWord word cs with
  | error fault => exact .broken fault
  | ok rest => exact h

/-- All that can be read in so many steps is proper. -/
def ReadsProper (fuel : Nat) : Prop :=
  ∀ cs, (readValue fuel cs).1.Proper ∧ (∀ d ∈ (readItems fuel cs).1, d.Proper) ∧
    ∀ m ∈ (readMembers fuel cs).1, m.2.Proper

variable {fuel : Nat}

theorem proper_readValue_succ (ih : ReadsProper fuel) (cs : List Char) : (readValue (fuel + 1) cs).1.Proper := by
  rw [readValue.eq_def]
  dsimp only
  split
  next => exact .broken _
  next c rest _ =>
    split_ifs with hnull htrue hfalse hnumber hstring harray hobject
    · exact proper_leaf_word .null _ _
    · exact proper_leaf_word (.bool true) _ _
    · exact proper_leaf_word (.bool false) _ _
    · cases readNumber (c :: rest) with
      | error fault => exact .broken fault
      | ok found =>
          simp only [Except.map, leaf]
          split
          next hvalue => exact .number (NumberLiteral.inRange_of_value? hvalue)
          next => exact .unreadable
    · cases readString fuel rest with
      | error fault => exact .broken fault
      | ok found =>
          simp only [Except.map, leaf]
          split
          next => exact .string _
          next => exact .unreadable
    · split
      · exact .array _ (by simp)
      · exact .array _ (by simp)
      · exact .array _ (ih _).2.1
    · split
      · exact .object _ (by simp)
      · exact .object _ (by simp)
      · exact .object _ (ih _).2.2
    · exact .broken _

theorem proper_readItems_succ (ih : ReadsProper fuel) (cs : List Char) :
    ∀ d ∈ (readItems (fuel + 1) cs).1, d.Proper := by
  have hvalue := (ih cs).1
  rw [readItems.eq_def]
  dsimp only
  split
  next heq =>
    rw [heq] at hvalue
    simpa using hvalue
  next heq =>
    rw [heq] at hvalue
    split
    · simpa using hvalue
    · split
      · simpa using ⟨hvalue, Proper.broken _⟩
      · simpa using ⟨hvalue, (ih _).2.1⟩
    · simpa using hvalue
    · simpa using hvalue

theorem proper_readMembers_succ (ih : ReadsProper fuel) (cs : List Char) :
    ∀ m ∈ (readMembers (fuel + 1) cs).1, m.2.Proper := by
  rw [readMembers.eq_def]
  dsimp only
  split
  next =>
    split
    · simp
    · simp
    · split
      next rest _ =>
        have hvalue := (ih rest).1
        split
        next heq =>
          rw [heq] at hvalue
          simpa using hvalue
        next heq =>
          rw [heq] at hvalue
          split
          · simpa using hvalue
          · split
            · simpa using hvalue
            · simpa using ⟨hvalue, fun a b => (ih _).2.2 (a, b)⟩
          · simpa using hvalue
          · simpa using hvalue
      · simpa using Proper.broken _
      · simpa using Proper.broken _
  · simp

theorem readsProper (fuel : Nat) : ReadsProper fuel := by
  induction fuel with
  | zero => exact fun cs => ⟨.broken _, by simp [readItems], by simp [readMembers]⟩
  | succ fuel ih =>
      exact fun cs => ⟨proper_readValue_succ ih cs, proper_readItems_succ ih cs, proper_readMembers_succ ih cs⟩

/-- In the draft of a text all integers are 64-bit words. -/
theorem proper_ofText (text : String) : (ofText text).1.Proper := by
  have hread := (readsProper (2 * text.toList.length + 1) text.toList).1
  unfold ofText
  dsimp only
  split
  next heq =>
    rw [heq] at hread
    exact hread
  next heq =>
    rw [heq] at hread
    exact hread

end Draft

namespace Decoder

variable {α σ : Type} {value : Decoder α} {P : α → Prop}

/-- Whatever is decoded of a proper draft has the property. -/
def Yields (value : Decoder α) (P : α → Prop) : Prop :=
  ∀ depth d a, d.Proper → value depth d = .ok a → P a

theorem forall_of_jsonItems {depth : Nat} {items : List Draft} {vs : List Json}
    (h : ∀ d ∈ items, ∀ {v}, json depth d = .ok v → v.Proper) (hitems : jsonItems depth items = .ok vs) :
    ∀ v ∈ vs, v.Proper := by
  induction items generalizing vs with
  | nil =>
      obtain rfl := Except.ok.inj hitems
      simp
  | cons d rest ih =>
      obtain ⟨hd, hrest⟩ := List.forall_mem_cons.1 h
      obtain ⟨v, hv, hitems⟩ := Fault.bind_eq_ok_iff.1 hitems
      obtain ⟨vs, hvs, heq⟩ := Fault.bind_eq_ok_iff.1 hitems
      obtain rfl := Except.ok.inj heq
      exact List.forall_mem_cons.2 ⟨hd hv, ih hrest hvs⟩

theorem forall_of_jsonMembers {depth : Nat} {members : List (String × Draft)} {kvs : List (String × Json)}
    (h : ∀ m ∈ members, ∀ {v}, json depth m.2 = .ok v → v.Proper) (hmembers : jsonMembers depth members = .ok kvs) :
    ∀ kv ∈ kvs, kv.2.Proper := by
  induction members generalizing kvs with
  | nil =>
      obtain rfl := Except.ok.inj hmembers
      simp
  | cons m rest ih =>
      obtain ⟨key, d⟩ := m
      obtain ⟨hd, hrest⟩ := List.forall_mem_cons.1 h
      obtain ⟨kv, hkv, hmembers⟩ := Fault.bind_eq_ok_iff.1 hmembers
      obtain ⟨kvs, hkvs, heq⟩ := Fault.bind_eq_ok_iff.1 hmembers
      obtain ⟨v, hv, hpair⟩ := Fault.bind_eq_ok_iff.1 hkv
      obtain rfl := Except.ok.inj heq
      obtain rfl := Except.ok.inj hpair
      exact List.forall_mem_cons.2 ⟨hd hv, ih hrest hkvs⟩

theorem yields_json : Yields json Json.Proper := by
  intro depth d v hd hv
  induction hd generalizing depth v with
  | null =>
      obtain rfl := Except.ok.inj hv
      exact .null
  | bool b =>
      obtain rfl := Except.ok.inj hv
      exact .bool b
  | number h =>
      obtain rfl := Except.ok.inj hv
      exact .number h
  | string s =>
      obtain rfl := Except.ok.inj hv
      exact .string s
  | unreadable | broken _ => cases hv
  | array ending _ ih =>
      cases depth with
      | zero => cases hv
      | succ depth =>
          obtain ⟨vs, hvs, hv⟩ := Fault.bind_eq_ok_iff.1 hv
          obtain ⟨-, -, heq⟩ := Fault.bind_eq_ok_iff.1 hv
          obtain rfl := Except.ok.inj heq
          exact .array (forall_of_jsonItems (fun d hd => ih d hd depth _) hvs)
  | object ending _ ih =>
      cases depth with
      | zero => cases hv
      | succ depth =>
          obtain ⟨kvs, hkvs, hv⟩ := Fault.bind_eq_ok_iff.1 hv
          obtain ⟨-, -, heq⟩ := Fault.bind_eq_ok_iff.1 hv
          obtain rfl := Except.ok.inj heq
          exact Json.proper_ofMembers (forall_of_jsonMembers (fun m hm => ih m hm depth _) hkvs)

theorem yields_true (value : Decoder α) : Yields value fun _ => True :=
  fun _ _ _ _ _ => trivial

theorem yields_integer (least greatest : Int) :
    Yields (integer least greatest) fun n => least ≤ n ∧ n ≤ greatest := by
  intro depth d n _ h
  unfold integer at h
  split at h
  next =>
    split at h
    next hbounds =>
      obtain rfl := Except.ok.inj h
      exact hbounds
    next => cases h
  next => cases h

theorem yields_natural (bits : Nat) : Yields (natural bits) (· < Nat.pow 2 bits) := by
  intro depth d n hd h
  obtain ⟨i, hi, rfl⟩ := Fault.map_eq_ok_iff.1 h
  have hbounds := yields_integer 0 (Int.pow 2 bits - 1) depth d i hd hi
  have hpow : Int.pow 2 bits = (Nat.pow 2 bits : Nat) := (Int.natCast_pow 2 bits).symm
  omega

theorem Yields.list (h : Yields value P) : Yields (list value) fun as => ∀ a ∈ as, P a := by
  have hmap {depth : Nat} {items : List Draft} {as : List α} (hitems : ∀ d ∈ items, d.Proper)
      (has : items.mapM (value depth) = .ok as) : ∀ a ∈ as, P a := by
    induction items generalizing as with
    | nil =>
        obtain rfl := Except.ok.inj has
        simp
    | cons d rest ih =>
        obtain ⟨hd, hrest⟩ := List.forall_mem_cons.1 hitems
        rw [List.mapM_cons] at has
        obtain ⟨a, ha, has⟩ := Fault.bind_eq_ok_iff.1 has
        obtain ⟨as, hmore, heq⟩ := Fault.bind_eq_ok_iff.1 has
        obtain rfl := Except.ok.inj heq
        exact List.forall_mem_cons.2 ⟨h depth d a hd ha, ih hrest hmore⟩
  intro depth d as hd has
  unfold Decoder.list at has
  split at has
  next => cases has
  next =>
    obtain ⟨as, hitems, has⟩ := Fault.bind_eq_ok_iff.1 has
    obtain ⟨-, -, heq⟩ := Fault.bind_eq_ok_iff.1 has
    obtain rfl := Except.ok.inj heq
    cases hd with
    | array _ hd => exact hmap hd hitems
  next => cases has

theorem Yields.once (h : Yields value P) {old new : Option α} {depth : Nat} {d : Draft} (hd : d.Proper)
    (hnew : once value old depth d = .ok new) : ∀ a ∈ new, P a := by
  unfold Decoder.once at hnew
  split at hnew
  next => cases hnew
  next =>
    obtain ⟨a, ha, rfl⟩ := Fault.map_eq_ok_iff.1 hnew
    simpa using h depth d a hd ha

theorem of_required {field : Option α} {a : α} (h : required field = .ok a) : field = some a := by
  cases field with
  | none => cases h
  | some b => rw [Except.ok.inj h]

/-- A word that was decoded is one of those that are looked for. -/
theorem exists_of_word {find : String → Option α} {depth : Nat} {d : Draft} {a : α} (h : word find depth d = .ok a) :
    ∃ name, find name = some a := by
  unfold word at h
  split at h
  next name => exact ⟨name, of_required h⟩
  next => cases h
  next name _ _ _ =>
    obtain ⟨b, hb, h⟩ := Fault.bind_eq_ok_iff.1 h
    dsimp only at h
    split at h
    next =>
      split at h
      next =>
        obtain rfl := Except.ok.inj h
        exact ⟨name, of_required hb⟩
      next => cases h
      next => cases h
    next => cases h
  next => cases h
  next => cases h
  next => cases h

/-- A field of a record that keeps what is known of the record when it reads a proper draft. -/
def Keeps (I : σ → Prop) (field : σ → Nat → Draft → Except Fault σ) : Prop :=
  ∀ s depth d s', d.Proper → I s → field s depth d = .ok s' → I s'

theorem Keeps.intoFields {I : σ → Prop} {fields : List (σ → Nat → Draft → Except Fault σ)}
    (hfields : ∀ field ∈ fields, Keeps I field) {depth : Nat} {s s' : σ} {items : List Draft} {ending : Option Fault}
    (hitems : ∀ d ∈ items, d.Proper) (hs : I s) (h : intoFields depth fields s items ending = .ok s') : I s' := by
  induction items generalizing fields s with
  | nil =>
      cases fields <;>
      · rw [Decoder.intoFields] at h
        obtain ⟨-, -, heq⟩ := Fault.bind_eq_ok_iff.1 h
        obtain rfl := Except.ok.inj heq
        exact hs
  | cons d rest ih =>
      obtain ⟨hd, hrest⟩ := List.forall_mem_cons.1 hitems
      cases fields with
      | nil => cases h
      | cons field fields =>
          obtain ⟨hfield, hfields⟩ := List.forall_mem_cons.1 hfields
          obtain ⟨t, ht, h⟩ := Fault.bind_eq_ok_iff.1 h
          exact ih hfields hrest (hfield s depth d t hd hs ht) h

/-- What all fields of a record keep is so of a record that was read. -/
theorem yields_record {I : σ → Prop} {fields : List (String × (σ → Nat → Draft → Except Fault σ))} {start : σ}
    (hstart : I start) (hfields : ∀ field ∈ fields, Keeps I field.2) : Yields (record fields start) I := by
  intro depth d s hd h
  unfold record at h
  split at h
  next => cases h
  next =>
    cases hd with
    | array _ hitems =>
        refine Keeps.intoFields (fun field hfield => ?_) hitems hstart h
        obtain ⟨named, hnamed, rfl⟩ := List.mem_map.1 hfield
        exact hfields named hnamed
  next => cases h
  next =>
    obtain ⟨s, hfold, h⟩ := Fault.bind_eq_ok_iff.1 h
    obtain ⟨-, -, heq⟩ := Fault.bind_eq_ok_iff.1 h
    obtain rfl := Except.ok.inj heq
    cases hd with
    | object _ hmembers =>
        refine Fault.of_foldlM (fun m hm s s' hs hstep => ?_) hstart hfold
        dsimp only at hstep
        split at hstep
        -- A member with the name of a field goes to that field, any other is passed over.
        next field hlookup =>
          obtain ⟨before, after, heq, -⟩ := List.lookup_eq_some_iff.1 hlookup
          have hmem : (m.1, field) ∈ fields := by
            rw [heq]
            exact List.mem_append_right _ List.mem_cons_self
          exact hfields _ hmem s _ m.2 s' (hmembers m hm) hs hstep
        next =>
          obtain ⟨-, -, heq⟩ := Fault.bind_eq_ok_iff.1 hstep
          obtain rfl := Except.ok.inj heq
          exact hs
  next => cases h

end Decoder

end Attest

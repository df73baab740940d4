import Attest.Pattern.Vetting

/-!
A store of patterns changes no verdict. Whatever a store has come to by vetting, each of its entries is what vetting
says of the pattern, and so it answers as if it were empty.

The limit under which a pattern was put in does not matter: it decides whether a pattern is looked at, and nothing
that is kept in the store depends on it.
-/

namespace Attest

namespace Pattern

theorem vet_of_checkLength {limit : Nat} {pattern : String} (h : checkLength limit pattern = .ok ()) :
    vet limit pattern = vetAnyLength pattern := by
  rw [vet, h]
  rfl

theorem vet_of_tooLong {limit : Nat} {pattern : String} {rejection : Rejection}
    (h : checkLength limit pattern = .error rejection) : vet limit pattern = .error rejection := by
  rw [vet, h]
  rfl

end Pattern

namespace PatternStore

open Pattern

/-- The stores that come of vetting patterns one after the other, each under a limit of its own. -/
inductive Grown : PatternStore → Prop
  | empty : Grown .empty
  | vet {store : PatternStore} (h : Grown store) (limit : Nat) (pattern : String) : Grown (store.vet limit pattern).2

/-- Every pattern in the store is one that vetting accepts, with what vetting says of it. -/
def Sound (store : PatternStore) : Prop :=
  ∀ pattern vetted, store.entries.lookup pattern = some vetted → vetAnyLength pattern = .ok vetted

theorem sound_empty : Sound .empty := by
  intro pattern vetted h
  cases h

theorem Sound.cons {store : PatternStore} (h : store.Sound) {pattern : String} {vetted : Vetted}
    (hvetted : vetAnyLength pattern = .ok vetted) : Sound ⟨(pattern, vetted) :: store.entries⟩ := by
  intro other found hfound
  rw [List.lookup_cons] at hfound
  split at hfound
  next heq =>
    obtain rfl := beq_iff_eq.1 heq
    obtain rfl := Option.some.inj hfound
    exact hvetted
  next => exact h other found hfound

/-- **A store vets as nothing but the pattern and the limit decide**, and stays sound. -/
theorem Sound.vet {store : PatternStore} (h : store.Sound) (limit : Nat) (pattern : String) :
    (store.vet limit pattern).1 = Pattern.vet limit pattern ∧ (store.vet limit pattern).2.Sound := by
  rw [PatternStore.vet]
  cases hlength : checkLength limit pattern with
  | error rejection => exact ⟨(vet_of_tooLong hlength).symm, h⟩
  | ok _ =>
      rw [vet_of_checkLength hlength]
      cases hlookup : store.entries.lookup pattern with
      | some vetted => exact ⟨(h pattern vetted hlookup).symm, h⟩
      | none =>
          cases hvetted : vetAnyLength pattern with
          | error rejection => exact ⟨rfl, h⟩
          | ok vetted => exact ⟨rfl, h.cons hvetted⟩

theorem Grown.sound {store : PatternStore} (h : store.Grown) : store.Sound := by
  induction h with
  | empty => exact sound_empty
  | vet _ limit pattern ih => exact (ih.vet limit pattern).2

/-! ### One step of a history -/

theorem contains_cons (pattern other : String) (vetted : Vetted) (entries : List (String × Vetted)) :
    (⟨(pattern, vetted) :: entries⟩ : PatternStore).contains other = true ↔
      other = pattern ∨ (⟨entries⟩ : PatternStore).contains other = true := by
  rw [contains, contains, List.lookup_cons]
  by_cases h : other = pattern
  · simp [h]
  · simp [h, beq_false_of_ne h]

/-- A pattern that is turned down leaves the store as it is. -/
theorem vet_of_error {store : PatternStore} {limit : Nat} {pattern : String} {rejection : Rejection}
    (h : (store.vet limit pattern).1 = .error rejection) : (store.vet limit pattern).2 = store := by
  rw [PatternStore.vet] at h ⊢
  cases hlength : checkLength limit pattern with
  | error _ => rfl
  | ok _ =>
      cases hlookup : store.entries.lookup pattern with
      | some vetted => rfl
      | none =>
          cases hvetted : vetAnyLength pattern with
          | error _ => rfl
          | ok vetted => simp [hlength, hlookup, hvetted] at h

/-- **What a store holds after a step**: what it held before, and the pattern if vetting accepts it. -/
theorem contains_vet (store : PatternStore) (limit : Nat) (pattern other : String) :
    (store.vet limit pattern).2.contains other = true ↔
      store.contains other = true ∨ other = pattern ∧ ∃ vetted, Pattern.vet limit pattern = .ok vetted := by
  rw [PatternStore.vet]
  cases hlength : checkLength limit pattern with
  | error rejection => simp [vet_of_tooLong hlength]
  | ok _ =>
      rw [vet_of_checkLength hlength]
      cases hlookup : store.entries.lookup pattern with
      | some vetted =>
          -- The pattern is there already, so accepting it once more adds nothing.
          have hthere : store.contains pattern = true := by rw [contains, hlookup, Option.isSome_some]
          refine ⟨.inl, ?_⟩
          rintro (h | ⟨rfl, -⟩)
          · exact h
          · exact hthere
      | none =>
          cases hvetted : vetAnyLength pattern with
          | error rejection => simp
          | ok vetted =>
              rw [contains_cons, or_comm]
              simp

/-- A step puts no pattern into the store a second time. -/
theorem nodup_vet {store : PatternStore} (h : (store.entries.map (·.1)).Nodup) (limit : Nat) (pattern : String) :
    ((store.vet limit pattern).2.entries.map (·.1)).Nodup := by
  rw [PatternStore.vet]
  cases hlength : checkLength limit pattern with
  | error _ => exact h
  | ok _ =>
      cases hlookup : store.entries.lookup pattern with
      | some vetted => exact h
      | none =>
          cases hvetted : vetAnyLength pattern with
          | error _ => exact h
          | ok vetted =>
              refine List.nodup_cons.2 ⟨fun hmem => ?_, h⟩
              obtain ⟨⟨other, found⟩, hentry, rfl⟩ := List.mem_map.1 hmem
              exact bne_iff_ne.1 (List.lookup_eq_none_iff.1 hlookup _ hentry) rfl

/-! ### Histories -/

/-- Patterns vetted one after the other, each under a limit of its own: what is said of each of them, and the store
at the end. -/
def vetAll (store : PatternStore) : List (Nat × String) → List (Except Rejection Vetted) × PatternStore
  | [] => ([], store)
  | (limit, pattern) :: rest =>
      let first := store.vet limit pattern
      let others := first.2.vetAll rest
      (first.1 :: others.1, others.2)

/-- The store after a history that began with an empty one. -/
def after (requests : List (Nat × String)) : PatternStore :=
  (empty.vetAll requests).2

theorem vetAll_append (store : PatternStore) (requests more : List (Nat × String)) :
    (store.vetAll (requests ++ more)).2 = ((store.vetAll requests).2.vetAll more).2 := by
  induction requests generalizing store with
  | nil => rfl
  | cons request requests ih => exact ih _

theorem after_append (requests more : List (Nat × String)) :
    after (requests ++ more) = ((after requests).vetAll more).2 :=
  vetAll_append empty requests more

/-- **A history in a store reads like one without**: each pattern is answered as if it were the first. -/
theorem Sound.vetAll {store : PatternStore} (h : store.Sound) (requests : List (Nat × String)) :
    (store.vetAll requests).1 = requests.map (fun (limit, pattern) => Pattern.vet limit pattern) ∧
      (store.vetAll requests).2.Sound := by
  induction requests generalizing store with
  | nil => exact ⟨rfl, h⟩
  | cons request requests ih =>
      obtain ⟨limit, pattern⟩ := request
      obtain ⟨hfirst, hsound⟩ := h.vet limit pattern
      obtain ⟨hothers, hlast⟩ := ih hsound
      refine ⟨?_, hlast⟩
      rw [PatternStore.vetAll, List.map_cons, hfirst, hothers]

theorem sound_after (requests : List (Nat × String)) : (after requests).Sound :=
  (sound_empty.vetAll requests).2

theorem contains_vetAll (store : PatternStore) (requests : List (Nat × String)) (pattern : String) :
    (store.vetAll requests).2.contains pattern = true ↔ store.contains pattern = true ∨
      ∃ limit vetted, (limit, pattern) ∈ requests ∧ Pattern.vet limit pattern = .ok vetted := by
  induction requests generalizing store with
  | nil => simp [PatternStore.vetAll]
  | cons request requests ih =>
      obtain ⟨limit, first⟩ := request
      rw [PatternStore.vetAll, ih, contains_vet, or_assoc]
      refine or_congr_right ⟨?_, ?_⟩
      · rintro (⟨rfl, vetted, hvetted⟩ | ⟨other, vetted, hmem, hvetted⟩)
        · exact ⟨limit, vetted, List.mem_cons_self, hvetted⟩
        · exact ⟨other, vetted, List.mem_cons_of_mem _ hmem, hvetted⟩
      · rintro ⟨other, vetted, hmem, hvetted⟩
        rcases List.mem_cons.1 hmem with heq | hmem
        · obtain ⟨rfl, rfl⟩ := Prod.mk.inj heq
          exact .inl ⟨rfl, vetted, hvetted⟩
        · exact .inr ⟨other, vetted, hmem, hvetted⟩

theorem nodup_vetAll {store : PatternStore} (h : (store.entries.map (·.1)).Nodup) (requests : List (Nat × String)) :
    ((store.vetAll requests).2.entries.map (·.1)).Nodup := by
  induction requests generalizing store with
  | nil => exact h
  | cons request requests ih => exact ih (nodup_vet h request.1 request.2)

end PatternStore

end Attest

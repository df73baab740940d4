import Attest.Plan.Compilation
import Attest.Proofs.Pattern.Store

/-!
Work that is settled. A compilation carries its store along, and it would not do to follow the store through every
loop. `Settles` says of a piece of the work that it succeeds exactly in one case and fails exactly with certain
errors, from whatever sound store, and that the store is sound again. It has one rule for each way of putting work
together, and an order of precedence comes from the rules alone: what is told of one piece after another is what is
wrong with the first that fails.
-/

namespace Attest

/-- Work that succeeds exactly if `good` holds and fails exactly with the errors in `bad`, whatever sound store it
starts from, and that leaves a sound store. -/
structure Compilation.Settles (work : Compilation α) (good : Prop) (bad : SchemaError → Prop) : Prop where
  sound : ∀ store : PatternStore, store.Sound → (work.run store).2.Sound
  ok : ∀ store : PatternStore, store.Sound → ((∃ a, (work.run store).1 = .ok a) ↔ good)
  error : ∀ store : PatternStore, store.Sound → ∀ e, (work.run store).1 = .error e ↔ bad e

namespace Compilation

variable {α β : Type} {work : Compilation α} {good good' : Prop} {bad bad' : SchemaError → Prop}

theorem Settles.congr (h : Settles work good bad) (hgood : good ↔ good') (hbad : ∀ e, bad e ↔ bad' e) :
    Settles work good' bad' where
  sound := h.sound
  ok store hstore := (h.ok store hstore).trans hgood
  error store hstore e := (h.error store hstore e).trans (hbad e)

theorem settles_pure (a : α) : Settles (pure a) True fun _ => False where
  sound _ hstore := hstore
  ok _ _ := iff_of_true ⟨a, rfl⟩ trivial
  error _ _ _ := iff_of_false (fun h => by cases h) id

theorem settles_throw (error : SchemaError) : Settles (throw error : Compilation α) False fun e => e = error where
  sound _ hstore := hstore
  ok _ _ := iff_of_false (fun ⟨_, h⟩ => by cases h) id
  error _ _ e := ⟨fun h => (Except.error.inj h).symm, fun h => h ▸ rfl⟩

theorem run_bind (work : Compilation α) (next : α → Compilation β) (store : PatternStore) :
    (work >>= next).run store =
      match work.run store with
      | (.ok a, store) => (next a).run store
      | (.error e, store) => (.error e, store) := by
  change ExceptT.bindCont next (work.run store).1 (work.run store).2 = _
  rcases work.run store with ⟨_ | _, store⟩ <;> rfl

/-- One piece of work after another: what is wrong with the second counts only if nothing is with the first. -/
theorem Settles.bind {next : α → Compilation β} (h : Settles work good bad)
    (hnext : ∀ a, Settles (next a) good' bad') :
    Settles (work >>= next) (good ∧ good') fun e => bad e ∨ good ∧ bad' e := by
  refine ⟨?_, ?_, ?_⟩
  · intro store hstore
    have hsound := h.sound store hstore
    rw [run_bind]
    rcases hwork : work.run store with ⟨error | a, store'⟩
    · rwa [hwork] at hsound
    · rw [hwork] at hsound
      exact (hnext a).sound store' hsound
  · intro store hstore
    have hsound := h.sound store hstore
    have hok := h.ok store hstore
    rw [run_bind]
    rcases hwork : work.run store with ⟨error | a, store'⟩
    · rw [hwork] at hok
      have hbad : ¬good := fun hgood => by
        obtain ⟨_, heq⟩ := hok.2 hgood
        cases heq
      exact iff_of_false (fun ⟨_, heq⟩ => by cases heq) fun hgood => hbad hgood.1
    · rw [hwork] at hsound hok
      rw [(hnext a).ok store' hsound, and_iff_right (hok.1 ⟨a, rfl⟩)]
  · intro store hstore e
    have hsound := h.sound store hstore
    have hok := h.ok store hstore
    have herror := h.error store hstore e
    rw [run_bind]
    rcases hwork : work.run store with ⟨error | a, store'⟩
    · rw [hwork] at hok herror
      have hbad : ¬good := fun hgood => by
        obtain ⟨_, heq⟩ := hok.2 hgood
        cases heq
      rw [← herror]
      simp [hbad]
    · rw [hwork] at hsound hok herror
      have hnone : ¬bad e := fun hbad => by cases herror.2 hbad
      rw [(hnext a).error store' hsound e]
      simp [hnone, hok.1 ⟨a, rfl⟩]

theorem Settles.map {f : α → β} (h : Settles work good bad) :
    Settles (work >>= fun a => pure (f a)) good bad :=
  (h.bind fun a => settles_pure (f a)).congr (and_iff_left trivial) fun _ => by simp

theorem settles_throw_bind (error : SchemaError) (next : α → Compilation β) :
    Settles (throw error >>= next) False fun e => e = error :=
  settles_throw error

/-- Work on each element of a list: what is told is what is wrong with the first element that fails. -/
theorem settles_mapM {f : α → Compilation β} {good : α → Prop} {bad : α → SchemaError → Prop} (as : List α)
    (h : ∀ a ∈ as, Settles (f a) (good a) (bad a)) :
    Settles (as.mapM f) (∀ a ∈ as, good a) fun e =>
      ∃ before a after, as = before ++ a :: after ∧ (∀ b ∈ before, good b) ∧ bad a e := by
  induction as with
  | nil =>
      refine (settles_pure []).congr (by simp) fun e => ?_
      simp
  | cons a as ih =>
      have hrest := ih fun b hb => h b (List.mem_cons_of_mem a hb)
      rw [List.mapM_cons]
      refine ((h a List.mem_cons_self).bind fun b => hrest.map).congr (by simp) fun e => ?_
      constructor
      · rintro (hbad | ⟨hgood, before, b, after, rfl, hbefore, hbad⟩)
        · exact ⟨[], a, as, rfl, by simp, hbad⟩
        · refine ⟨a :: before, b, after, rfl, ?_, hbad⟩
          intro b' hb'
          rcases List.mem_cons.1 hb' with rfl | hb'
          · exact hgood
          · exact hbefore b' hb'
      · rintro ⟨before, b, after, heq, hbefore, hbad⟩
        cases before with
        | nil =>
            obtain ⟨rfl, rfl⟩ := List.cons.inj heq
            exact .inl hbad
        | cons a' before =>
            obtain ⟨rfl, rfl⟩ := List.cons.inj heq
            exact .inr ⟨hbefore a List.mem_cons_self, before, b, after, rfl,
              fun b' hb' => hbefore b' (List.mem_cons_of_mem a hb'), hbad⟩

end Compilation

end Attest

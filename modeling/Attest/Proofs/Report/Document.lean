import Attest.Proofs.Json.Decoding
import Attest.Proofs.Report.Grouping
import Mathlib.Data.List.Induction

/-!
Reports as documents.

Whatever text gives an object of lists of strings, with any escapes and blanks, is read as the report that has each
name once, at its first place and with its last list. A report in which no path stands twice comes back from its own
document with its entries in their order.
-/

namespace Attest

open Json.Grammar

namespace Report

/-! ### One entry in the place of another -/

theorem putEntry_eq (path : String) (ms : List String) (es : List (String × List String)) :
    putEntry path ms es = updateEntry path (fun _ => ms) es := by
  induction es with
  | nil => rfl
  | cons e es ih => rw [putEntry, updateEntry, ih]

theorem putEntry_of_not_mem {path : String} {es : List (String × List String)} (h : path ∉ es.map (·.1))
    (ms : List String) : putEntry path ms es = es ++ [(path, ms)] := by
  induction es with
  | nil => rfl
  | cons e es ih =>
      obtain ⟨hpath, hrest⟩ := not_or.1 (fun hor => h (List.mem_cons.2 hor))
      rw [putEntry, if_neg (Ne.symm hpath), ih hrest, List.cons_append]

/-! ### The entries of an object -/

/-- The entries of the members of an object, read one after the other. -/
def gather (members : List (String × List String)) : List (String × List String) :=
  members.foldl (fun es (path, messages) => putEntry path messages es) []

theorem gather_concat (members : List (String × List String)) (m : String × List String) :
    gather (members ++ [m]) = putEntry m.1 m.2 (gather members) := by
  rw [gather, List.foldl_append]
  rfl

/-- Each name stands at its first place. -/
theorem paths_gather (members : List (String × List String)) :
    (gather members).map (·.1) = (members.map (·.1)).eraseDups := by
  -- The member at the end is put in last, so this end is where the induction steps.
  induction members using List.reverseRecOn with
  | nil => rfl
  | append_singleton members m ih =>
      rw [gather_concat, putEntry_eq, paths_updateEntry, ih, List.map_append, List.eraseDups_append]
      simp only [List.mem_eraseDups]
      by_cases h : m.1 ∈ members.map (·.1)
      · simp [h, List.removeAll]
      · simp [h, List.removeAll, List.eraseDups_cons]

/-- Each name has its last list. -/
theorem lookup_gather (members : List (String × List String)) (path : String) :
    (gather members).lookup path = members.reverse.lookup path := by
  induction members using List.reverseRecOn with
  | nil => rfl
  | append_singleton members m ih =>
      rw [gather_concat, putEntry_eq, lookup_updateEntry, ih, List.reverse_concat']
      by_cases h : path = m.1
      · rw [if_pos h, h, List.lookup_cons_self]
      · rw [if_neg h, lookup_cons_of_ne h]

theorem gather_of_nodup {members : List (String × List String)} (h : (members.map (·.1)).Nodup) :
    gather members = members := by
  induction members using List.reverseRecOn with
  | nil => rfl
  | append_singleton members m ih =>
      rw [List.map_append] at h
      obtain ⟨hnodup, -, hdisjoint⟩ := List.nodup_append.1 h
      have hnew : m.1 ∉ members.map (·.1) := fun hold => hdisjoint _ hold _ (List.mem_singleton_self m.1) rfl
      rw [gather_concat, ih hnodup, putEntry_of_not_mem hnew]

/-! ### Texts of objects -/

theorem membered_render (r : Report) : Membered (Listed Quoted) r.entries r.render := by
  refine membered_renderFields ?_
  rw [List.forall₂_map_right_iff, List.forall₂_same]
  rintro ⟨path, messages⟩ -
  refine ⟨rfl, ?_⟩
  dsimp only
  rw [Json.render_array, List.map_map]
  refine listed_renderList (List.forall₂_map_right_iff.2 (List.forall₂_same.2 ?_))
  exact fun s _ => quoted_quote s

/-- The draft of a list of strings. -/
def draftMessages (messages : List String) : Draft :=
  .array (messages.map .string) none

/-- The draft of an object of such lists. -/
def draftMembers (members : List (String × List String)) : Draft :=
  .object (members.map fun m => (m.1, draftMessages m.2)) none

theorem decoder_draftMembers (members : List (String × List String)) :
    decoder Decoder.nesting (draftMembers members) = .ok ⟨gather members⟩ := by
  have hmembers : Decoder.members (Decoder.list Decoder.string) Decoder.nesting (draftMembers members) = .ok members :=
    Decoder.members_map fun m _ => Decoder.list_map fun s _ => Decoder.string_string _ s
  rw [decoder, hmembers]
  rfl

theorem spelled_draftMembers {members : List (String × List String)} {cs : List Char}
    (h : Membered (Listed Quoted) members cs) : Draft.Spelled (draftMembers members) cs := by
  have hlist : ∀ messages cs, Listed Quoted messages cs → Draft.Spelled (draftMessages messages) cs :=
    fun _ _ h => Draft.spells_listed (h.map fun _ _ hs => Draft.spells_quoted hs)
  exact Draft.spells_membered (h.map fun _ _ hm => hm.map hlist)

theorem ofDocument_of_padded {members : List (String × List String)} {cs : List Char}
    (h : Padded (Membered (Listed Quoted)) members cs) : ofDocument (String.ofList cs) = .ok ⟨gather members⟩ := by
  have hspelled : Padded Draft.Spelled (draftMembers members) cs :=
    h.imp fun _ _ hobject => spelled_draftMembers hobject
  rw [ofDocument, Decoder.decodeText_of_padded hspelled, decoder_draftMembers]

theorem read_document {r : Report} (h : r.paths.Nodup) : ofDocument r.document = .ok r := by
  rw [document, ofDocument_of_padded (padded_bare (membered_render r)), gather_of_nodup h]

/-- **Reports come back from their documents.** A report without repeated paths is read back from its document, with
its entries in their order. Any text of an object of lists of strings is read as the report with each name at its first
place and its last list, and this is what the document of that report holds. -/
theorem document_keeps_order :
    (∀ r : Report, r.paths.Nodup → ofDocument r.document = .ok r) ∧
      ∀ members cs, Padded (Membered (Listed Quoted)) members cs →
        ∃ r, ofDocument (String.ofList cs) = .ok r ∧ r.paths = (members.map (·.1)).eraseDups ∧
          (∀ path, r.get? path = members.reverse.lookup path) ∧ Membered (Listed Quoted) r.entries r.render := by
  refine ⟨fun _ hnodup => read_document hnodup, fun members cs h => ?_⟩
  exact ⟨_, ofDocument_of_padded h, paths_gather members, lookup_gather members, membered_render _⟩

/-- A path without messages, and one with a quote in it. -/
def oddPaths : Report :=
  ⟨[("", []), ("a\"b", ["\n", "\x7b"])]⟩

/-- An object that names a member twice, the second time with an escape. -/
def twiceNamed : List Char :=
  ['{', '"', 'a', '"', ':', '[', '"', 'x', '"', ']', ',', ' ', '"', 'b', '"', ':', '[', ']', ',', '"', '\\', 'u', '0',
    '0', '6', '1', '"', ':', '[', '"', 'y', '"', ']', '}']

theorem membered_twiceNamed : Membered (Listed Quoted) [("a", ["x"]), ("b", []), ("a", ["y"])] twiceNamed := by
  have hescaped : Quoted "a" ['"', '\\', 'u', '0', '0', '6', '1', '"'] := by
    have hzero : HexDigit 0 '0' := ⟨by decide, .inl rfl⟩
    have hsix : HexDigit 6 '6' := ⟨by decide, .inl rfl⟩
    have hone : HexDigit 1 '1' := ⟨by decide, .inl rfl⟩
    have hfour : FourHex 'a'.toNat ['0', '0', '6', '1'] := .mk hzero hzero hsix hone
    have hchars : WritesAll "a".toList ['\\', 'u', '0', '0', '6', '1'] := .cons (.unicode hfour) .nil
    exact .mk hchars
  have hlist (s : String) : Listed Quoted [s] ('[' :: (Json.quote s ++ [']'])) :=
    .series (.last (padded_bare (quoted_quote s)))
  have hfirst : Named (Listed Quoted) ("a", ["x"]) _ := named_fieldText (hlist "x")
  have hsecond : Named (Listed Quoted) ("b", []) _ := named_fieldText (.empty blanks_nil)
  have hthird := Named.mk hescaped blanks_nil blanks_nil (hlist "y")
  have hspace : Blanks [' '] := by simp [Blanks]
  exact .series (.more (padded_bare hfirst) (.more (.mk hspace hsecond blanks_nil) (.last (padded_bare hthird))))

theorem document_keeps_order_twiceNamed :
    oddPaths.paths.Nodup ∧ ofDocument oddPaths.document = .ok oddPaths ∧
      Padded (Membered (Listed Quoted)) [("a", ["x"]), ("b", []), ("a", ["y"])] twiceNamed ∧
        ∃ r, ofDocument (String.ofList twiceNamed) = .ok r ∧ r.paths = ["a", "b"] ∧ r.get? "a" = some ["y"] := by
  have hnodup : oddPaths.paths.Nodup := by decide
  have hpadded := padded_bare membered_twiceNamed
  obtain ⟨hback, hread⟩ := document_keeps_order
  obtain ⟨r, hr, hpaths, hget, -⟩ := hread _ _ hpadded
  exact ⟨hnodup, hback _ hnodup, hpadded, r, hr, by rw [hpaths]; decide, by rw [hget]; decide⟩

end Report

end Attest

import Attest.Json.Recognizer

/-!
Texts as bytes. UTF-8 is a code in which no character begins another, so a text whose bytes begin with those of
another text begins with that text. One byte more tells which character comes next, unless it is the first byte of a
character beyond ASCII; then it tells at least that such a character comes next.
-/

namespace Attest.Json

/-- The bytes of a text in UTF-8. -/
def bytes (cs : List Char) : List UInt8 :=
  cs.flatMap String.utf8EncodeChar

theorem bytes_cons (c : Char) (cs : List Char) : bytes (c :: cs) = String.utf8EncodeChar c ++ bytes cs :=
  List.flatMap_cons

theorem bytes_append (cs ds : List Char) : bytes (cs ++ ds) = bytes cs ++ bytes ds :=
  List.flatMap_append

/-- These are the bytes that a string is made of. -/
theorem bytes_toList (text : String) : bytes text.toList = text.toUTF8.data.toList := by
  have hencoded : text.toUTF8 = text.toList.utf8Encode := by
    rw [String.toUTF8, String.utf8Encode_toList]
  rw [hencoded, List.utf8Encode, List.toList_data_toByteArray]
  rfl

theorem length_bytes (cs : List Char) : (bytes cs).length = Draft.byteCount cs := by
  induction cs with
  | nil => rfl
  | cons c cs ih =>
      rw [bytes_cons, List.length_append, String.length_utf8EncodeChar, ih]
      rfl

theorem exists_utf8EncodeChar_eq_cons (c : Char) : ∃ b as, String.utf8EncodeChar c = b :: as := by
  refine List.exists_cons_of_ne_nil (List.ne_nil_of_length_pos ?_)
  rw [String.length_utf8EncodeChar]
  exact c.utf8Size_pos

theorem bytes_eq_nil {cs : List Char} (h : bytes cs = []) : cs = [] := by
  cases cs with
  | nil => rfl
  | cons c cs =>
      obtain ⟨b, as, hc⟩ := exists_utf8EncodeChar_eq_cons c
      rw [bytes_cons, hc] at h
      cases h

/-- No character begins another. -/
theorem eq_of_utf8EncodeChar_append {c d : Char} {as bs : List UInt8}
    (h : String.utf8EncodeChar c ++ as = String.utf8EncodeChar d ++ bs) : c = d := by
  have hdecode (c : Char) (as : List UInt8) :
      (String.utf8EncodeChar c ++ as).toByteArray.utf8DecodeChar? 0 = some c := by
    rw [List.toByteArray_append]
    exact ByteArray.utf8DecodeChar?_utf8EncodeChar_append
  have hfirst := hdecode c as
  rw [h, hdecode d bs] at hfirst
  exact (Option.some.inj hfirst).symm

theorem exists_append_of_bytes {p cs : List Char} {as : List UInt8} (h : bytes p ++ as = bytes cs) :
    ∃ rest, cs = p ++ rest ∧ as = bytes rest := by
  induction p generalizing cs with
  | nil => exact ⟨cs, rfl, h⟩
  | cons c p ih =>
      rw [bytes_cons, List.append_assoc] at h
      cases cs with
      | nil =>
          obtain ⟨b, bs, hc⟩ := exists_utf8EncodeChar_eq_cons c
          rw [hc] at h
          cases h
      | cons d cs =>
          rw [bytes_cons] at h
          obtain rfl := eq_of_utf8EncodeChar_append h
          obtain ⟨rest, rfl, hrest⟩ := ih (List.append_cancel_left h)
          exact ⟨rest, rfl, hrest⟩

theorem bytes_injective {cs ds : List Char} (h : bytes cs = bytes ds) : cs = ds := by
  obtain ⟨rest, rfl, hrest⟩ := exists_append_of_bytes (show bytes cs ++ [] = bytes ds by rw [List.append_nil, h])
  rw [bytes_eq_nil hrest.symm, List.append_nil]

/-! ### The byte after a text -/

/-- Characters that are the same or are both beyond ASCII. -/
def Akin (c d : Char) : Prop :=
  c = d ∨ 128 ≤ c.toNat ∧ 128 ≤ d.toNat

theorem utf8EncodeChar_eq_singleton {c : Char} (h : c.toNat < 128) : ∃ b, String.utf8EncodeChar c = [b] := by
  have hsize : c.utf8Size = 1 := by
    rw [Char.utf8Size_eq_one_iff, UInt32.le_iff_toNat_le]
    exact Nat.le_of_lt_succ h
  exact ⟨_, String.utf8EncodeChar_eq_singleton hsize⟩

/-- Characters with the same first byte. -/
theorem akin_of_utf8EncodeChar {c d : Char} {b : UInt8} {as bs : List UInt8} (hc : String.utf8EncodeChar c = b :: as)
    (hd : String.utf8EncodeChar d = b :: bs) : Akin c d := by
  -- A character of one byte begins with all of it.
  have hascii {c d : Char} {as bs : List UInt8} (hc : String.utf8EncodeChar c = b :: as)
      (hd : String.utf8EncodeChar d = b :: bs) (hlt : c.toNat < 128) : c = d := by
    obtain ⟨b', hsingle⟩ := utf8EncodeChar_eq_singleton hlt
    obtain ⟨rfl, rfl⟩ := List.cons.inj (hc.symm.trans hsingle)
    have heq : String.utf8EncodeChar c ++ bs = String.utf8EncodeChar d ++ [] := by
      rw [hc, hd, List.append_nil]
      rfl
    exact eq_of_utf8EncodeChar_append heq
  by_cases hlt : c.toNat < 128
  · exact .inl (hascii hc hd hlt)
  · by_cases hlt' : d.toNat < 128
    · exact .inl (hascii hd hc hlt').symm
    · exact .inr ⟨Nat.le_of_not_lt hlt, Nat.le_of_not_lt hlt'⟩

/-- A text that begins with the bytes of another one and with the next byte of that. -/
theorem exists_akin_of_bytes {p t cs : List Char} {c : Char}
    (h : (bytes (p ++ c :: t)).take ((bytes p).length + 1) <+: bytes cs) : ∃ d rest, cs = p ++ d :: rest ∧ Akin c d := by
  obtain ⟨b, as, hc⟩ := exists_utf8EncodeChar_eq_cons c
  have htake : (bytes (p ++ c :: t)).take ((bytes p).length + 1) = bytes p ++ [b] := by
    rw [bytes_append, bytes_cons, hc, List.take_append, List.take_of_length_le (Nat.le_succ _), Nat.add_sub_cancel_left]
    rfl
  obtain ⟨more, hmore⟩ := h
  rw [htake, List.append_assoc] at hmore
  obtain ⟨rest, rfl, hrest⟩ := exists_append_of_bytes hmore
  cases rest with
  | nil => cases hrest
  | cons d rest =>
      obtain ⟨b', bs, hd⟩ := exists_utf8EncodeChar_eq_cons d
      rw [bytes_cons, hd] at hrest
      obtain ⟨rfl, -⟩ := List.cons.inj hrest
      exact ⟨d, rest, rfl, akin_of_utf8EncodeChar hc hd⟩

end Attest.Json

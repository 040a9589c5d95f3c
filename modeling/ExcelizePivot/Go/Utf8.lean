import ExcelizePivot.Go.Basic

/-!
# Go/Utf8 — Go strings read as UTF-8 text

A Go `string` holds bytes, and `len` and slicing count bytes; a character takes one to four of
them.  `utf8 s` is the text `s` as Go stores it, so a byte string is valid UTF-8 exactly when it is
`utf8 s` for some text `s` (`ValidUTF8`), and the characters of `utf8 s` are those of `s`.

What the display names need of the encoding:

* the bytes of a text are the bytes of its characters, one after another, so a cut after a whole
  character leaves valid UTF-8 (`take_utf8_prefix`);
* an ASCII character is one byte, so on ASCII text bytes and characters coincide
  (`take_utf8_of_isASCII`);
* the last byte of a character is ASCII or a continuation byte `10xxxxxx`, never a lead byte
  (`utf8EncodeChar_last`), so bytes that end in a lead byte are not valid UTF-8
  (`not_validUTF8_of_lead`).
-/

namespace Excelize

/-- Valid UTF-8: the bytes of some text, a string of Unicode scalar values. -/
def ValidUTF8 (b : GoString) : Prop := ∃ s : String, utf8 s = b

theorem validUTF8_utf8 (s : String) : ValidUTF8 (utf8 s) := ⟨s, rfl⟩

/-- Text whose characters are all ASCII. -/
def IsASCII (s : String) : Prop := ∀ c ∈ s.data, c.toNat < 0x80

instance : DecidablePred IsASCII :=
  fun s => inferInstanceAs (Decidable (∀ c ∈ s.data, c.toNat < 0x80))

theorem utf8_mk (l : List Char) : utf8 ⟨l⟩ = l.flatMap String.utf8EncodeChar := rfl

/-- The bytes of a text count the bytes of each of its characters. -/
theorem length_utf8 (s : String) : (utf8 s).length = (s.data.map Char.utf8Size).sum := by
  simp [utf8, List.length_flatMap, Function.comp_def]

/-! ## Cutting after a whole character -/

/-- **The bytes of the first `j` characters are the first bytes of the text.** -/
theorem take_utf8_prefix (s : String) (j : Nat) :
    (utf8 s).take (utf8 ⟨s.data.take j⟩).length = utf8 ⟨s.data.take j⟩ := by
  have h := List.flatMap_append (s.data.take j) (s.data.drop j) String.utf8EncodeChar
  rw [List.take_append_drop] at h
  rw [utf8_mk, utf8, String.toList, h, List.take_left]

/-! ## ASCII text -/

theorem utf8EncodeChar_of_lt {c : Char} (h : c.toNat < 0x80) :
    String.utf8EncodeChar c = [UInt8.ofNat c.toNat] := by
  have hv : c.val ≤ 127 := Nat.le_of_lt_succ h
  simp [String.utf8EncodeChar, hv]
  rfl

/-- ASCII text is one byte per character. -/
theorem utf8_of_isASCII {s : String} (h : IsASCII s) :
    utf8 s = s.data.map fun c => UInt8.ofNat c.toNat := by
  obtain ⟨l⟩ := s
  induction l with
  | nil => rfl
  | cons c l ih =>
    have hc := h c (List.mem_cons_self c l)
    rw [utf8_mk, List.flatMap_cons, utf8EncodeChar_of_lt hc, List.map_cons]
    exact congrArg _ (ih fun d hd => h d (List.mem_cons_of_mem c hd))

/-- **On ASCII text the first `k` bytes are the first `k` characters.** -/
theorem take_utf8_of_isASCII {s : String} (h : IsASCII s) (k : Nat) :
    (utf8 s).take k = utf8 ⟨s.data.take k⟩ := by
  rw [utf8_of_isASCII h, utf8_of_isASCII fun c hc => h c (List.mem_of_mem_take hc), List.map_take]

/-! ## Lead bytes -/

/-- A continuation byte `10xxxxxx` is below `0xC0`. -/
theorem toNat_continuation_lt (x : UInt8) : (x &&& 0x3f ||| 0x80).toNat < 0xC0 := by
  have hm : x.toNat &&& 63 < 2 ^ 6 := Nat.and_lt_two_pow _ (by decide)
  have key : ∀ m < 64, m ||| 128 < 192 := by decide
  simpa [UInt8.toNat, BitVec.toNat_or] using key _ hm

/-- The last byte of a character is ASCII or a continuation byte. -/
theorem utf8EncodeChar_last (c : Char) :
    ∃ l b, String.utf8EncodeChar c = l ++ [b] ∧ b.toNat < 0xC0 := by
  unfold String.utf8EncodeChar
  dsimp only
  split_ifs with h
  · have hv : c.val.toNat ≤ 127 := h
    exact ⟨[], _, rfl, lt_of_le_of_lt (Nat.mod_le _ 256) (by omega)⟩
  · exact ⟨[_], _, rfl, toNat_continuation_lt _⟩
  · exact ⟨[_, _], _, rfl, toNat_continuation_lt _⟩
  · exact ⟨[_, _, _], _, rfl, toNat_continuation_lt _⟩

/-- **Bytes that end in a lead byte are not valid UTF-8.** -/
theorem not_validUTF8_of_lead {l : GoString} {b : UInt8} (hb : 0xC0 ≤ b.toNat) :
    ¬ ValidUTF8 (l ++ [b]) := by
  rintro ⟨⟨cs⟩, hs⟩
  rcases List.eq_nil_or_concat cs with rfl | ⟨d, c, rfl⟩
  · change [] = l ++ [b] at hs
    simp at hs
  · obtain ⟨l', b', he, hlt⟩ := utf8EncodeChar_last c
    have hlast := congrArg List.getLast? hs
    simp only [utf8_mk, List.concat_eq_append, List.flatMap_append, List.flatMap_cons,
      List.flatMap_nil, List.append_nil, he, List.getLast?_concat, ← List.append_assoc,
      Option.some.injEq] at hlast
    subst hlast
    omega

end Excelize

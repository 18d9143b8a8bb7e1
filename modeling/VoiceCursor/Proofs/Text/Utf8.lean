import VoiceCursor.Proofs.Text.Lines

namespace VoiceCursor.Text

/-! Lines of a text in UTF-8. A newline and a carriage return are single bytes that occur in no
other character, so that the lines are texts in UTF-8 as well. -/

def utf8 (text : List Char) : List UInt8 := text.flatMap String.utf8EncodeChar

theorem utf8_cons (c : Char) (rest : List Char) :
    utf8 (c :: rest) = String.utf8EncodeChar c ++ utf8 rest := rfl

theorem utf8_concat (text : List Char) (c : Char) :
    utf8 (text ++ [c]) = utf8 text ++ String.utf8EncodeChar c := by
  rw [utf8, List.flatMap_append, List.flatMap_singleton, utf8]

theorem toNat_valid (c : Char) : c.toNat < 0xD800 ∨ 0xDFFF < c.toNat ∧ c.toNat < 0x110000 :=
  c.valid

theorem utf8EncodeChar_of_mem_of_lt {c : Char} {byte : UInt8}
    (hbyte : byte ∈ String.utf8EncodeChar c) (hsmall : byte.toNat < 0x80) :
    String.utf8EncodeChar c = [byte] ∧ c.toNat = byte.toNat := by
  by_cases hone : c.val.toNat ≤ 0x7f
  · have hencode : String.utf8EncodeChar c = [UInt8.ofNat c.val.toNat] := by
      rw [String.utf8EncodeChar, if_pos hone]
    rw [hencode, List.mem_singleton] at hbyte
    subst hbyte
    refine ⟨hencode, ?_⟩
    rw [UInt8.toNat_ofNat', Nat.mod_eq_of_lt (by omega)]
    rfl
  -- Each byte of a longer form is a mark of at least 0x80 and some bits below it.
  · exfalso
    simp only [String.utf8EncodeChar, if_neg hone] at hbyte
    split at hbyte
    · simp only [List.mem_cons, List.not_mem_nil, or_false] at hbyte
      rcases hbyte with rfl | rfl <;> rw [UInt8.toNat_ofNat'] at hsmall <;> omega
    · split at hbyte
      · simp only [List.mem_cons, List.not_mem_nil, or_false] at hbyte
        rcases hbyte with rfl | rfl | rfl <;> rw [UInt8.toNat_ofNat'] at hsmall <;> omega
      · simp only [List.mem_cons, List.not_mem_nil, or_false] at hbyte
        rcases hbyte with rfl | rfl | rfl | rfl <;> rw [UInt8.toNat_ofNat'] at hsmall <;> omega

theorem newline_notMem_utf8EncodeChar {c : Char} (hc : c ≠ '\n') :
    10 ∉ String.utf8EncodeChar c := by
  intro hnewline
  obtain ⟨-, hcode⟩ := utf8EncodeChar_of_mem_of_lt hnewline (by decide)
  exact hc (Char.toNat_inj.mp hcode)

theorem splitWhere_utf8 (text : List Char) :
    splitWhere (· = 10) (utf8 text) = (splitWhere (· = '\n') text).map utf8 := by
  induction text with
  | nil => rfl
  | cons c rest ih =>
      by_cases hc : c = '\n'
      · subst hc
        have hencode : String.utf8EncodeChar '\n' = [10] := by decide
        rw [utf8_cons, hencode, List.singleton_append, splitWhere, splitWhere, ih]
        rfl
      · obtain ⟨first, pieces, hpieces⟩ :=
          List.exists_cons_of_ne_nil (splitWhere_ne_nil (· = '\n') rest)
        have hwhole : ∀ byte ∈ String.utf8EncodeChar c, decide (byte = 10) = false := by
          intro byte hbyte
          refine decide_eq_false fun hnewline => ?_
          exact newline_notMem_utf8EncodeChar hc (hnewline ▸ hbyte)
        rw [hpieces, List.map_cons] at ih
        rw [utf8_cons, splitWhere_append_of_forall_not hwhole ih, splitWhere, hpieces]
        simp [hc, utf8_cons]

theorem exists_dropCarriageReturn_utf8 (text : List Char) :
    ∃ rest, dropCarriageReturn (utf8 text) = utf8 rest := by
  rw [dropCarriageReturn]
  split
  · rename_i hreturn
    rcases List.eq_nil_or_concat text with rfl | ⟨rest, c, rfl⟩
    · contradiction
    · rw [List.concat_eq_append] at hreturn ⊢
      rw [utf8_concat, List.getLast?_append,
        List.getLast?_eq_some_getLast String.utf8EncodeChar_ne_nil, Option.some_or,
        ← List.getLast?_eq_some_getLast] at hreturn
      obtain ⟨hencode, -⟩ :=
        utf8EncodeChar_of_mem_of_lt (List.mem_of_getLast? hreturn) (by decide)
      refine ⟨rest, ?_⟩
      rw [utf8_concat, hencode, List.dropLast_concat]
  · exact ⟨text, rfl⟩

theorem isSome_decodeLine?_iff {bytes : List UInt8} :
    (decodeLine? bytes).isSome = true ↔ ∃ text, bytes = utf8 text := by
  have hencode (text : List Char) :
      ByteArray.mk bytes.toArray = text.utf8Encode ↔ bytes = utf8 text := by
    rw [ByteArray.ext_iff, List.utf8Encode, ← Array.toList_inj, List.toList_data_toByteArray, utf8]
  have hvalid : ByteArray.IsValidUTF8 ⟨bytes.toArray⟩ ↔ ∃ text, bytes = utf8 text := by
    constructor
    · rintro ⟨text, htext⟩
      exact ⟨text, (hencode text).mp htext⟩
    · rintro ⟨text, htext⟩
      exact ⟨text, (hencode text).mpr htext⟩
  rw [← hvalid, decodeLine?, String.fromUTF8?]
  split
  · rename_i hbytes
    exact iff_of_true rfl hbytes
  · rename_i hbytes
    exact iff_of_false (by simp) hbytes

theorem isSome_decodeLine?_of_mem_cutLines {bytes line : List UInt8}
    (hbytes : (decodeLine? bytes).isSome = true) (hline : line ∈ cutLines bytes) :
    (decodeLine? line).isSome = true := by
  obtain ⟨text, rfl⟩ := isSome_decodeLine?_iff.mp hbytes
  obtain ⟨piece, hpiece, hwhole⟩ := exists_piece_of_mem_cutLines hline
  rw [splitWhere_utf8] at hpiece
  obtain ⟨part, -, rfl⟩ := List.mem_map.mp hpiece
  rw [isSome_decodeLine?_iff]
  rcases hwhole with rfl | rfl
  · exact ⟨part, rfl⟩
  · exact exists_dropCarriageReturn_utf8 part

end VoiceCursor.Text

import Mathlib.Tactic.SplitIfs
import VoiceCursor.Proofs.Text.Utf8

namespace VoiceCursor.Text

/-! The order of texts. By their code points, texts stand in the order of their bytes in UTF-8. -/

theorem cons_ofNat_lt_cons_ofNat_iff {first second : Nat} {rest others : List UInt8}
    (hfirst : first < 256) (hsecond : second < 256) :
    UInt8.ofNat first :: rest < UInt8.ofNat second :: others ↔
      first < second ∨ first = second ∧ rest < others := by
  rw [List.cons_lt_cons_iff, UInt8.lt_iff_toNat_lt, ← UInt8.toNat_inj, UInt8.toNat_ofNat',
    UInt8.toNat_ofNat', Nat.mod_eq_of_lt hfirst, Nat.mod_eq_of_lt hsecond]

/-- Longer forms have greater first bytes, and forms of one length have the bits of the code point
in order. -/
theorem utf8EncodeChar_append_lt {c d : Char} (hlt : c < d) (rest others : List UInt8) :
    String.utf8EncodeChar c ++ rest < String.utf8EncodeChar d ++ others := by
  have hcode : c.val.toNat < d.val.toNat := hlt
  have hbound : d.val.toNat < 0xD800 ∨ 0xDFFF < d.val.toNat ∧ d.val.toNat < 0x110000 :=
    toNat_valid d
  simp only [String.utf8EncodeChar]
  generalize c.val.toNat = first at hcode
  generalize d.val.toNat = second at hcode hbound
  -- Each divisor is a step of 64 further, which linear arithmetic does not see by itself.
  have hfirst := Nat.div_div_eq_div_mul first 64 64
  have hsecond := Nat.div_div_eq_div_mul second 64 64
  have hfirstTop : first / 262144 % 8 = first / 4096 / 64 := by omega
  have hsecondTop : second / 262144 % 8 = second / 4096 / 64 := by omega
  split_ifs <;>
    simp (disch := omega) only [List.cons_append, List.nil_append,
      cons_ofNat_lt_cons_ofNat_iff] <;>
    omega

theorem utf8_lt_utf8 {text other : List Char} (hlt : text < other) : utf8 text < utf8 other := by
  induction text generalizing other with
  | nil =>
      cases other with
      | nil => exact absurd hlt (List.lt_irrefl [])
      | cons d others =>
          obtain ⟨byte, bytes, hbytes⟩ := List.exists_cons_of_ne_nil
            (String.utf8EncodeChar_ne_nil (c := d))
          rw [utf8_cons, hbytes]
          exact List.nil_lt_cons byte _
  | cons c rest ih =>
      cases other with
      | nil => exact absurd hlt (List.not_lt_nil _)
      | cons d others =>
          rw [utf8_cons, utf8_cons]
          rcases List.cons_lt_cons_iff.mp hlt with hhead | ⟨rfl, hrest⟩
          · exact utf8EncodeChar_append_lt hhead _ _
          · exact List.append_left_lt (ih hrest)

end VoiceCursor.Text

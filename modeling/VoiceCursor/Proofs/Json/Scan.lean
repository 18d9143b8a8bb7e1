import VoiceCursor.Proofs.Json.Written
import VoiceCursor.Proofs.Text.Utf8

namespace VoiceCursor.Json

open Text

/-! Scanning what was written, and strings first. However a character of a string is spelled, the
character that was meant is read. -/

theorem byteLength_append (first second : List Char) :
    byteLength (first ++ second) = byteLength first + byteLength second := by
  induction first with
  | nil => rw [List.nil_append, byteLength, Nat.zero_add]
  | cons c rest ih => rw [List.cons_append, byteLength, byteLength, ih, Nat.add_assoc]

theorem scanFrom_of_into {mode next : Mode} {offset : Nat} {c : Char} {rest : List Char}
    (hstep : mode.step offset c rest = .into next) :
    scanFrom mode offset (c :: rest) = scanFrom next (offset + c.utf8Size) rest := by
  rw [scanFrom, hstep]
  rfl

theorem scanFrom_of_emit {mode : Mode} {token : Token} {offset : Nat} {c : Char}
    {rest : List Char} (hstep : mode.step offset c rest = .emit token) :
    scanFrom mode offset (c :: rest) =
      token :: scanFrom .between (offset + c.utf8Size) rest := by
  rw [scanFrom, hstep]
  rfl

/-- Whether a word changes the token under way, whatever follows, without completing it. -/
def Mode.Leads (mode : Mode) (word : List Char) (next : Mode) : Prop :=
  ∀ offset rest, scanFrom mode offset (word ++ rest) =
    scanFrom next (offset + byteLength word) rest

namespace Mode.Leads

variable {mode middle next : Mode}

theorem nil (mode : Mode) : mode.Leads [] mode := fun _ _ => rfl

theorem trans {first second : List Char} (hfirst : mode.Leads first middle)
    (hsecond : middle.Leads second next) : mode.Leads (first ++ second) next := by
  intro offset rest
  rw [List.append_assoc, hfirst, hsecond, byteLength_append, Nat.add_assoc]

theorem of_step {c : Char} (hstep : ∀ offset rest, mode.step offset c rest = .into next) :
    mode.Leads [c] next := fun offset rest => scanFrom_of_into (hstep offset rest)

theorem cons {c : Char} {rest : List Char}
    (hstep : ∀ offset rest, mode.step offset c rest = .into middle)
    (hrest : middle.Leads rest next) : mode.Leads (c :: rest) next :=
  (of_step hstep).trans hrest

end Mode.Leads

theorem hexValue?_of_spells {value : Nat} {c : Char} (hdigit : SpellsHexDigit value c) :
    hexValue? c = some value := by
  have hvalues : ∀ value < 16,
      ("0123456789abcdef".toList[value]?.bind hexValue? = some value) ∧
        ("0123456789ABCDEF".toList[value]?.bind hexValue? = some value) := by decide
  rcases hdigit with hlower | hupper
  · obtain ⟨hvalue, -⟩ := List.getElem?_eq_some_iff.mp hlower
    have hread := (hvalues value hvalue).1
    rw [hlower] at hread
    exact hread
  · obtain ⟨hvalue, -⟩ := List.getElem?_eq_some_iff.mp hupper
    have hread := (hvalues value hvalue).2
    rw [hupper] at hread
    exact hread

namespace Mode

variable {start : Nat} {read : List Char}

section Hex

variable {high : Option Nat} {value digit : Nat} {c : Char} (hdigit : SpellsHexDigit digit c)

include hdigit

theorem step_hex {count : Nat} (hcount : count ≠ 3) (offset : Nat) (rest : List Char) :
    (hex start read high value count).step offset c rest =
      .into (.hex start read high (16 * value + digit) (count + 1)) := by
  simp only [step, hexValue?_of_spells hdigit, if_neg hcount]

theorem step_hex_last (offset : Nat) (rest : List Char) :
    (hex start read high value 3).step offset c rest =
      endHex offset start read high (16 * value + digit) := by
  simp only [step, hexValue?_of_spells hdigit, if_true]

end Hex

theorem leads_unit {high : Option Nat} {unit : Nat} {digits : List Char} {next : Mode}
    (hdigits : SpellsUnit unit digits)
    (hend : ∀ offset, endHex offset start read high unit = .into next) :
    (hex start read high 0 0).Leads digits next := by
  rcases hdigits with _ | ⟨hfirst, _ | ⟨hsecond, _ | ⟨hthird, _ | ⟨hfourth, ⟨⟩⟩⟩⟩⟩
  refine .cons (step_hex hfirst (by decide)) (.cons (step_hex hsecond (by decide))
    (.cons (step_hex hthird (by decide)) (.of_step fun offset rest => ?_)))
  refine (step_hex_last hfourth offset rest).trans ?_
  rw [show 16 * (16 * (16 * (16 * 0 + unit / 0x1000) + unit / 0x100 % 0x10) +
    unit / 0x10 % 0x10) + unit % 0x10 = unit by omega]
  exact hend offset

theorem leads_char {c : Char} {word : List Char} (hchar : SpellsChar c word) :
    (string start read).Leads word (.string start (c :: read)) := by
  have hbackslash (offset : Nat) (rest : List Char) :
      (string start read).step offset '\\' rest = .into (.escape start read) := rfl
  have hescape (offset : Nat) (rest : List Char) :
      (escape start read).step offset 'u' rest = .into (.hex start read none 0 0) := rfl
  have hvalid := toNat_valid c
  cases hchar with
  | plain hplain =>
      simp only [isPlain, Bool.and_eq_true, decide_eq_true_eq] at hplain
      obtain ⟨⟨hquote, hplain⟩, hcontrol⟩ := hplain
      refine .of_step fun offset rest => ?_
      simp only [step, if_neg hquote, if_neg hplain, if_neg (Nat.not_lt.mpr hcontrol)]
  | letter hletter =>
      have hletters : ∀ entry ∈ letterEscapes, entry.1 ≠ 'u' ∧ escaped? entry.1 = some entry.2 := by
        decide
      -- A `u` starts a unit, so the letters must be told from it.
      obtain ⟨hunit, hmeaning⟩ := hletters _ hletter
      refine .cons hbackslash (.of_step fun offset rest => ?_)
      simp only [step, if_neg hunit, hmeaning]
  | unit hsingle hdigits =>
      refine .cons hbackslash (.cons hescape (leads_unit hdigits fun offset => ?_))
      have hlow : (0xDC00 ≤ c.toNat && c.toNat ≤ 0xDFFF) = false := by simp; omega
      have hhigh : (0xD800 ≤ c.toNat && c.toNat ≤ 0xDBFF) = false := by simp; omega
      simp [endHex, hlow, hhigh]
  | pair hpair hhigh hlow =>
      generalize hhighUnit : 0xD800 + (c.toNat - 0x10000) / 0x400 = highUnit at hhigh
      generalize hlowUnit : 0xDC00 + (c.toNat - 0x10000) % 0x400 = lowUnit at hlow
      have hcode : 0x10000 + (highUnit - 0xD800) * 0x400 + (lowUnit - 0xDC00) = c.toNat := by omega
      have hotherBackslash (offset : Nat) (rest : List Char) :
          (low start read highUnit false).step offset '\\' rest =
            .into (.low start read highUnit true) := rfl
      have hotherEscape (offset : Nat) (rest : List Char) :
          (low start read highUnit true).step offset 'u' rest =
            .into (.hex start read (some highUnit) 0 0) := rfl
      refine .trans (.cons hbackslash (.cons hescape (leads_unit hhigh fun offset => ?_)))
        (.cons hotherBackslash (.cons hotherEscape (leads_unit hlow fun offset => ?_)))
      · have hlone : (0xDC00 ≤ highUnit && highUnit ≤ 0xDFFF) = false := by simp; omega
        have hfirst : (0xD800 ≤ highUnit && highUnit ≤ 0xDBFF) = true := by simp; omega
        simp only [endHex, hlone, hfirst, Bool.false_eq_true, if_false, if_true]
      · have hsecond : (0xDC00 ≤ lowUnit && lowUnit ≤ 0xDFFF) = true := by simp; omega
        simp only [endHex, hsecond, if_true, hcode, Char.ofNat_toNat]

theorem leads_chars {text word : List Char} (hchars : SpellsChars text word) :
    (string start read).Leads word (.string start (text.reverse ++ read)) := by
  induction hchars generalizing read with
  | nil => exact .nil _
  | @cons c rest word others hchar hrest ih =>
      rw [List.reverse_cons, List.append_assoc]
      exact (leads_char hchar).trans ih

end Mode

theorem scanFrom_string {text : String} {body : List Char} (hbody : SpellsChars text.toList body)
    (offset : Nat) (rest : List Char) :
    let word := '"' :: (body ++ ['"'])
    scanFrom .between offset (word ++ rest) =
      ⟨.string text, offset, offset + byteLength word⟩ ::
        scanFrom .between (offset + byteLength word) rest := by
  intro word
  have hopen : Mode.between.step offset '"' (body ++ ['"'] ++ rest) = .into (.string offset []) :=
    rfl
  have hlength : offset + byteLength word =
      offset + '"'.utf8Size + byteLength body + '"'.utf8Size := by
    rw [byteLength, byteLength_append, byteLength, byteLength]
    omega
  rw [List.cons_append, scanFrom_of_into hopen, List.append_assoc, Mode.leads_chars hbody,
    List.append_nil, hlength]
  have hclose (later : Nat) :
      (Mode.string offset text.toList.reverse).step later '"' rest =
        .emit ⟨.string text, offset, later + '"'.utf8Size⟩ := by
    rw [Mode.step, if_pos rfl, List.reverse_reverse, String.ofList_toList]
    rfl
  exact scanFrom_of_emit (hclose _)

end VoiceCursor.Json

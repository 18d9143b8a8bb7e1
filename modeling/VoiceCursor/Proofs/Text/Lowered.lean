import VoiceCursor.Proofs.Text.Steady

namespace VoiceCursor.Text

/-! A lowercased text stays what it is when it is lowercased again. No rule applies to the
image of a rule, and the capital sigma, the only character with two lowercase forms, is not
among the images. -/

def LowercaseRule.misses (rule other : LowercaseRule) : Bool :=
  rule.image + (rule.last - rule.first) < other.first || other.last < rule.image ||
    (other.step = 2 && (rule.step = 2 || rule.first = rule.last) &&
      (rule.image + other.first) % 2 = 1)

theorem LowercaseRule.misses_image {rule other : LowercaseRule}
    (hmisses : rule.misses other = true) {code image : Nat}
    (happly : rule.apply? code = some image) : other.apply? image = none := by
  rw [ LowercaseRule.apply?] at happly ⊢
  split at happly
  · rename_i hcode
    injection happly with himage
    obtain ⟨hlow, hhigh, hstep⟩ := hcode
    simp only [misses, Bool.or_eq_true, Bool.and_eq_true, decide_eq_true_eq] at hmisses
    rw [if_neg]
    rintro ⟨hotherLow, hotherHigh, hotherStep⟩
    rcases hmisses with (hbelow | habove) | ⟨⟨htwo, hrule⟩, hodd⟩
    · omega
    · omega
    -- A rule for every other character is about characters of one parity, and the images are
    -- of the other.
    · have heven : (code - rule.first) % 2 = 0 := by
        rcases hrule with hrule | hsingle
        · rw [hrule] at hstep
          exact hstep
        · omega
      rw [htwo] at hotherStep
      omega
  · contradiction

theorem unruled_image {rule : LowercaseRule} (hrule : rule ∈ lowercaseRules)
    {code image : Nat} (happly : rule.apply? code = some image) :
    ∀ other ∈ lowercaseRules, other.apply? image = none := by
  have hall : (lowercaseRules.all fun rule => lowercaseRules.all rule.misses) = true := by
    decide +kernel
  intro other hother
  have hmisses := List.all_eq_true.mp (List.all_eq_true.mp hall rule hrule) other hother
  exact LowercaseRule.misses_image hmisses happly

theorem lowercaseChar_of_mem_lowercaseChar {c d : Char} (hd : d ∈ lowercaseChar c) :
    lowercaseChar d = [d] := by
  rcases mem_lowercaseChar_cases hd with ⟨rfl, hsame⟩ | rfl | rfl | ⟨rule, hrule, happly⟩
  · exact hsame
  · decide +kernel
  · decide +kernel
  · have hdotted : d ≠ 'İ' := by
      rintro rfl
      exact absurd (contains_imageChars_of_image hrule happly) (by decide +kernel)
    exact lowercaseChar_of_unruled hdotted (unruled_image hrule happly)

/-- Whether lowercasing leaves each character of a text as it is. -/
def IsLowered (text : List Char) : Prop := ∀ c ∈ text, lowercaseChar c = [c]

theorem isLowered_lowercaseAt (before : List Char) (c : Char) (after : List Char) :
    IsLowered (lowercaseAt before c after) := by
  intro d hd
  rw [lowercaseAt] at hd
  split at hd
  · rw [List.mem_singleton] at hd
    subst hd
    decide +kernel
  · exact lowercaseChar_of_mem_lowercaseChar hd

theorem isLowered_lowercaseAfter (before text : List Char) :
    IsLowered (lowercaseAfter before text) := by
  induction text generalizing before with
  | nil => exact fun d hd => absurd hd List.not_mem_nil
  | cons c after ih =>
      rw [lowercaseAfter_cons, IsLowered, List.forall_mem_append]
      exact ⟨isLowered_lowercaseAt before c after, ih (c :: before)⟩

theorem lowercaseAfter_of_isLowered (before : List Char) {text : List Char}
    (hlowered : IsLowered text) : lowercaseAfter before text = text := by
  induction text generalizing before with
  | nil => rfl
  | cons c after ih =>
      obtain ⟨hc, hafter⟩ := List.forall_mem_cons.mp hlowered
      have hsigma : c ≠ 'Σ' := by
        rintro rfl
        exact absurd hc (by decide +kernel)
      rw [lowercaseAfter_cons, lowercaseAt, if_neg fun hfinal => hsigma hfinal.1, hc,
        ih (c :: before) hafter, List.singleton_append]

theorem lowercase_of_isLowered {text : String} (hlowered : IsLowered text.toList) :
    lowercase text = text := by
  rw [lowercase, lowercaseAfter_of_isLowered [] hlowered, String.ofList_toList]

theorem lowercase_lowercase (text : String) : lowercase (lowercase text) = lowercase text := by
  apply lowercase_of_isLowered
  rw [lowercase, String.toList_ofList]
  exact isLowered_lowercaseAfter [] text.toList

end VoiceCursor.Text

import VoiceCursor.Text.Blank
import VoiceCursor.Text.Lowercase

namespace VoiceCursor.Text

/-! Lowercasing does not look past white space: a blank is neither cased nor looked
through, and stays what it is. -/

def CharSet.isApart (first second : CharSet) : Bool :=
  first.ranges.all fun range => second.ranges.all fun other =>
    range.2 < other.1 || other.2 < range.1

theorem CharSet.not_contains_of_isApart {first second : CharSet}
    (hapart : first.isApart second = true) {c : Char}
    (hc : first.contains c = true) : second.contains c = false := by
  rw [Bool.eq_false_iff]
  intro hother
  obtain ⟨range, hrange, hlow, hhigh⟩ := CharSet.contains_iff.mp hc
  obtain ⟨other, hmem, hotherLow, hotherHigh⟩ := CharSet.contains_iff.mp hother
  simp only [isApart, List.all_eq_true, Bool.or_eq_true, decide_eq_true_eq] at hapart
  have := hapart range hrange other hmem
  omega

def ruledChars : CharSet :=
  ⟨lowercaseRules.map fun rule => (rule.first, rule.last)⟩

theorem isCased_of_isBlank {c : Char} (hc : isBlank c = true) : isCased c = false := by
  have hapart : blanks.isApart casedChars = true := by decide +kernel
  exact CharSet.not_contains_of_isApart hapart hc

theorem isCaseIgnorable_of_isBlank {c : Char} (hc : isBlank c = true) :
    isCaseIgnorable c = false := by
  have hapart : blanks.isApart caseIgnorableChars = true := by decide +kernel
  exact CharSet.not_contains_of_isApart hapart hc

theorem lowercaseChar_of_unruled {c : Char} (hdotted : c ≠ 'İ')
    (hrules : ∀ rule ∈ lowercaseRules, rule.apply? c.toNat = none) : lowercaseChar c = [c] := by
  rw [← List.findSome?_eq_none_iff] at hrules
  rw [lowercaseChar, if_neg hdotted, hrules]

theorem lowercaseChar_of_contains {set : CharSet} (hapart : set.isApart ruledChars = true)
    {c : Char} (hc : set.contains c = true) (hdotted : c ≠ 'İ') : lowercaseChar c = [c] := by
  have hunruled := CharSet.not_contains_of_isApart hapart hc
  apply lowercaseChar_of_unruled hdotted
  intro rule hrule
  rw [ LowercaseRule.apply?, if_neg]
  rintro ⟨hlow, hhigh, _⟩
  have hcontains : ruledChars.contains c = true :=
    CharSet.contains_iff.mpr
      ⟨(rule.first, rule.last), List.mem_map.mpr ⟨rule, hrule, rfl⟩, hlow, hhigh⟩
  rw [hunruled] at hcontains
  contradiction

theorem lowercaseChar_of_isBlank {c : Char} (hc : isBlank c = true) :
    lowercaseChar c = [c] := by
  have hapart : blanks.isApart ruledChars = true := by decide +kernel
  apply lowercaseChar_of_contains hapart hc
  rintro rfl
  exact absurd hc (by decide)

theorem meetsCased_cons (c : Char) (text : List Char) :
    meetsCased (c :: text) =
      if isCaseIgnorable c then meetsCased text else isCased c := by
  by_cases hc : isCaseIgnorable c = true <;> simp [meetsCased, hc]

theorem meetsCased_append_blank (text beyond : List Char) {blank : Char}
    (hblank : isBlank blank = true) :
    meetsCased (text ++ blank :: beyond) = meetsCased text := by
  induction text with
  | nil =>
      rw [List.nil_append, meetsCased_cons, isCaseIgnorable_of_isBlank hblank,
        isCased_of_isBlank hblank]
      rfl
  | cons c rest ih => rw [List.cons_append, meetsCased_cons, meetsCased_cons, ih]

theorem lowercaseAfter_behind_blank (before beyond text : List Char) {blank : Char}
    (hblank : isBlank blank = true) :
    lowercaseAfter (before ++ blank :: beyond) text = lowercaseAfter before text := by
  induction text generalizing before with
  | nil => rfl
  | cons c after ih =>
      rw [lowercaseAfter, lowercaseAfter, meetsCased_append_blank before beyond hblank,
        ← List.cons_append, ih]

theorem lowercaseAfter_append_blank (before text beyond : List Char) {blank : Char}
    (hblank : isBlank blank = true) :
    lowercaseAfter before (text ++ blank :: beyond) =
      lowercaseAfter before text ++ blank :: lowercaseAfter [] beyond := by
  induction text generalizing before with
  | nil =>
      have hsigma : blank ≠ 'Σ' := by
        rintro rfl
        exact absurd hblank (by decide)
      have hbeyond := lowercaseAfter_behind_blank [] before beyond hblank
      simp only [List.nil_append] at hbeyond
      simp [lowercaseAfter, hsigma, lowercaseChar_of_isBlank hblank, hbeyond]
  | cons c after ih =>
      rw [List.cons_append, lowercaseAfter, meetsCased_append_blank after beyond hblank,
        ih, lowercaseAfter, List.append_assoc]

end VoiceCursor.Text

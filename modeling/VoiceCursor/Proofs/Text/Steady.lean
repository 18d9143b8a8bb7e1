import Mathlib.Data.List.Basic
import VoiceCursor.Proofs.Text.Lowercase

namespace VoiceCursor.Text

/-! Characters that lowercasing leaves alone and does not put in the place of others. A
lowercased text has them where the text itself has them. -/

def changedChars : CharSet := ⟨(0x130, 0x130) :: ruledChars.ranges⟩

/-- The characters that lowercasing may put in the place of others: the image of each rule,
the two characters for a dotted capital, and the final sigma. -/
def imageChars : CharSet :=
  ⟨(0x69, 0x69) :: (0x307, 0x307) :: (0x3C2, 0x3C2) ::
    lowercaseRules.map fun rule => (rule.image, rule.image + (rule.last - rule.first))⟩

def CharSet.isSteady (set : CharSet) : Bool :=
  set.isApart changedChars && set.isApart imageChars

theorem CharSet.isApart_of_isApart_cons {set : CharSet} {range : Nat × Nat}
    {ranges : List (Nat × Nat)} (hapart : set.isApart ⟨range :: ranges⟩ = true) :
    set.isApart ⟨ranges⟩ = true := by
  simp only [isApart, List.all_cons, List.all_eq_true, Bool.and_eq_true] at hapart ⊢
  intro other hother
  exact (hapart other hother).2

theorem toNat_ofNat_of_isValidChar {code : Nat} (hvalid : code.isValidChar) :
    (Char.ofNat code).toNat = code := by
  rw [Char.ofNat, dif_pos hvalid]
  rfl

theorem LowercaseRule.image_bounds {rule : LowercaseRule} {code image : Nat}
    (happly : rule.apply? code = some image) :
    rule.image ≤ image ∧ image ≤ rule.image + (rule.last - rule.first) := by
  rw [ LowercaseRule.apply?] at happly
  split at happly
  · rename_i hcode
    injection happly with himage
    obtain ⟨hlow, hhigh, -⟩ := hcode
    omega
  · contradiction

def LowercaseRule.staysValid (rule : LowercaseRule) : Bool :=
  rule.image + (rule.last - rule.first) < 0xD800 ||
    (0xDFFF < rule.image && rule.image + (rule.last - rule.first) < 0x110000)

theorem isValidChar_image {rule : LowercaseRule} (hrule : rule ∈ lowercaseRules)
    {code image : Nat} (happly : rule.apply? code = some image) : image.isValidChar := by
  have hall : lowercaseRules.all LowercaseRule.staysValid = true := by decide +kernel
  have hstays := List.all_eq_true.mp hall rule hrule
  obtain ⟨hlow, hhigh⟩ := LowercaseRule.image_bounds happly
  simp only [LowercaseRule.staysValid, Bool.or_eq_true, Bool.and_eq_true,
    decide_eq_true_eq] at hstays
  rw [Nat.isValidChar]
  omega

theorem mem_lowercaseChar_cases {c d : Char} (hd : d ∈ lowercaseChar c) :
    (d = c ∧ lowercaseChar c = [c]) ∨ d = 'i' ∨ d = '\u0307' ∨
      ∃ rule ∈ lowercaseRules, rule.apply? c.toNat = some d.toNat := by
  by_cases hdotted : c = 'İ'
  · rw [lowercaseChar, if_pos hdotted, List.mem_cons, List.mem_singleton] at hd
    rcases hd with hletter | hdot
    · exact .inr (.inl hletter)
    · exact .inr (.inr (.inl hdot))
  · cases hcode : lowercaseRules.findSome? fun rule => rule.apply? c.toNat with
    | none =>
        have hsame : lowercaseChar c = [c] := by rw [lowercaseChar, if_neg hdotted, hcode]
        rw [hsame, List.mem_singleton] at hd
        exact .inl ⟨hd, hsame⟩
    | some code =>
        obtain ⟨rule, hrule, happly⟩ := List.exists_of_findSome?_eq_some hcode
        rw [lowercaseChar, if_neg hdotted, hcode, List.mem_singleton] at hd
        refine .inr (.inr (.inr ⟨rule, hrule, ?_⟩))
        rw [hd, toNat_ofNat_of_isValidChar (isValidChar_image hrule happly), happly]

theorem contains_imageChars_of_image {rule : LowercaseRule} (hrule : rule ∈ lowercaseRules)
    {code : Nat} {d : Char} (happly : rule.apply? code = some d.toNat) :
    imageChars.contains d = true := by
  have hrange : (rule.image, rule.image + (rule.last - rule.first)) ∈ imageChars.ranges :=
    List.mem_cons_of_mem _ (List.mem_cons_of_mem _ (List.mem_cons_of_mem _
      (List.mem_map.mpr ⟨rule, hrule, rfl⟩)))
  rw [CharSet.contains_iff]
  exact ⟨_, hrange, LowercaseRule.image_bounds happly⟩

theorem contains_imageChars_of_ne {c d : Char} (hd : d ∈ lowercaseChar c) (hne : d ≠ c) :
    imageChars.contains d = true := by
  rcases mem_lowercaseChar_cases hd with ⟨hsame, -⟩ | rfl | rfl | ⟨rule, hrule, happly⟩
  · contradiction
  · decide
  · decide
  · exact contains_imageChars_of_image hrule happly

/-- What lowercasing makes of a character between its neighbours. -/
def lowercaseAt (before : List Char) (c : Char) (after : List Char) : List Char :=
  if c = 'Σ' ∧ meetsCased before ∧ ¬ meetsCased after then ['ς'] else lowercaseChar c

theorem lowercaseAfter_cons (before : List Char) (c : Char) (after : List Char) :
    lowercaseAfter before (c :: after) =
      lowercaseAt before c after ++ lowercaseAfter (c :: before) after := rfl

theorem lowercaseAt_ne_nil (before : List Char) (c : Char) (after : List Char) :
    lowercaseAt before c after ≠ [] := by
  rw [lowercaseAt, lowercaseChar]
  split
  · simp
  · split
    · simp
    · split <;> simp

theorem lowercaseAfter_eq_nil_iff (before text : List Char) :
    lowercaseAfter before text = [] ↔ text = [] := by
  cases text with
  | nil => exact iff_of_true rfl rfl
  | cons c after => simp [lowercaseAfter_cons, lowercaseAt_ne_nil]

section Steady

variable {set : CharSet} (hsteady : set.isSteady = true)

include hsteady

theorem lowercaseAt_of_contains {c : Char} (hc : set.contains c = true)
    (before after : List Char) : lowercaseAt before c after = [c] := by
  rw [CharSet.isSteady, Bool.and_eq_true] at hsteady
  have hunchanged := CharSet.not_contains_of_isApart hsteady.1 hc
  have hsigma : c ≠ 'Σ' := by
    rintro rfl
    exact absurd hunchanged (by decide +kernel)
  have hdotted : c ≠ 'İ' := by
    rintro rfl
    exact absurd hunchanged (by decide +kernel)
  rw [lowercaseAt, if_neg fun hfinal => hsigma hfinal.1]
  exact lowercaseChar_of_contains (CharSet.isApart_of_isApart_cons hsteady.1) hc hdotted

theorem eq_of_mem_lowercaseAt {before after : List Char} {c d : Char}
    (hd : d ∈ lowercaseAt before c after) (hset : set.contains d = true) : d = c := by
  rw [CharSet.isSteady, Bool.and_eq_true] at hsteady
  have himage := CharSet.not_contains_of_isApart hsteady.2 hset
  rw [lowercaseAt] at hd
  split at hd
  · rw [List.mem_singleton] at hd
    subst hd
    exact absurd himage (by decide)
  · by_cases hsame : d = c
    · exact hsame
    · rw [contains_imageChars_of_ne hd hsame] at himage
      contradiction

variable (before text : List Char)

theorem mem_lowercaseAfter_iff {c : Char} (hc : set.contains c = true) :
    c ∈ lowercaseAfter before text ↔ c ∈ text := by
  induction text generalizing before with
  | nil => rfl
  | cons first after ih =>
      rw [lowercaseAfter_cons, List.mem_append, List.mem_cons, ih]
      refine or_congr_left ⟨fun hmem => eq_of_mem_lowercaseAt hsteady hmem hc, ?_⟩
      rintro rfl
      rw [lowercaseAt_of_contains hsteady hc]
      exact List.mem_singleton_self c

theorem getLast?_lowercaseAfter_iff {c : Char} (hc : set.contains c = true) :
    (lowercaseAfter before text).getLast? = some c ↔ text.getLast? = some c := by
  induction text generalizing before with
  | nil => rfl
  | cons first after ih =>
      rw [lowercaseAfter_cons]
      cases after with
      | nil =>
          rw [lowercaseAfter, List.append_nil, List.getLast?_singleton, Option.some.injEq]
          constructor
          · intro hlast
            exact (eq_of_mem_lowercaseAt hsteady (List.mem_of_getLast? hlast) hc).symm
          · rintro rfl
            rw [lowercaseAt_of_contains hsteady hc, List.getLast?_singleton]
      | cons second rest =>
          have hrest : lowercaseAfter (first :: before) (second :: rest) ≠ [] := by
            rw [Ne, lowercaseAfter_eq_nil_iff]
            exact List.cons_ne_nil second rest
          rw [List.getLast?_append_of_ne_nil _ hrest, ih, List.getLast?_cons_cons]

theorem forall_not_contains_lowercaseAfter_iff :
    (∀ c ∈ lowercaseAfter before text, set.contains c = false) ↔
      ∀ c ∈ text, set.contains c = false := by
  simp only [← Bool.not_eq_true]
  constructor
  · intro hnone c hc hset
    exact hnone c ((mem_lowercaseAfter_iff hsteady before text hset).mpr hc) hset
  · intro hnone c hc hset
    exact hnone c ((mem_lowercaseAfter_iff hsteady before text hset).mp hc) hset

theorem getLast?_lowercaseAfter_not_contains_iff :
    (∀ c, (lowercaseAfter before text).getLast? = some c → set.contains c = false) ↔
      ∀ c, text.getLast? = some c → set.contains c = false := by
  simp only [← Bool.not_eq_true]
  constructor
  · intro hnone c hc hset
    exact hnone c ((getLast?_lowercaseAfter_iff hsteady before text hset).mpr hc) hset
  · intro hnone c hc hset
    exact hnone c ((getLast?_lowercaseAfter_iff hsteady before text hset).mp hc) hset

theorem forall_contains_lowercaseAfter_iff :
    (∀ c ∈ lowercaseAfter before text, set.contains c = true) ↔
      ∀ c ∈ text, set.contains c = true := by
  induction text generalizing before with
  | nil => exact iff_of_true (by simp [lowercaseAfter]) (by simp)
  | cons first after ih =>
      rw [lowercaseAfter_cons, List.forall_mem_append, List.forall_mem_cons, ih]
      refine and_congr_left fun _ => ⟨?_, ?_⟩
      · intro hall
        obtain ⟨c, hc⟩ := List.exists_mem_of_ne_nil _ (lowercaseAt_ne_nil before first after)
        rw [← eq_of_mem_lowercaseAt hsteady hc (hall c hc)]
        exact hall c hc
      · intro hfirst
        rw [lowercaseAt_of_contains hsteady hfirst]
        simpa using hfirst

end Steady

theorem meetsCased_of_forall_not_cased {text : List Char}
    (hcaseless : ∀ c ∈ text, isCased c = false) : meetsCased text = false := by
  induction text with
  | nil => rfl
  | cons c rest ih =>
      obtain ⟨hc, hrest⟩ := List.forall_mem_cons.mp hcaseless
      rw [meetsCased_cons, hc, ih hrest, ite_self]

theorem meetsCased_append_of_forall_not_cased (text : List Char) {marks : List Char}
    (hcaseless : ∀ c ∈ marks, isCased c = false) :
    meetsCased (text ++ marks) = meetsCased text := by
  induction text with
  | nil => exact meetsCased_of_forall_not_cased hcaseless
  | cons c rest ih => rw [List.cons_append, meetsCased_cons, meetsCased_cons, ih]

theorem lowercaseAfter_of_forall_contains {set : CharSet} (hsteady : set.isSteady = true)
    (before : List Char) {marks : List Char} (hmarks : ∀ c ∈ marks, set.contains c = true) :
    lowercaseAfter before marks = marks := by
  induction marks generalizing before with
  | nil => rfl
  | cons c rest ih =>
      obtain ⟨hc, hrest⟩ := List.forall_mem_cons.mp hmarks
      rw [lowercaseAfter_cons, lowercaseAt_of_contains hsteady hc, ih _ hrest]
      rfl

theorem lowercaseAfter_append_of_forall_contains {set : CharSet}
    (hsteady : set.isSteady = true) (hapart : set.isApart casedChars = true)
    (before text : List Char) {marks : List Char}
    (hmarks : ∀ c ∈ marks, set.contains c = true) :
    lowercaseAfter before (text ++ marks) = lowercaseAfter before text ++ marks := by
  have hcaseless : ∀ c ∈ marks, isCased c = false := fun c hc =>
    CharSet.not_contains_of_isApart hapart (hmarks c hc)
  induction text generalizing before with
  | nil => exact lowercaseAfter_of_forall_contains hsteady before hmarks
  | cons c after ih =>
      rw [List.cons_append, lowercaseAfter_cons, lowercaseAfter_cons, ih, List.append_assoc,
        lowercaseAt, lowercaseAt, meetsCased_append_of_forall_not_cased after hcaseless]

end VoiceCursor.Text

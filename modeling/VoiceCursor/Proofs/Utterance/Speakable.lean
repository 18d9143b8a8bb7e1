import VoiceCursor.Proofs.Text.Lowered
import VoiceCursor.Proofs.Utterance
import VoiceCursor.SpokenNumber

namespace VoiceCursor

open Text

/-! Which words can be spoken. A word can be one that is heard exactly if it is not empty,
no blank cuts it and no punctuation is lost at its end, and lowercasing it first or hearing
it in a longer text makes no difference. -/

def isSpeakable (word : String) : Bool :=
  !word.toList.isEmpty && word.toList.all (fun c => !isBlank c) &&
    word.toList.getLast?.all fun c => !isPunctuation c

theorem isSpeakable_iff {word : String} :
    isSpeakable word = true ↔
      word.toList ≠ [] ∧ (∀ c ∈ word.toList, isBlank c = false) ∧
        ∀ c, word.toList.getLast? = some c → isPunctuation c = false := by
  simp [isSpeakable, and_assoc, Option.all_eq_true]

def punctuationChars : CharSet := ⟨[(0x21, 0x2F), (0x3A, 0x40), (0x5B, 0x60), (0x7B, 0x7E)]⟩

def digitChars : CharSet := ⟨[(0x30, 0x39)]⟩

theorem isPunctuation_eq_contains (c : Char) : isPunctuation c = punctuationChars.contains c := by
  simp [isPunctuation, CharSet.contains, punctuationChars, Char.le_def, UInt32.le_iff_toNat_le,
    Bool.or_assoc]

theorem isDigit_eq_contains (c : Char) : c.isDigit = digitChars.contains c := by
  rw [Bool.eq_iff_iff, Char.isDigit_iff_toNat]
  simp [CharSet.contains, digitChars]

theorem isSteady_blanks : blanks.isSteady = true := by decide +kernel

theorem isSteady_punctuationChars : punctuationChars.isSteady = true := by decide +kernel

theorem isSteady_digitChars : digitChars.isSteady = true := by decide +kernel

theorem toList_lowercase (word : String) :
    (lowercase word).toList = lowercaseAfter [] word.toList := by
  rw [lowercase, String.toList_ofList]

theorem isSpeakable_lowercase (word : String) :
    isSpeakable (lowercase word) = isSpeakable word := by
  have hempty := lowercaseAfter_eq_nil_iff [] word.toList
  have hblank := forall_not_contains_lowercaseAfter_iff isSteady_blanks [] word.toList
  have hmark :=
    getLast?_lowercaseAfter_not_contains_iff isSteady_punctuationChars [] word.toList
  simp only [← isPunctuation_eq_contains] at hmark
  rw [Bool.eq_iff_iff, isSpeakable_iff, isSpeakable_iff, toList_lowercase, Ne, hempty, hmark]
  exact and_congr_right fun _ => and_congr_left fun _ => hblank

theorem isDigitRun_lowercase (word : String) : isDigitRun (lowercase word) = isDigitRun word := by
  have hempty := lowercaseAfter_eq_nil_iff [] word.toList
  have hdigits := forall_contains_lowercaseAfter_iff isSteady_digitChars [] word.toList
  simp only [← isDigit_eq_contains] at hdigits
  rw [Bool.eq_iff_iff, isDigitRun, isDigitRun, toList_lowercase]
  simp only [Bool.and_eq_true, Bool.not_eq_true', List.isEmpty_eq_false_iff, List.all_eq_true,
    Ne, hempty, hdigits]

theorem isSpeakable_of_mem_spokenWords {text word : String} (hword : word ∈ spokenWords text) :
    isSpeakable word = true := by
  obtain ⟨chars, hchars, rfl⟩ := List.mem_map.mp hword
  obtain ⟨htrimmed, hnonempty⟩ := List.mem_filter.mp hchars
  obtain ⟨piece, hpiece, rfl⟩ := List.mem_map.mp htrimmed
  rw [isSpeakable_iff, String.toList_ofList]
  refine ⟨by simpa using hnonempty, ?_, ?_⟩
  · intro c hc
    exact not_separator_of_mem_splitWhere hpiece (mem_of_mem_trimEnd hc)
  · intro c hlast
    exact not_unwanted_of_getLast?_trimEnd hlast

theorem isLowered_of_mem_spokenWords {text word : String} (hword : word ∈ spokenWords text) :
    IsLowered word.toList := by
  obtain ⟨chars, hchars, rfl⟩ := List.mem_map.mp hword
  obtain ⟨htrimmed, -⟩ := List.mem_filter.mp hchars
  obtain ⟨piece, hpiece, rfl⟩ := List.mem_map.mp htrimmed
  rw [String.toList_ofList]
  intro c hc
  exact isLowered_lowercaseAfter [] text.toList c
    (mem_of_mem_splitWhere hpiece (mem_of_mem_trimEnd hc))

theorem spokenWords_append_marks {word : String} (hword : isSpeakable word = true)
    {marks : String} (hmarks : ∀ c ∈ marks.toList, isPunctuation c = true) :
    spokenWords (word ++ marks) = [lowercase word] := by
  have hlower := hword
  rw [← isSpeakable_lowercase, isSpeakable_iff, toList_lowercase] at hlower
  obtain ⟨hnonempty, hblank, hlast⟩ := hlower
  have hset : ∀ c ∈ marks.toList, punctuationChars.contains c = true := fun c hc => by
    rw [← isPunctuation_eq_contains, hmarks c hc]
  have hwhole : ∀ c ∈ lowercaseAfter [] word.toList ++ marks.toList, isBlank c = false := by
    have hapart : punctuationChars.isApart blanks = true := by decide +kernel
    rw [List.forall_mem_append]
    exact ⟨hblank, fun c hc => CharSet.not_contains_of_isApart hapart (hset c hc)⟩
  have hcaseless : punctuationChars.isApart casedChars = true := by decide +kernel
  rw [spokenWords, String.toList_append,
    lowercaseAfter_append_of_forall_contains isSteady_punctuationChars hcaseless [] _ hset,
    wordsOf, splitWhere_of_forall_not hwhole, List.map_singleton,
    trimEnd_append_of_forall _ hmarks, trimEnd_eq_self hlast]
  simp [lowercase, hnonempty]

theorem spokenWords_around {word : String} (hword : isSpeakable word = true)
    (before after : String) {blank other : Char} (hblank : isBlank blank = true)
    (hother : isBlank other = true) {marks : String}
    (hmarks : ∀ c ∈ marks.toList, isPunctuation c = true) :
    spokenWords (before ++ String.singleton blank ++ word ++ marks ++ String.singleton other ++
        after) =
      spokenWords before ++ [lowercase word] ++ spokenWords after := by
  have hassoc : before ++ String.singleton blank ++ word ++ marks =
      before ++ String.singleton blank ++ (word ++ marks) := String.append_assoc
  rw [spokenWords_append_blank _ _ hother, hassoc, spokenWords_append_blank _ _ hblank,
    spokenWords_append_marks hword hmarks]

theorem lowercase_notMem_spokenWords {word : String} (hword : isSpeakable word = false)
    (text : String) : lowercase word ∉ spokenWords text := by
  intro hmem
  have hspeakable := isSpeakable_of_mem_spokenWords hmem
  rw [isSpeakable_lowercase, hword] at hspeakable
  contradiction

theorem spokenWords_of_isSpeakable {word : String} (hword : isSpeakable word = true) :
    spokenWords word = [lowercase word] := by
  have halone : spokenWords (word ++ "") = [lowercase word] :=
    spokenWords_append_marks hword (by simp)
  rw [String.append_empty] at halone
  exact halone

theorem spokenWords_of_mem {text word : String} (hword : word ∈ spokenWords text) :
    spokenWords word = [word] := by
  rw [spokenWords_of_isSpeakable (isSpeakable_of_mem_spokenWords hword),
    lowercase_of_isLowered (isLowered_of_mem_spokenWords hword)]

theorem spokenWords_intercalate {words : List String}
    (hwords : ∀ word ∈ words, spokenWords word = [word]) :
    spokenWords (" ".intercalate words) = words := by
  induction words with
  | nil => rfl
  | cons word words ih =>
      obtain ⟨hword, hrest⟩ := List.forall_mem_cons.mp hwords
      cases words with
      | nil => rw [String.intercalate_singleton, hword]
      | cons next words =>
          have hspace : " " = String.singleton ' ' := rfl
          rw [String.intercalate_cons_cons, hspace,
            spokenWords_append_blank _ _ (by decide), hword, ← hspace, ih hrest,
            List.singleton_append]

/-- What can be heard: the words that can be spoken and are in lowercase already, in any order.
What is heard of a text is heard again of its words in a row. -/
theorem spokenWords_range :
    (∀ words : List String, (∃ text, spokenWords text = words) ↔
        ∀ word ∈ words, word ≠ "" ∧ (∀ c ∈ word.toList, isBlank c = false) ∧
          (∀ c, word.toList.getLast? = some c → isPunctuation c = false) ∧
          lowercase word = word) ∧
      ∀ text, spokenWords (" ".intercalate (spokenWords text)) = spokenWords text := by
  have hheard (word : String) : (isSpeakable word = true ∧ lowercase word = word) ↔
      word ≠ "" ∧ (∀ c ∈ word.toList, isBlank c = false) ∧
        (∀ c, word.toList.getLast? = some c → isPunctuation c = false) ∧
        lowercase word = word := by
    rw [isSpeakable_iff, Ne, String.toList_eq_nil_iff, and_assoc, and_assoc]
  refine ⟨fun words => ⟨?_, ?_⟩, fun text => spokenWords_intercalate fun word => spokenWords_of_mem⟩
  · rintro ⟨text, rfl⟩ word hword
    rw [← hheard]
    exact ⟨isSpeakable_of_mem_spokenWords hword,
      lowercase_of_isLowered (isLowered_of_mem_spokenWords hword)⟩
  · intro hwords
    refine ⟨" ".intercalate words, spokenWords_intercalate fun word hword => ?_⟩
    obtain ⟨hspeakable, hlower⟩ := (hheard word).mpr (hwords word hword)
    rw [spokenWords_of_isSpeakable hspeakable, hlower]

theorem spokenWords_range_leading_marks :
    let words := ["(five", "-3", "οδος", "-3"]
    (∀ word ∈ words, word ≠ "" ∧ (∀ c ∈ word.toList, isBlank c = false) ∧
        (∀ c, word.toList.getLast? = some c → isPunctuation c = false) ∧
        lowercase word = word) ∧
      ∃ text, spokenWords text = words := by
  intro words
  have hspoken : spokenWords "  (Five! -3 \t ... ΟΔΟΣ, -3" = words := by decide +kernel
  exact ⟨(spokenWords_range.1 words).mp ⟨_, hspoken⟩, _, hspoken⟩

end VoiceCursor

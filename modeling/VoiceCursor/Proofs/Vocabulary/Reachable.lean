import VoiceCursor.Grammar
import VoiceCursor.Proofs.Table
import VoiceCursor.Proofs.Utterance.Speakable

namespace VoiceCursor

open Text

/-! Words of tables and spoken words are lowercased apart from each other and meet all the
same. A key can be heard if and only if it is a word that can be spoken. -/

/-- Wherever the raw word is spoken, the stored one is heard; if the raw word cannot be
spoken, the stored one is never heard. -/
structure ReachedAs (raw stored : String) : Prop where
  heard : isSpeakable raw = true → ∀ (before after : String) (blank other : Char)
    (marks : String), isBlank blank = true → isBlank other = true →
    (∀ c ∈ marks.toList, isPunctuation c = true) →
      spokenWords (before ++ String.singleton blank ++ raw ++ marks ++
          String.singleton other ++ after) =
        spokenWords before ++ [stored] ++ spokenWords after
  unheard : isSpeakable raw = false → ∀ text, stored ∉ spokenWords text

theorem reachedAs_lowercase (raw : String) : ReachedAs raw (lowercase raw) where
  heard hraw before after _ _ _ hblank hother hmarks :=
    spokenWords_around hraw before after hblank hother hmarks
  unheard hraw text := lowercase_notMem_spokenWords hraw text

namespace Grammar

theorem step?_afterGo_isSome_iff {grammar : Grammar} {word : String}
    (hto : grammar.vocabulary.hears "to" word = false) :
    (grammar.step? .afterGo word).isSome = true ↔ word = grammar.token := by
  simp only [step?, commandWord, hto, Bool.false_eq_true, if_false]
  by_cases htoken : word = grammar.token <;> simp [htoken]

end Grammar

/-- Every key of a table, and the token, is reached by the words that spell it, and its
value is found there. Digits alone count as what they write. -/
theorem keys_reached_by_speech {spellings : SpellingTable} {bookmarks : BookmarkTable}
    {numbers : NumberTable} (hspellings : (spellings.keys.map lowercase).Nodup)
    (hbookmarks : (bookmarks.keys.map lowercase).Nodup)
    (hnumbers : (numbers.keys.map lowercase).Nodup) (grammar : Grammar) :
    let vocabulary := Vocabulary.ofTables spellings bookmarks numbers
    (∀ key words, (key, words) ∈ spellings.entries →
      ReachedAs key (lowercase key) ∧
        vocabulary.spellings.lookup? (lowercase key) = some (words.map lowercase)) ∧
    (∀ key line, (key, line) ∈ bookmarks.entries →
      ReachedAs key (lowercase key) ∧ vocabulary.bookmark? (lowercase key) = some line) ∧
    (∀ key value, (key, value) ∈ numbers.entries →
      ReachedAs key (lowercase key) ∧
        vocabulary.numbers.lookup? (lowercase key) = some value ∧
        (isDigitRun key = false → vocabulary.number? (lowercase key) = some value)) ∧
    (∀ raw,
      let chosen := grammar.withToken raw
      ReachedAs raw chosen.token ∧
        ∀ word, chosen.vocabulary.hears "to" word = false →
          ((chosen.step? .afterGo word).isSome = true ↔ word = chosen.token)) := by
  intro vocabulary
  refine ⟨?_, ?_, ?_, ?_⟩
  · intro key words hentry
    exact ⟨reachedAs_lowercase key, spellings.lookup?_map_of_mem _ hspellings hentry⟩
  · intro key line hentry
    exact ⟨reachedAs_lowercase key, bookmarks.lookup?_map_of_mem id hbookmarks hentry⟩
  · intro key value hentry
    have hvalue : vocabulary.numbers.lookup? (lowercase key) = some value :=
      numbers.lookup?_map_of_mem id hnumbers hentry
    refine ⟨reachedAs_lowercase key, hvalue, ?_⟩
    intro hkey
    rw [Vocabulary.number?, NumberTable.number?, isDigitRun_lowercase, hkey, hvalue]
    rfl
  · intro raw chosen
    exact ⟨reachedAs_lowercase raw, fun _ hto => Grammar.step?_afterGo_isSome_iff hto⟩

/-- The last letter of the key is lowercased as the last of a word, though a mark that casing
looks through and another cased letter follow. -/
theorem keys_reached_by_speech_final_sigma :
    let spellings : SpellingTable := .ofList [("TO", ["Too"])]
    let bookmarks : BookmarkTable := .ofList [("ΟΔΟΣ", 7), ("two words", 8)]
    let numbers : NumberTable := .ofList [("Zwölf", 12)]
    let grammar : Grammar := .ofVocabulary (.ofTables spellings bookmarks numbers)
    (spellings.keys.map lowercase).Nodup ∧ (bookmarks.keys.map lowercase).Nodup ∧
      (numbers.keys.map lowercase).Nodup ∧
      spokenWords "Go to ΟΔΟΣ.'\u3000Α" = ["go", "to", "οδος", "α"] ∧
      grammar.vocabulary.bookmark? "οδος" = some 7 ∧
      (∀ text, "two words" ∉ spokenWords text) ∧
      spokenWords "go ΣΑΣ! 3" = ["go", (grammar.withToken "ΣΑΣ").token, "3"] := by
  intro spellings bookmarks numbers grammar
  have hspellings : (spellings.keys.map lowercase).Nodup := by decide +kernel
  have hbookmarks : (bookmarks.keys.map lowercase).Nodup := by decide +kernel
  have hnumbers : (numbers.keys.map lowercase).Nodup := by decide +kernel
  obtain ⟨-, hbookmark, -, htoken⟩ :=
    keys_reached_by_speech hspellings hbookmarks hnumbers grammar
  have hroad := hbookmark "ΟΔΟΣ" 7 (by decide +kernel)
  have hwords := hbookmark "two words" 8 (by decide +kernel)
  have hlower : lowercase "ΟΔΟΣ" = "οδος" := by decide +kernel
  have hplain : lowercase "two words" = "two words" := by decide +kernel
  rw [hlower] at hroad
  rw [hplain] at hwords
  refine ⟨hspellings, hbookmarks, hnumbers, ?_, hroad.2,
    hwords.1.unheard (by decide +kernel), ?_⟩
  · exact (hroad.1.heard (by decide +kernel) "Go to" "Α" ' ' '\u3000' ".'" (by decide)
      (by decide) (List.all_eq_true.mp (by decide))).trans (by decide +kernel)
  · exact ((htoken "ΣΑΣ").1.heard (by decide +kernel) "go" "3" ' ' ' ' "!" (by decide)
      (by decide) (List.all_eq_true.mp (by decide))).trans (by decide +kernel)

end VoiceCursor

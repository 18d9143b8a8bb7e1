import VoiceCursor.Grammar
import VoiceCursor.Proofs.Table
import VoiceCursor.Proofs.Utterance.Speakable

namespace VoiceCursor

/-! What of a vocabulary can make a difference to speech: spellings of command words,
bookmarks that can be spoken, and words for numbers that can be spoken and are not made of
digits. Everything else may be left out. -/

def commandWords : List String := ["go", "to", "line", "down", "up"]

def countsAsLine (allowsZero : Bool) (value : Nat) : Bool := value ≠ 0 || allowsZero

namespace Vocabulary

/-- No spoken word tells the vocabularies apart. -/
structure SameSpeech (allowsZero : Bool) (first second : Vocabulary) : Prop where
  spellings : ∀ command ∈ commandWords, ∀ word,
    word ∈ first.spellingsOf command ↔ word ∈ second.spellingsOf command
  bookmarks : ∀ text, ∀ word ∈ spokenWords text,
    first.bookmark? word = second.bookmark? word
  numbers : ∀ text, ∀ word ∈ spokenWords text, isDigitRun word = false →
    (first.number? word).filter (countsAsLine allowsZero) =
      (second.number? word).filter (countsAsLine allowsZero)

/-- The part of a vocabulary that speech can reach. -/
def speakable (allowsZero : Bool) (vocabulary : Vocabulary) : Vocabulary where
  spellings := vocabulary.spellings.filter fun word _ => commandWords.contains word
  bookmarks := vocabulary.bookmarks.filter fun word _ => isSpeakable word
  numbers := vocabulary.numbers.filter fun word value =>
    isSpeakable word && !isDigitRun word && countsAsLine allowsZero value

theorem hears_iff (vocabulary : Vocabulary) (expected heard : String) :
    vocabulary.hears expected heard = true ↔
      expected = heard ∨ heard ∈ vocabulary.spellingsOf expected := by
  rw [hears, SpellingTable.hears, spellingsOf]
  cases vocabulary.spellings.lookup? expected with
  | none => simp
  | some spellings => simp

theorem number?_of_not_isDigitRun (vocabulary : Vocabulary) {word : String}
    (hword : isDigitRun word = false) :
    vocabulary.number? word = vocabulary.numbers.lookup? word := by
  rw [number?, NumberTable.number?, hword]
  rfl

/-- Keys that no speech can bring, words for digits and uncounted zeros make no
difference. -/
theorem sameSpeech_speakable (allowsZero : Bool) (vocabulary : Vocabulary) :
    vocabulary.SameSpeech allowsZero (vocabulary.speakable allowsZero) where
  spellings command hcommand word := by
    rw [spellingsOf, spellingsOf, speakable, Table.lookup?_filter]
    cases vocabulary.spellings.lookup? command with
    | none => rfl
    | some spellings => simp [Option.filter, hcommand]
  bookmarks text word hword := by
    have hspeakable := isSpeakable_of_mem_spokenWords hword
    rw [bookmark?, bookmark?, speakable, Table.lookup?_filter]
    cases vocabulary.bookmarks.lookup? word with
    | none => rfl
    | some line => simp [Option.filter, hspeakable]
  numbers text word hword hdigits := by
    have hspeakable := isSpeakable_of_mem_spokenWords hword
    rw [number?_of_not_isDigitRun _ hdigits, number?_of_not_isDigitRun _ hdigits, speakable,
      Table.lookup?_filter]
    cases vocabulary.numbers.lookup? word with
    | none => rfl
    | some value => simp [hspeakable, hdigits]

end Vocabulary

namespace Grammar

def withVocabulary (grammar : Grammar) (vocabulary : Vocabulary) : Grammar :=
  { grammar with vocabulary := vocabulary }

variable {grammar : Grammar} {other : Vocabulary}
  (hsame : grammar.vocabulary.SameSpeech grammar.allowsZero other)

include hsame

theorem commandWord_withVocabulary {command : String} (hcommand : command ∈ commandWords)
    (step : Step) (word : String) :
    (grammar.withVocabulary other).commandWord command step word =
      grammar.commandWord command step word := by
  have hhears : other.hears command word = grammar.vocabulary.hears command word := by
    rw [Bool.eq_iff_iff, Vocabulary.hears_iff, Vocabulary.hears_iff,
      hsame.spellings command hcommand]
  rw [commandWord, commandWord, withVocabulary, hhears]

variable {text word : String} (hword : word ∈ spokenWords text)

include hword

theorem bookmark_withVocabulary :
    (grammar.withVocabulary other).bookmark word = grammar.bookmark word := by
  rw [bookmark, bookmark, hsame.bookmarks text word hword]
  rfl

theorem lineNumber?_withVocabulary :
    (grammar.withVocabulary other).lineNumber? word = grammar.lineNumber? word := by
  rw [lineNumber?, lineNumber?]
  cases hdigits : isDigitRun word with
  | true => rfl
  | false => exact (hsame.numbers text word hword hdigits).symm

theorem step?_withVocabulary (state : State) :
    (grammar.withVocabulary other).step? state word = grammar.step? state word := by
  have hcommands : ∀ command ∈ commandWords, ∀ step,
      (grammar.withVocabulary other).commandWord command step word =
        grammar.commandWord command step word := fun command hcommand step =>
    commandWord_withVocabulary hsame hcommand step word
  simp only [commandWords, List.forall_mem_cons] at hcommands
  obtain ⟨hgo, hto, hline, hdown, hup, -⟩ := hcommands
  cases state with
  | idle =>
      simp only [step?, hgo, hline, hdown, hup, bookmark_withVocabulary hsame hword]
  | afterGo =>
      simp only [step?, hto]
      rfl
  | afterGoTo => simp only [step?, hline, bookmark_withVocabulary hsame hword]
  | afterLine => simp only [step?, lineNumber?_withVocabulary hsame hword]

end Grammar

end VoiceCursor

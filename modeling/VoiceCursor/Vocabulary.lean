import VoiceCursor.SpokenNumber
import VoiceCursor.Text.Lowercase

namespace VoiceCursor

/-! The words that a grammar consults: spellings under which a command word may
be heard, bookmarks, and words for numbers. -/

abbrev SpellingTable := Table (List String)

def SpellingTable.hears (table : SpellingTable) (expected heard : String) : Bool :=
  expected == heard ||
    match table.lookup? expected with
    | some spellings => spellings.contains heard
    | none => false

/-- Names of lines, counted from one. -/
abbrev BookmarkTable := Table Nat

structure Vocabulary where
  spellings : SpellingTable
  bookmarks : BookmarkTable
  numbers : NumberTable

namespace Vocabulary

/-- A vocabulary of the given tables with their words lowercased, as spoken words are. Of
words that differ in case only, `Table.map` picks one. -/
def ofTables (spellings : SpellingTable) (bookmarks : BookmarkTable)
    (numbers : NumberTable) : Vocabulary where
  spellings := spellings.map Text.lowercase fun words => words.map Text.lowercase
  bookmarks := bookmarks.map Text.lowercase id
  numbers := numbers.map Text.lowercase id

def hears (vocabulary : Vocabulary) (expected heard : String) : Bool :=
  vocabulary.spellings.hears expected heard

def spellingsOf (vocabulary : Vocabulary) (word : String) : List String :=
  (vocabulary.spellings.lookup? word).getD []

def bookmark? (vocabulary : Vocabulary) (word : String) : Option Nat :=
  vocabulary.bookmarks.lookup? word

def number? (vocabulary : Vocabulary) (word : String) : Option Nat :=
  vocabulary.numbers.number? word

/-- The names of bookmarks in the order of their code points. -/
def sortedBookmarks (vocabulary : Vocabulary) : List String :=
  vocabulary.bookmarks.keys.mergeSort fun first second => decide (first ≤ second)

end Vocabulary

end VoiceCursor

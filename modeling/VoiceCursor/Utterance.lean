import VoiceCursor.Text.Blank
import VoiceCursor.Text.Lowercase
import VoiceCursor.Text.Pieces

namespace VoiceCursor

open Text

/-! The words of an utterance. Speech arrives as text in any case, with
punctuation attached to the ends of words. -/

def isPunctuation (c : Char) : Bool :=
  ('!' ≤ c && c ≤ '/') || (':' ≤ c && c ≤ '@') ||
    ('[' ≤ c && c ≤ '\x60') || ('\x7B' ≤ c && c ≤ '~')

/-- The words of a lowercased text: the stretches between blanks, less their
trailing punctuation. -/
def wordsOf (text : List Char) : List (List Char) :=
  ((splitWhere isBlank text).map (trimEnd isPunctuation)).filter
    fun word => !word.isEmpty

/-- The words that a listener hears. The text is lowercased as a whole
before it is cut. -/
def spokenWords (text : String) : List String :=
  (wordsOf (lowercaseAfter [] text.toList)).map String.ofList

end VoiceCursor

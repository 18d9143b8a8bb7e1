import VoiceCursor.Proofs.Text.Lowercase
import VoiceCursor.Proofs.Text.Pieces
import VoiceCursor.Utterance

namespace VoiceCursor

open Text

/-! Spoken words at a blank: no word reaches across it, and no letter on one side
changes a word on the other. -/

theorem wordsOf_append_blank (before after : List Char) {blank : Char}
    (hblank : isBlank blank = true) :
    wordsOf (before ++ blank :: after) = wordsOf before ++ wordsOf after := by
  rw [wordsOf, splitWhere_append_separator before after hblank, List.map_append,
    List.filter_append]
  rfl

theorem spokenWords_append_blank (before after : String) {blank : Char}
    (hblank : isBlank blank = true) :
    spokenWords (before ++ String.singleton blank ++ after) =
      spokenWords before ++ spokenWords after := by
  have hchars : (before ++ String.singleton blank ++ after).toList =
      before.toList ++ blank :: after.toList := by
    simp
  simp only [spokenWords, hchars, lowercaseAfter_append_blank _ _ _ hblank,
    wordsOf_append_blank _ _ hblank, List.map_append]

end VoiceCursor

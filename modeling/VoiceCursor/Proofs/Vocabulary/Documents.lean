import VoiceCursor.Proofs.Json.Reader
import VoiceCursor.Proofs.Table
import VoiceCursor.Proofs.Text.ByteOrder
import VoiceCursor.Proofs.Vocabulary.SameSpeech
import VoiceCursor.Vocabulary.Documents

namespace VoiceCursor

open Text

/-! Vocabularies that are read from documents. A vocabulary answers as its documents list the
words, however these are written; a document with a value of another kind is refused. -/

namespace Vocabulary

theorem sortedBookmarks_pairwise_lt (vocabulary : Vocabulary) :
    vocabulary.sortedBookmarks.Pairwise (· < ·) := by
  have hsorted : vocabulary.sortedBookmarks.Pairwise (· ≤ ·) := by
    have htrans (first second third : String) (hfirst : decide (first ≤ second) = true)
        (hsecond : decide (second ≤ third) = true) : decide (first ≤ third) = true :=
      decide_eq_true (String.le_trans (of_decide_eq_true hfirst) (of_decide_eq_true hsecond))
    have htotal (first second : String) :
        (decide (first ≤ second) || decide (second ≤ first)) = true := by
      simpa using String.le_total first second
    exact (List.pairwise_mergeSort htrans htotal vocabulary.bookmarks.keys).imp of_decide_eq_true
  have hdistinct : vocabulary.sortedBookmarks.Nodup :=
    (List.mergeSort_perm _ _).nodup_iff.mpr vocabulary.bookmarks.keys_nodup
  exact hsorted.imp₂ (fun _ _ => Std.lt_of_le_of_ne) hdistinct

theorem mem_sortedBookmarks_iff (vocabulary : Vocabulary) {word : String} :
    word ∈ vocabulary.sortedBookmarks ↔ ∃ line, vocabulary.bookmark? word = some line := by
  rw [sortedBookmarks, List.mem_mergeSort, Table.mem_keys_iff]
  rfl

/-- What a vocabulary answers to a word that is heard, as far as its lists of entries tell. -/
structure AnswersAs (vocabulary : Vocabulary) (spellings : List (String × List String))
    (bookmarks numbers : List (String × Nat)) : Prop where
  bookmark : ∀ word line, vocabulary.bookmark? word = some line ↔
    ∃ entry ∈ bookmarks, lowercase entry.1 = word ∧ entry.2 = line
  digits : ∀ word, isDigitRun word = true →
    vocabulary.number? word = some (min (decimalValue word.toList) largestNumber)
  number : ∀ word, isDigitRun word = false → ∀ value, vocabulary.number? word = some value ↔
    ∃ entry ∈ numbers, lowercase entry.1 = word ∧ entry.2 = value
  listed : ∀ entry ∈ spellings,
    vocabulary.spellingsOf (lowercase entry.1) = entry.2.map lowercase
  unlisted : ∀ word, (∀ entry ∈ spellings, lowercase entry.1 ≠ word) →
    vocabulary.spellingsOf word = []
  sorted : vocabulary.sortedBookmarks.Pairwise fun first second =>
    utf8 first.toList < utf8 second.toList
  names : ∀ word, word ∈ vocabulary.sortedBookmarks ↔
    ∃ line, vocabulary.bookmark? word = some line

section OfTables

variable {spellings : List (String × List String)} {bookmarks numbers : List (String × Nat)}
  (hspellings : (spellings.map fun entry => lowercase entry.1).Nodup)
  (hbookmarks : (bookmarks.map fun entry => lowercase entry.1).Nodup)
  (hnumbers : (numbers.map fun entry => lowercase entry.1).Nodup)

include hspellings hbookmarks hnumbers

theorem answersAs_ofTables :
    (ofTables (.ofList spellings) (.ofList bookmarks) (.ofList numbers)).AnswersAs
      spellings bookmarks numbers where
  bookmark word line := Table.lookup?_map_ofList id hbookmarks
  digits word hword := by
    rw [number?, NumberTable.number?, if_pos hword, cappedValue_of_isDigitRun hword]
  number word hword value := by
    rw [number?_of_not_isDigitRun _ hword]
    exact Table.lookup?_map_ofList id hnumbers
  listed entry hentry := by
    have hlookup := (Table.lookup?_map_ofList (List.map lowercase) hspellings).mpr
      ⟨entry, hentry, rfl, rfl⟩
    rw [spellingsOf, ofTables, hlookup]
    rfl
  unlisted word hword := by
    have hlookup : (ofTables (.ofList spellings) (.ofList bookmarks)
        (.ofList numbers)).spellings.lookup? word = none := by
      rw [Option.eq_none_iff_forall_ne_some]
      intro words hwords
      obtain ⟨entry, hentry, hkey, -⟩ := (Table.lookup?_map_ofList _ hspellings).mp hwords
      exact hword entry hentry hkey
    rw [spellingsOf, hlookup]
    rfl
  sorted := (sortedBookmarks_pairwise_lt _).imp utf8_lt_utf8
  names word := mem_sortedBookmarks_iff _

end OfTables

end Vocabulary

/-- What the documents hold: an object for each table. -/
structure Documents.Hold (documents : Documents)
    (spellings bookmarks numbers : List (String × Json.Value)) : Prop where
  spellings : Json.Written spellings documents.spellings
  bookmarks : Json.Written bookmarks documents.bookmarks
  numbers : Json.Written numbers documents.numbers

namespace Vocabulary

open Json

/-- Documents of values that are of their kinds, with keys that stay distinct in lowercase, make a
vocabulary that answers as they list the words. Otherwise the first document with a value of
another kind is refused. -/
theorem ofDocuments_of_hold {documents : Documents}
    {spellings bookmarks numbers : List (String × Value)}
    (hhold : documents.Hold spellings bookmarks numbers) :
    (∀ listedSpellings listedBookmarks listedNumbers,
        typedEntries? Value.strings? spellings = some listedSpellings →
        typedEntries? Value.natural? bookmarks = some listedBookmarks →
        typedEntries? Value.natural? numbers = some listedNumbers →
        (listedSpellings.map fun entry => lowercase entry.1).Nodup →
        (listedBookmarks.map fun entry => lowercase entry.1).Nodup →
        (listedNumbers.map fun entry => lowercase entry.1).Nodup →
        ∃ vocabulary, ofDocuments documents = .ok vocabulary ∧
          vocabulary.AnswersAs listedSpellings listedBookmarks listedNumbers) ∧
      ((∃ entry ∈ spellings, entry.2.strings? = none) →
        ∃ error, ofDocuments documents = .error ⟨.spellings, error⟩) ∧
      ((∀ entry ∈ spellings, entry.2.strings? ≠ none) →
        (∃ entry ∈ bookmarks, entry.2.natural? = none) →
        ∃ error, ofDocuments documents = .error ⟨.bookmarks, error⟩) ∧
      ((∀ entry ∈ spellings, entry.2.strings? ≠ none) →
        (∀ entry ∈ bookmarks, entry.2.natural? ≠ none) →
        (∃ entry ∈ numbers, entry.2.natural? = none) →
        ∃ error, ofDocuments documents = .error ⟨.numbers, error⟩) := by
  refine ⟨?_, ?_, ?_, ?_⟩
  · intro _ _ _ hspellings hbookmarks hnumbers hfirst hsecond hthird
    rw [ofDocuments, readObject_of_typedEntries? takes_stringLists hhold.spellings hspellings,
      readObject_of_typedEntries? takes_naturals hhold.bookmarks hbookmarks,
      readObject_of_typedEntries? takes_naturals hhold.numbers hnumbers]
    exact ⟨_, rfl, answersAs_ofTables hfirst hsecond hthird⟩
  · intro hspellings
    obtain ⟨error, herror⟩ := exists_error_of_written takes_stringLists hhold.spellings hspellings
    rw [ofDocuments, herror]
    exact ⟨error, rfl⟩
  · intro hspellings hbookmarks
    obtain ⟨table, htable⟩ := exists_table_of_written takes_stringLists hhold.spellings hspellings
    obtain ⟨error, herror⟩ := exists_error_of_written takes_naturals hhold.bookmarks hbookmarks
    rw [ofDocuments, htable, herror]
    exact ⟨error, rfl⟩
  · intro hspellings hbookmarks hnumbers
    obtain ⟨first, hfirst⟩ := exists_table_of_written takes_stringLists hhold.spellings hspellings
    obtain ⟨second, hsecond⟩ := exists_table_of_written takes_naturals hhold.bookmarks hbookmarks
    obtain ⟨error, herror⟩ := exists_error_of_written takes_naturals hhold.numbers hnumbers
    rw [ofDocuments, hfirst, hsecond, herror]
    exact ⟨error, rfl⟩

theorem ofDocuments_of_hold_escaped_key :
    let line := Numeral.ofDigits "18446744073709551615".toList
    let documents : Documents :=
      ⟨"\x7B\"GO\": [\"Goal\"]\x7D", "\x7B\"T\\u006Fp\" :18446744073709551615\x7D\n", "\t\x7B \x7D"⟩
    let before : Numeral := { Numeral.ofDigits ['1'] with negative := true }
    let others : Documents := { documents with bookmarks := "\x7B\"\" :-1\x7D" }
    (documents.Hold [("GO", .list [.string "Goal"])] [("Top", .number line)] [] ∧
      ∃ vocabulary, ofDocuments documents = .ok vocabulary ∧
        vocabulary.spellingsOf "go" = ["goal"] ∧
        vocabulary.bookmark? "top" = some 18446744073709551615 ∧
        vocabulary.number? "007" = some 7) ∧
      others.Hold [("GO", .list [.string "Goal"])] [("", .number before)] [] ∧
      ∃ error, ofDocuments others = .error ⟨.bookmarks, error⟩ := by
  intro line documents before others
  have hopen : Lexeme.openBrace.Spells ['\x7B'] := rfl
  have hclose : Lexeme.closeBrace.Spells ['\x7D'] := rfl
  have hcolon : Lexeme.colon.Spells [':'] := rfl
  have hspace : isSpace ' ' = true := rfl
  have hspellings : Written [("GO", .list [.string "Goal"])] documents.spellings := by
    have hgo : (Lexeme.string "GO").Spells ['"', 'G', 'O', '"'] := ⟨_, .plain rfl, rfl⟩
    have hgoal : (Lexeme.string "Goal").Spells ['"', 'G', 'o', 'a', 'l', '"'] :=
      ⟨_, .plain rfl, rfl⟩
    have hfirst : Lexeme.openBracket.Spells ['['] := rfl
    have hlast : Lexeme.closeBracket.Spells [']'] := rfl
    simp only [Written, documents]
    exact .lexeme hopen (.lexeme hgo (.lexeme hcolon (.space hspace (.lexeme hfirst
      (.lexeme hgoal (.lexeme hlast (.lexeme hclose .nil)))))))
  have hbookmarks : Written [("Top", .number line)] documents.bookmarks := by
    have hunit : SpellsUnit 'o'.toNat ['0', '0', '6', 'F'] :=
      .cons (.inl rfl) (.cons (.inl rfl) (.cons (.inl rfl) (.cons (.inr rfl) .nil)))
    have htop : (Lexeme.string "Top").Spells
        ['"', 'T', '\\', 'u', '0', '0', '6', 'F', 'p', '"'] := by
      refine ⟨['T', '\\', 'u', '0', '0', '6', 'F', 'p'], ?_, rfl⟩
      exact .cons (.plain rfl) (.cons (.unit (by decide) hunit) (.plain rfl))
    have hline : (Lexeme.number line).Spells line.whole := by
      refine ⟨⟨by decide, by decide, by decide, by decide, by decide, by decide, by decide⟩, [], ?_⟩
      exact ⟨.head _, rfl⟩
    have hnewline : isSpace '\n' = true := rfl
    simp only [Written, documents]
    exact .lexeme hopen (.lexeme htop (.space hspace (.lexeme hcolon (.lexeme hline
      (.lexeme hclose (.space hnewline .nil))))))
  have hothers : Written [("", .number before)] others.bookmarks := by
    have hempty : (Lexeme.string "").Spells ['"', '"'] := ⟨_, .nil, rfl⟩
    have hbefore : (Lexeme.number before).Spells ['-', '1'] := by
      refine ⟨⟨by decide, by decide, by decide, by decide, by decide, by decide, by decide⟩, [], ?_⟩
      exact ⟨.head _, rfl⟩
    simp only [Written, others]
    exact .lexeme hopen (.lexeme hempty (.space hspace (.lexeme hcolon (.lexeme hbefore
      (.lexeme hclose .nil)))))
  have hnumbers : Written [] documents.numbers := by
    have htab : isSpace '\t' = true := rfl
    simp only [Written, documents]
    exact .space htab (.lexeme hopen (.space hspace (.lexeme hclose .nil)))
  have hhold : documents.Hold [("GO", .list [.string "Goal"])] [("Top", .number line)] [] :=
    ⟨hspellings, hbookmarks, hnumbers⟩
  obtain ⟨vocabulary, hread, hanswers⟩ := (ofDocuments_of_hold hhold).1 [("GO", ["Goal"])]
    [("Top", 18446744073709551615)] [] rfl (by decide +kernel) rfl (by decide +kernel)
    (by decide +kernel) (by decide)
  have hrefused : others.Hold [("GO", .list [.string "Goal"])] [("", .number before)] [] :=
    ⟨hspellings, hothers, hnumbers⟩
  have hlisted : ∀ entry ∈ [("GO", Value.list [.string "Goal"])], entry.2.strings? ≠ none := by
    rw [List.forall_mem_singleton]
    exact nofun
  have herror := (ofDocuments_of_hold hrefused).2.2.1 hlisted ⟨_, .head _, rfl⟩
  refine ⟨⟨hhold, vocabulary, hread, ?_, ?_, ?_⟩, hrefused, herror⟩
  · have hlower : lowercase "GO" = "go" ∧ ["Goal"].map lowercase = ["goal"] := by decide +kernel
    have hgo := hanswers.listed _ (.head _)
    rw [hlower.1, hlower.2] at hgo
    exact hgo
  · exact (hanswers.bookmark _ _).mpr ⟨_, .head _, by decide +kernel, rfl⟩
  · rw [hanswers.digits "007" (by decide)]
    decide

end Vocabulary

end VoiceCursor

import VoiceCursor.Json.Reader
import VoiceCursor.Vocabulary

namespace VoiceCursor

/-! The documents that a vocabulary is read from, one for each of its tables. -/

inductive TableName where
  | spellings
  | bookmarks
  | numbers
  deriving DecidableEq

/-- The name of a table in messages, and of its file but for the ending. -/
def TableName.text : TableName → String
  | .spellings => "like-words"
  | .bookmarks => "line-jumps"
  | .numbers => "number"

structure Documents where
  spellings : String
  bookmarks : String
  numbers : String

structure InvalidDocument where
  table : TableName
  error : Json.Error

namespace Vocabulary

/-- Reads the tables in a fixed order; the first that cannot be read decides. -/
def ofDocuments (documents : Documents) : Except InvalidDocument Vocabulary := do
  let spellings ← (Json.readObject Json.stringLists documents.spellings).mapError
    (InvalidDocument.mk .spellings)
  let bookmarks ← (Json.readObject Json.naturals documents.bookmarks).mapError
    (InvalidDocument.mk .bookmarks)
  let numbers ← (Json.readObject Json.naturals documents.numbers).mapError
    (InvalidDocument.mk .numbers)
  return ofTables spellings bookmarks numbers

end Vocabulary

namespace Documents

def builtinSpellings : String :=
  "\x7B\n" ++
  "  \"go\": [\"goal\", \"goat\"],\n" ++
  "  \"to\": [\"too\", \"two\", \"tu\"],\n" ++
  "  \"line\": [\"lion\", \"lyin\", \"lane\"],\n" ++
  "  \"down\": [\"dawn\", \"town\"],\n" ++
  "  \"up\": [\"op\", \"yup\"]\n" ++
  "\x7D\n"

def builtinBookmarks : String :=
  "\x7B\n" ++
  "  \"top\": 1,\n" ++
  "  \"beginning\": 1\n" ++
  "\x7D\n"

def builtinNumbers : String :=
  "\x7B\n" ++
  "  \"zero\": 0,\n" ++
  "  \"one\": 1,\n" ++
  "  \"won\": 1,\n" ++
  "  \"two\": 2,\n" ++
  "  \"three\": 3,\n" ++
  "  \"four\": 4,\n" ++
  "  \"for\": 4,\n" ++
  "  \"five\": 5,\n" ++
  "  \"six\": 6,\n" ++
  "  \"seven\": 7,\n" ++
  "  \"eight\": 8,\n" ++
  "  \"ate\": 8,\n" ++
  "  \"nine\": 9,\n" ++
  "  \"ten\": 10,\n" ++
  "  \"eleven\": 11,\n" ++
  "  \"twelve\": 12,\n" ++
  "  \"thirteen\": 13,\n" ++
  "  \"fourteen\": 14,\n" ++
  "  \"fifteen\": 15,\n" ++
  "  \"sixteen\": 16,\n" ++
  "  \"seventeen\": 17,\n" ++
  "  \"eighteen\": 18,\n" ++
  "  \"nineteen\": 19,\n" ++
  "  \"twenty\": 20,\n" ++
  "  \"thirty\": 30,\n" ++
  "  \"forty\": 40,\n" ++
  "  \"fifty\": 50,\n" ++
  "  \"sixty\": 60,\n" ++
  "  \"seventy\": 70,\n" ++
  "  \"eighty\": 80,\n" ++
  "  \"ninety\": 90,\n" ++
  "  \"hundred\": 100\n" ++
  "\x7D\n"

def builtin : Documents := ⟨builtinSpellings, builtinBookmarks, builtinNumbers⟩

end Documents

namespace Vocabulary

def empty : Vocabulary := ⟨.empty, .empty, .empty⟩

def builtin : Vocabulary := (ofDocuments .builtin).toOption.getD empty

end Vocabulary

end VoiceCursor

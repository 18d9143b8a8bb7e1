import VoiceCursor.Files
import VoiceCursor.Files.Path
import VoiceCursor.Vocabulary.Documents

namespace VoiceCursor

/-! Vocabularies kept in a directory, one file for each table. -/

inductive VocabularyError where
  | unreadable (table : TableName) (path : String) (cause : ReadError)
  | invalid (document : InvalidDocument)

namespace VocabularyError

def cause : VocabularyError → String
  | unreadable _ _ cause => cause.message
  | invalid document => document.error.message

def message : VocabularyError → String
  | error@(unreadable table path _) =>
      "Failed to read dictionary '" ++ table.text ++ "' from '" ++ path ++ "': " ++
        error.cause
  | error@(invalid document) =>
      "Invalid dictionary '" ++ document.table.text ++ "': " ++ error.cause

end VocabularyError

inductive LoadEvent where
  | usedBuiltin (path : String)
  | loaded (directory : String) (vocabulary : Vocabulary)

namespace Vocabulary

def tablePath (directory : String) (table : TableName) : String :=
  Path.join directory (table.text ++ ".json")

def paths (directory : String) : List String :=
  [.spellings, .bookmarks, .numbers].map (tablePath directory)

/-- The document in the file of a table, or the built-in one if there is no file. -/
def readTable (files : Files) (directory : String) (table : TableName)
    (builtin : String) : Except VocabularyError (String × List LoadEvent) :=
  let path := tablePath directory table
  match files.read path with
  | .ok document => .ok (document, [])
  | .error .missing => .ok (builtin, [.usedBuiltin path])
  | .error cause => .error (.unreadable table path cause)

/-- Reads the files one after the other until one cannot be read. Also tells which
were missing up to there. -/
def readTables (files : Files) (directory : String) :
    List LoadEvent × Except VocabularyError Documents :=
  match readTable files directory .spellings Documents.builtinSpellings with
  | .error error => ([], .error error)
  | .ok (spellings, first) =>
      match readTable files directory .bookmarks Documents.builtinBookmarks with
      | .error error => (first, .error error)
      | .ok (bookmarks, second) =>
          match readTable files directory .numbers Documents.builtinNumbers with
          | .error error => (first ++ second, .error error)
          | .ok (numbers, third) =>
              (first ++ second ++ third, .ok ⟨spellings, bookmarks, numbers⟩)

/-- Loads the tables of a directory. All files are read before any is understood. -/
def load (files : Files) (directory : String) :
    List LoadEvent × Except VocabularyError Vocabulary :=
  match readTables files directory with
  | (events, .error error) => (events, .error error)
  | (events, .ok documents) =>
      match ofDocuments documents with
      | .error document => (events, .error (.invalid document))
      | .ok vocabulary => (events ++ [.loaded directory vocabulary], .ok vocabulary)

end Vocabulary

end VoiceCursor

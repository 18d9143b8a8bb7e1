import VoiceCursor.Decimal.Layout
import VoiceCursor.Files.Path
import VoiceCursor.Grammar
import VoiceCursor.Text.Quoted
import VoiceCursor.Toml.Document
import VoiceCursor.Toml.Excerpt
import VoiceCursor.Vocabulary.Directory

namespace VoiceCursor

open Text

/-! What can be chosen about a run. The choices are kept in a TOML file, which need
not be there. -/

structure Settings where
  /-- The directory of the vocabulary, if it is not the built-in one. -/
  dictionaries : Option String
  /-- The word that stands for "to line". -/
  token : String
  allowsZero : Bool
  logFilter : String
  deriving DecidableEq

namespace Settings

def default : Settings where
  dictionaries := none
  token := Grammar.defaultToken
  allowsZero := false
  logFilter := "warn"

def defaultPath : String := "silly-nav.toml"

end Settings

inductive SettingsError where
  | unreadable (path : String) (cause : ReadError)
  | invalid (path : String) (document : String) (failure : Toml.Failure)

namespace SettingsError

variable [Toml.Wording]

def cause : SettingsError → String
  | unreadable _ cause => cause.message
  | invalid _ document failure => failure.report document

def summary : SettingsError → String
  | unreadable path _ => "Failed to read config '" ++ path ++ "'"
  | invalid path _ _ => "Invalid config '" ++ path ++ "'"

def message (error : SettingsError) : String :=
  error.summary ++ ": " ++ error.cause

end SettingsError

namespace Settings

def describe : Toml.Item → String
  | .string value => "string " ++ quoted value
  | .integer value => "integer `" ++ toString value ++ "`"
  | .float value => "floating point `" ++ Decimal.Layout.plain.write value ++ "`"
  | .boolean value => "boolean `" ++ toString value ++ "`"
  | .array _ | .tables _ => "sequence"
  | .table _ _ | .datetime => "map"

def mismatch (item : Toml.Item) (span : Toml.Span) (expected : String) :
    Except Toml.Failure α :=
  .error ⟨.mismatch (describe item) expected, span⟩

def readText (item : Toml.Item) (span : Toml.Span) (expected : String) :
    Except Toml.Failure String :=
  match item with
  | .string value => .ok value
  | _ => mismatch item span expected

def readFlag (item : Toml.Item) (span : Toml.Span) : Except Toml.Failure Bool :=
  match item with
  | .boolean value => .ok value
  | _ => mismatch item span "a boolean"

/-- Takes over an entry of the document. Entries of other names do not matter. -/
def addEntry (settings : Settings) (entry : String × Toml.Span × Toml.Item) :
    Except Toml.Failure Settings := do
  let (name, span, item) := entry
  match name with
  | "dictionaries" =>
      return { settings with dictionaries := some (← readText item span "path string") }
  | "to_line_token" =>
      return { settings with token := ← readText item span "a string" }
  | "accept_spoken_zero" =>
      return { settings with allowsZero := ← readFlag item span }
  | "log_filter" =>
      return { settings with logFilter := ← readText item span "a string" }
  | _ => return settings

def ofDocument (document : String) : Except Toml.Failure Settings := do
  (← Toml.readDocument document).foldlM addEntry default

/-- A directory that a file names is looked for next to the file. -/
def besides (settings : Settings) (path : String) : Settings :=
  match Path.parent? path with
  | none => settings
  | some base =>
      { settings with
        dictionaries := settings.dictionaries.map fun directory =>
          Path.join base directory }

/-- The settings in a file. Where no file is found, these are the default ones. -/
def load (files : Files) (path : String) : Except SettingsError Settings :=
  match files.read path with
  | .ok document =>
      match ofDocument document with
      | .ok settings => .ok (settings.besides path)
      | .error failure => .error (.invalid path document failure)
  | .error cause =>
      if cause.isFound then .error (.unreadable path cause) else .ok default

def vocabularyPaths (settings : Settings) : List String :=
  match settings.dictionaries with
  | none => []
  | some directory => Vocabulary.paths directory

def loadVocabulary (settings : Settings) (files : Files) :
    List LoadEvent × Except VocabularyError Vocabulary :=
  match settings.dictionaries with
  | none => ([], .ok .builtin)
  | some directory => Vocabulary.load files directory

def grammar (settings : Settings) (vocabulary : Vocabulary) : Grammar :=
  ((Grammar.ofVocabulary vocabulary).withToken settings.token).allowingZero
    settings.allowsZero

end Settings

end VoiceCursor

import VoiceCursor.Session
import VoiceCursor.Text.Quoted
import VoiceCursor.Vocabulary.Directory

namespace VoiceCursor

open Text

/-! The log: what is worth telling about a run, how urgent it is, and how it is
written. The time of writing, which stands at the start of each line, is left out. -/

namespace Log

/-- Levels from the most urgent to the least. -/
inductive Level where
  | error
  | warn
  | info
  | debug
  | trace
  deriving DecidableEq, Repr

def Level.verbosity : Level → Nat
  | .error => 1
  | .warn => 2
  | .info => 3
  | .debug => 4
  | .trace => 5

/-- The name of a level, five columns wide. -/
def Level.label : Level → String
  | .error => "ERROR"
  | .warn => " WARN"
  | .info => " INFO"
  | .debug => "DEBUG"
  | .trace => "TRACE"

/-- What a log line tells. The target names the part of the program that tells it. -/
structure Entry where
  level : Level
  target : String
  message : String
  fields : List (String × String)
  deriving DecidableEq

def Entry.text (entry : Entry) : String :=
  entry.level.label ++ " " ++ entry.target ++ ": " ++ entry.message ++
    String.join (entry.fields.map fun field => " " ++ field.1 ++ "=" ++ field.2)

end Log

def Event.entry? : Event → Option Log.Entry
  | .heard word state =>
      some ⟨.debug, "silly_nav::interpreter", "Token",
        [("word", word), ("state", state.name)]⟩
  | .moved action requested line =>
      some ⟨.info, "silly_nav::interpreter", "Moved cursor",
        [("action", action.name), ("requested", toString requested),
          ("line", toString line)]⟩
  | .changed before after =>
      some ⟨.debug, "silly_nav::interpreter", "Transition",
        [("from", before.name), ("to", after.name)]⟩
  | .cancelled | .shown _ | .cleared => none

def Notice.entry? : Notice → Option Log.Entry
  | .event told => told.entry?
  | .dictating text =>
      some ⟨.debug, "silly_nav::repl", "Dictating", [("text", quoted text)]⟩
  | .message _ => none

def LoadEvent.entry : LoadEvent → Log.Entry
  | .usedBuiltin path =>
      ⟨.warn, "silly_nav::dictionary", "Dictionary not found, using built-in",
        [("path", path)]⟩
  | .loaded directory vocabulary =>
      ⟨.info, "silly_nav::dictionary", "Loaded dictionaries",
        [("dir", directory), ("like_words", toString vocabulary.spellings.size),
          ("bookmarks", toString vocabulary.bookmarks.size),
          ("numbers", toString vocabulary.numbers.size)]⟩

namespace Log

def listening (file : Option String) : Entry :=
  let opened :=
    match file with
    | none => "None"
    | some path => "Some(" ++ quoted path ++ ")"
  ⟨.info, "silly_nav", "Listening for utterances on stdin", [("file", opened)]⟩

end Log

end VoiceCursor

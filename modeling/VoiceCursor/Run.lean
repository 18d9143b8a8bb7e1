import VoiceCursor.CommandLine
import VoiceCursor.Log.Filter
import VoiceCursor.Session
import VoiceCursor.Text.Lines

namespace VoiceCursor

open Text

/-! A run of the program, from its arguments to what it leaves behind. What it tells
on the way goes with each step as a text.

The clock and the environment are left out: lines of the log are without the time of
writing, and no log filter comes from the environment, where one would count for more than
the one that the arguments and the settings give. -/

inductive RunError where
  | settings (error : SettingsError)
  | vocabulary (error : VocabularyError)
  | document (path : String) (cause : ReadError)
  /-- A line of input is not UTF-8. -/
  | input

namespace RunError

variable [Toml.Wording]

def message : RunError → String
  | settings error => error.message
  | vocabulary error => error.message
  | document path _ => "Failed to open " ++ path
  | input => "Failed to read stdin"

def cause : RunError → String
  | settings error => error.cause
  | vocabulary error => error.cause
  | document _ cause => cause.message
  | input => ReadError.notUtf8.message

def setIn (text : String) : String :=
  let lines := splitWhere (· = '\n') text.toList
  .ofList (joinWith ['\n'] (lines.map fun line => [' ', ' ', ' ', ' '] ++ line))

def report (error : RunError) : String :=
  "Error: " ++ error.message ++ "\n\nCaused by:\n" ++ setIn error.cause ++ "\n"

end RunError

structure Outcome where
  code : Nat
  stdout : String
  stderr : String
  deriving DecidableEq

structure Run where
  filter : Log.Filter
  session : Session

/-- Settings given as arguments count for more than those in a file. -/
def Settings.override (settings : Settings) (arguments : Arguments) : Settings where
  dictionaries := arguments.dictionaries <|> settings.dictionaries
  token := settings.token
  allowsZero := settings.allowsZero
  logFilter := if arguments.verbose then "debug" else settings.logFilter

namespace Run

def openDocument (files : Files) : Option String → Except RunError Buffer
  | none => .ok .empty
  | some path =>
      match files.read path with
      | .ok text => .ok (.ofText text)
      | .error cause => .error (.document path cause)

def startWith (settings : Settings) (file : Option String) (files : Files) :
    String × Except RunError Run :=
  let (filter, complaints) := Log.Filter.ofText settings.logFilter
  let (events, vocabulary) := settings.loadVocabulary files
  let told :=
    String.join (complaints.map fun complaint => complaint ++ "\n") ++
      filter.record (events.map LoadEvent.entry)
  match vocabulary with
  | .error error => (told, .error (.vocabulary error))
  | .ok vocabulary =>
      match openDocument files file with
      | .error error => (told, .error error)
      | .ok buffer =>
          (told ++ filter.record [Log.listening file],
            .ok ⟨filter, Session.start (settings.grammar vocabulary) buffer⟩)

/-- Loads the settings, then the vocabulary, then the document. -/
def start (arguments : Arguments) (files : Files) : String × Except RunError Run :=
  match Settings.load files arguments.config with
  | .error error => ("", .error (.settings error))
  | .ok settings => startWith (settings.override arguments) arguments.file files

/-- The files that a run may read, besides its settings. -/
def paths (arguments : Arguments) (files : Files) : List String :=
  match Settings.load files arguments.config with
  | .error _ => []
  | .ok settings =>
      (settings.override arguments).vocabularyPaths ++ arguments.file.toList

def tell (run : Run) : Notice → String
  | .message text => text ++ "\n"
  | notice => run.filter.record notice.entry?.toList

/-- Handles a line. Also tells whether it ends the run. -/
def takeLine (run : Run) (line : String) : Run × String × Bool :=
  let reply := Session.takeLine run.session line
  ({ run with session := reply.session }, String.join (reply.notices.map run.tell),
    reply.quits)

/-- Handles lines until one ends the run or cannot be read. -/
def takeAll (run : Run) : List (Option String) → String × Except RunError Run
  | [] => ("", .ok run)
  | none :: _ => ("", .error .input)
  | some line :: lines =>
      let (next, told, quits) := run.takeLine line
      if quits then (told, .ok next)
      else
        let (more, last) := next.takeAll lines
        (told ++ more, last)

def document (run : Run) : String := run.session.editor.text ++ "\n"

section Outcome

variable [Toml.Wording]

def finish (told : String) : Except RunError Run → Outcome
  | .ok run => ⟨0, run.document, told⟩
  | .error error => ⟨1, "", told ++ error.report⟩

def execute (arguments : Arguments) (files : Files) (input : List UInt8) : Outcome :=
  match start arguments files with
  | (told, .error error) => finish told (.error error)
  | (told, .ok run) =>
      let (more, last) := run.takeAll ((cutLines input).map decodeLine?)
      finish (told ++ more) last

end Outcome

end Run

def Refusal.outcome : Refusal → Outcome
  | .help detailed => ⟨0, CommandLine.help detailed, ""⟩
  | .invalid error => ⟨2, "", error.message⟩

def outcome [Toml.Wording] (arguments : List String) (files : Files) (input : List UInt8) :
    Outcome :=
  match CommandLine.read arguments with
  | .error refusal => refusal.outcome
  | .ok arguments => Run.execute arguments files input

end VoiceCursor

import VoiceCursor.Buffer
import VoiceCursor.Listener
import VoiceCursor.Tray

namespace VoiceCursor

open Text

/-! A conversation over a document. Each line of input is an utterance or, after
a slash, a command to the program itself; an utterance that no command claims is
dictated, that is, typed at the cursor. -/

abbrev Session := Listener Buffer Tray

inductive Notice where
  | event (event : Event)
  | dictating (text : String)
  | message (text : String)
  deriving DecidableEq

structure Reply where
  session : Session
  notices : List Notice
  quits : Bool

inductive Command where
  | quit
  | reset
  | print
  | help
  | unknown (name : String)
  deriving DecidableEq

def Command.ofName (name : String) : Command :=
  match lowercase name with
  | "quit" | "exit" => .quit
  | "reset" => .reset
  | "print" => .print
  | "help" | "commands" => .help
  | other => .unknown other

namespace Session

def start (grammar : Grammar) (buffer : Buffer) : Session :=
  Listener.start grammar buffer .empty

/-- Hears an utterance, and dictates it unless a word of it was a command. Also
tells whether it was. -/
def takeUtterance (session : Session) (text : String) :
    Session × List Notice × Bool :=
  let (heard, events) := session.listen text
  if events.contains .cancelled then (heard, events.map .event, true)
  else
    ({ heard with editor := heard.editor.insert (text.toList ++ [' ']) },
      events.map .event ++ [.dictating text], false)

def status (session : Session) (cancelled : Bool) : String :=
  let cursor := session.editor.cursor
  let taken := if cancelled then "command" else "dictated"
  let pending :=
    if session.feedback.isEmpty then ""
    else " | " ++ session.feedback.text ++ " (" ++ session.state.display ++ ")"
  "[" ++ toString (cursor.row + 1) ++ ":" ++ toString (cursor.column + 1) ++ "] " ++
    taken ++ pending

/-- A number right-aligned in four columns, wider if need be. -/
def lineLabel (line : Nat) : String :=
  let digits := toString line
  String.ofList (List.replicate (4 - digits.length) ' ') ++ digits

def listing (session : Session) : List String :=
  session.editor.rows.mapIdx fun index row =>
    let mark := if index = session.editor.cursor.row then ">" else " "
    mark ++ lineLabel (index + 1) ++ " " ++ String.ofList row

def help (session : Session) : String :=
  let vocabulary := session.grammar.vocabulary
  let heardAs (word : String) : String :=
    match vocabulary.spellingsOf word with
    | [] => ""
    | spellings => "  (also: " ++ ", ".intercalate spellings ++ ")"
  let bookmarks :=
    match vocabulary.sortedBookmarks with
    | [] => ""
    | names => "Bookmarks: " ++ ", ".intercalate names ++ "\n"
  "Voice commands:\n" ++
  "  go to line <number>   Jump to a line" ++ heardAs "go" ++ "\n" ++
  "  line <number>         Jump to a line" ++ heardAs "line" ++ "\n" ++
  "  go to <bookmark>      Jump to a bookmark" ++ heardAs "to" ++ "\n" ++
  "  down                  Next line" ++ heardAs "down" ++ "\n" ++
  "  up                    Previous line" ++ heardAs "up" ++ "\n" ++
  "  go " ++ session.grammar.token ++ "        Same as 'go to line'\n" ++
  bookmarks ++
  "Anything else is typed at the cursor.\n" ++
  "\n" ++
  "Commands:\n" ++
  "  /print - Show the document\n" ++
  "  /reset - Abandon a half-spoken command\n" ++
  "  /help  - Show this help\n" ++
  "  /quit  - Exit and write the document to stdout"

def obey (session : Session) : Command → Reply
  | .quit => ⟨session, [], true⟩
  | .reset => ⟨session.abandon, [.message "[reset]"], false⟩
  | .print => ⟨session, session.listing.map .message, false⟩
  | .help => ⟨session, [.message session.help], false⟩
  | .unknown name =>
      ⟨session, [.message ("Unknown command: /" ++ name ++ " (try /help)")], false⟩

def takeLine (session : Session) (line : String) : Reply :=
  match trim isBlank line.toList with
  | [] => ⟨session, [], false⟩
  | '/' :: name => session.obey (.ofName (.ofList name))
  | text =>
      let (next, notices, cancelled) := session.takeUtterance (.ofList text)
      ⟨next, notices ++ [.message (next.status cancelled)], false⟩

end Session

end VoiceCursor

import VoiceCursor.Settings
import VoiceCursor.Text.ControlSequence
import VoiceCursor.Text.Similarity

namespace VoiceCursor

open Text

/-! What the program is asked for by its arguments. -/

inductive Parameter where
  | file
  | config
  | dictionaries
  | verbose
  | help
  deriving DecidableEq, Repr

namespace Parameter

def options : List Parameter := [config, dictionaries, verbose, help]

def name : Parameter → String
  | file => "file"
  | config => "config"
  | dictionaries => "dictionaries"
  | verbose => "verbose"
  | help => "help"

def ofName? (name : String) : Option Parameter :=
  options.find? fun option => option.name = name

def ofLetter? : Char → Option Parameter
  | 'v' => some verbose
  | 'h' => some help
  | _ => none

def hasValue : Parameter → Bool
  | config | dictionaries => true
  | file | verbose | help => false

def text : Parameter → String
  | file => "[FILE]"
  | config => "--config <CONFIG>"
  | dictionaries => "--dictionaries <DICTIONARIES>"
  | verbose => "--verbose"
  | help => "--help"

/-- How it is written where it is given. -/
def givenText : Parameter → String
  | file => "<FILE>"
  | option => option.text

def choices : List Parameter := [file, config, dictionaries, verbose]

/-- How it is written where any of several may be given. -/
def choiceText : Parameter → String
  | file => "FILE"
  | option => option.text

end Parameter

structure Arguments where
  file : Option String
  config : String
  dictionaries : Option String
  verbose : Bool
  deriving DecidableEq

inductive Hint where
  | similar (parameter : Parameter)
  /-- After two dashes the argument would be taken as it is. -/
  | separator
  deriving DecidableEq

inductive ArgumentError where
  /-- The error names the parameters that were given before. -/
  | unexpected (argument : String) (hint : Option Hint) (given : List Parameter)
  /-- The error tells whether the parameter is the first one. -/
  | unexpectedValue (parameter : Parameter) (value : String) (isFirst : Bool)
  | missingValue (parameter : Parameter)
  | repeated (parameter : Parameter)
  deriving DecidableEq

inductive Refusal where
  | help (detailed : Bool)
  | invalid (error : ArgumentError)
  deriving DecidableEq

namespace CommandLine

inductive Word where
  | separator
  | long (name : String) (value : Option String)
  | short (letters : List Char)
  | plain (text : String)
  deriving DecidableEq

def Word.ofText (text : String) : Word :=
  match text.toList with
  | ['-', '-'] => .separator
  | '-' :: '-' :: body =>
      let name := String.ofList (body.takeWhile (· ≠ '='))
      match body.dropWhile (· ≠ '=') with
      | [] => .long name none
      | _ :: value => .long name (some (.ofList value))
  | '-' :: first :: letters => .short (first :: letters)
  | _ => .plain text

/-- The parameters read so far, in order. The last of them may still wait for its
value, or for its value to be looked at. -/
structure Reading where
  given : List (Parameter × String)
  pending : Option (Parameter × Option String)
  separated : Bool

namespace Reading

def start : Reading := ⟨[], none, false⟩

def has (reading : Reading) (parameter : Parameter) : Bool :=
  (reading.given.map Prod.fst).contains parameter

/-- Adds a parameter, which may be given once only. -/
def add (reading : Reading) (parameter : Parameter) (value : String) :
    Except Refusal Reading :=
  if reading.has parameter then .error (.invalid (.repeated parameter))
  else .ok { reading with given := reading.given ++ [(parameter, value)] }

def settle (reading : Reading) : Except Refusal Reading :=
  match reading.pending with
  | none => .ok reading
  | some (parameter, none) => .error (.invalid (.missingValue parameter))
  | some (parameter, some value) => do
      let added ← { reading with pending := none }.add parameter value
      if value.isEmpty then .error (.invalid (.missingValue parameter)) else return added

/-- The parameters that an error names. One that is given again is not among them. -/
def mentioned (reading : Reading) : List Parameter :=
  let given := reading.given.map Prod.fst
  match reading.pending with
  | some (parameter, some _) =>
      if given.contains parameter then given.erase parameter else given ++ [parameter]
  | _ => given

def takeFlag (reading : Reading) (parameter : Parameter) (detailed : Bool) :
    Except Refusal Reading := do
  let settled ← reading.settle
  if parameter = .help then .error (.help detailed) else settled.add parameter ""

def unknown (reading : Reading) (name : String) : ArgumentError :=
  match mostSimilar? 0.7 name (Parameter.options.map Parameter.name) >>=
      Parameter.ofName? with
  | none => .unexpected ("--" ++ name) (some .separator) reading.mentioned
  | some parameter =>
      let given := reading.mentioned
      .unexpected ("--" ++ name) (some (.similar parameter))
        (if given.contains parameter then given else given ++ [parameter])

def takeLong (reading : Reading) (name : String) (value : Option String) :
    Except Refusal Reading :=
  match Parameter.ofName? name with
  | none => .error (.invalid (reading.unknown name))
  | some parameter =>
      match value with
      | none =>
          if parameter.hasValue then do
            let settled ← reading.settle
            return { settled with pending := some (parameter, none) }
          else reading.takeFlag parameter true
      | some value =>
          if parameter.hasValue then do
            let settled ← reading.settle
            { settled with pending := some (parameter, some value) }.settle
          else
            .error (.invalid (.unexpectedValue parameter value reading.given.isEmpty))

def takeLetters (reading : Reading) : List Char → Except Refusal Reading
  | [] => .ok reading
  | letter :: letters =>
      match Parameter.ofLetter? letter with
      | some parameter => do (← reading.takeFlag parameter false).takeLetters letters
      | none =>
          .error (.invalid
            (.unexpected (.ofList ['-', letter]) (some .separator) []))

/-- A plain argument is the value of the option before it, or the one file. -/
def takePlain (reading : Reading) (text : String) : Except Refusal Reading :=
  match reading.separated, reading.pending with
  | false, some (parameter, none) =>
      .ok { reading with pending := some (parameter, some text) }
  | _, pending =>
      if reading.has .file || pending.any fun awaited => awaited.1 = .file then
        .error (.invalid (.unexpected text none []))
      else do
        let settled ← reading.settle
        return { settled with pending := some (.file, some text) }

def take (reading : Reading) (argument : String) : Except Refusal Reading :=
  if reading.separated then reading.takePlain argument
  else
    match Word.ofText argument with
    | .separator => .ok { reading with separated := true }
    | .long name value => reading.takeLong name value
    | .short letters => reading.takeLetters letters
    | .plain text => reading.takePlain text

def arguments (reading : Reading) : Arguments where
  file := reading.given.lookup .file
  config := (reading.given.lookup .config).getD Settings.defaultPath
  dictionaries := reading.given.lookup .dictionaries
  verbose := reading.has .verbose

end Reading

def read (arguments : List String) : Except Refusal Arguments := do
  let reading ← (← arguments.foldlM Reading.take .start).settle
  return reading.arguments

/-- How the program is called. With parameters that were given, only they are named. -/
def usage (given : List Parameter) : String :=
  if given.isEmpty then "Usage: silly-nav [OPTIONS] [FILE]"
  else
    let options := given.filter (· ≠ .file)
    let file := if given.contains .file then Parameter.file.givenText else Parameter.file.text
    " ".intercalate ("Usage: silly-nav" :: options.map Parameter.givenText ++ [file])

def anyUsage (parameter : Parameter) : String :=
  let option := if Parameter.choices.contains parameter then "" else " " ++ parameter.text
  "Usage: silly-nav" ++ option ++
    " <" ++ "|".intercalate (Parameter.choices.map Parameter.choiceText) ++ ">"

def closing : String := "For more information, try '--help'.\n"

end CommandLine

def Hint.line (argument : String) : Hint → String
  | .similar parameter =>
      "  tip: a similar argument exists: '--" ++ parameter.name ++ "'\n\n"
  | .separator =>
      "  tip: to pass '" ++ argument ++ "' as a value, use '-- " ++ argument ++ "'\n\n"

open CommandLine in
/-- What was given is shown without control sequences. -/
def ArgumentError.message : ArgumentError → String
  | .unexpected argument hint given =>
      let shown := withoutControls argument
      "error: unexpected argument '" ++ shown ++ "' found\n\n" ++
        ((hint.map (Hint.line shown)).getD "") ++ usage given ++ "\n\n" ++ closing
  | .unexpectedValue parameter value isFirst =>
      "error: unexpected value '" ++ withoutControls value ++ "' for '" ++ parameter.text ++
        "' found; no more were expected\n\n" ++
        (if isFirst then usage [parameter] else anyUsage parameter) ++ "\n\n" ++ closing
  | .missingValue parameter =>
      "error: a value is required for '" ++ parameter.text ++
        "' but none was supplied\n\n" ++ closing
  | .repeated parameter =>
      "error: the argument '" ++ parameter.text ++ "' cannot be used multiple times\n\n" ++
        usage [] ++ "\n\n" ++ closing

namespace CommandLine

/-- The help on all parameters, in full or a line for each. -/
def help (detailed : Bool) : String :=
  if detailed then
    "Drive a text buffer with spoken navigation commands.\n" ++
    "\n" ++
    "Each line on stdin is one recognized utterance. Lines that are not commands are " ++
    "typed at the cursor. The final document goes to stdout.\n" ++
    "\n" ++ usage [] ++ "\n" ++
    "\n" ++
    "Arguments:\n" ++
    "  [FILE]\n" ++
    "          Document to open (starts empty when omitted)\n" ++
    "\n" ++
    "Options:\n" ++
    "      --config <CONFIG>\n" ++
    "          Config file\n" ++
    "          \n" ++
    "          [default: silly-nav.toml]\n" ++
    "\n" ++
    "      --dictionaries <DICTIONARIES>\n" ++
    "          Directory of dictionary JSON files, overrides the config\n" ++
    "\n" ++
    "  -v, --verbose\n" ++
    "          Log every token and transition\n" ++
    "\n" ++
    "  -h, --help\n" ++
    "          Print help (see a summary with '-h')\n"
  else
    "Drive a text buffer with spoken navigation commands\n" ++
    "\n" ++ usage [] ++ "\n" ++
    "\n" ++
    "Arguments:\n" ++
    "  [FILE]  Document to open (starts empty when omitted)\n" ++
    "\n" ++
    "Options:\n" ++
    "      --config <CONFIG>              Config file [default: silly-nav.toml]\n" ++
    "      --dictionaries <DICTIONARIES>  Directory of dictionary JSON files, " ++
    "overrides the config\n" ++
    "  -v, --verbose                      Log every token and transition\n" ++
    "  -h, --help                         Print help (see more with '--help')\n"

end CommandLine

end VoiceCursor

import VoiceCursor.Run

namespace VoiceCursor.Program

open Text

/-! The program at a terminal. It reads the files that a run asks for, and takes the
run through its input line by line. -/

/-- The number of an error, which may come with its sign changed. -/
def errorNumber (code : UInt32) : UInt32 := min code (-code)

/-- What an error means, by whether the path leads to something. -/
def readError (isFound : Bool) (error : IO.Error) : ReadError :=
  let failed (message : String) : ReadError :=
    if isFound then .other message else .unreachable message
  match error with
  | .noFileOrDirectory _ _ _ => .missing
  | .inappropriateType _ code _ =>
      if errorNumber code = 21 then .isDirectory else .throughFile
  | .invalidArgument _ code _ =>
      if errorNumber code = 36 then .nameTooLong
      else if errorNumber code = 40 then
        failed "Too many levels of symbolic links (os error 40)"
      else failed (toString error)
  | .permissionDenied _ _ _ => failed "Permission denied (os error 13)"
  | _ => failed (toString error)

def readText (path : String) : IO (Except ReadError String) := do
  if let some fault := Path.fault? path then return .error fault
  match ← (IO.FS.readBinFile path).toBaseIO with
  | .error error =>
      let place ← (IO.FS.realPath path).toBaseIO
      return .error (readError place.isOk error)
  | .ok bytes =>
      match String.fromUTF8? bytes with
      | none => return .error .notUtf8
      | some text => return .ok text

def readFiles (paths : List String) : IO Files := do
  let texts ← paths.mapM fun path => return (path, ← readText path)
  return ⟨fun path => (texts.lookup path).getD (.error .missing)⟩

/-- Reads up to the next newline. The bytes before it are read already, the last of
them first. -/
partial def readLine (input : IO.FS.Stream) (read : List UInt8) :
    IO (Option (List UInt8)) := do
  match (← input.read 1).toList with
  | byte :: _ =>
      if byte = 10 then return some (dropCarriageReturn read.reverse)
      else readLine input (byte :: read)
  | [] => return if read.isEmpty then none else some read.reverse

partial def converse (input : IO.FS.Stream) (run : Run) : IO (Except RunError Run) := do
  match ← readLine input [] with
  | none => return .ok run
  | some bytes =>
      match decodeLine? bytes with
      | none => return .error .input
      | some line =>
          let (next, told, quits) := run.takeLine line
          IO.eprint told
          if quits then return .ok next else converse input next

def leave (outcome : Outcome) : IO UInt32 := do
  IO.eprint outcome.stderr
  IO.print outcome.stdout
  return outcome.code.toUInt32

def run (arguments : Arguments) : IO UInt32 := do
  let settings ← readFiles [arguments.config]
  let files ← readFiles (arguments.config :: Run.paths arguments settings)
  let (told, started) := Run.start arguments files
  IO.eprint told
  match started with
  | .error error => leave (Run.finish "" (.error error))
  | .ok run => leave (Run.finish "" (← converse (← IO.getStdin) run))

end VoiceCursor.Program

open VoiceCursor in
def main (arguments : List String) : IO UInt32 := do
  match CommandLine.read arguments with
  | .error refusal => Program.leave refusal.outcome
  | .ok arguments => Program.run arguments

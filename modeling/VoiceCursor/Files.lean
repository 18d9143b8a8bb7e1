namespace VoiceCursor

/-! Files as a program sees them: what reading a path gives. -/

inductive ReadError where
  | missing
  /-- A regular file stands where a directory must be. -/
  | throughFile
  | nameTooLong
  | nulByte
  /-- The path cannot be followed: a directory on it may not be searched, or links lead in
  a circle. -/
  | unreachable (message : String)
  | isDirectory
  | notUtf8
  /-- The path leads to something, and that cannot be read. -/
  | other (message : String)
  deriving DecidableEq

namespace ReadError

def message : ReadError → String
  | missing => "No such file or directory (os error 2)"
  | throughFile => "Not a directory (os error 20)"
  | nameTooLong => "File name too long (os error 36)"
  | nulByte => "file name contained an unexpected NUL byte"
  | isDirectory => "Is a directory (os error 21)"
  | notUtf8 => "stream did not contain valid UTF-8"
  | unreachable message | other message => message

/-- Whether the path leads to something, which then could not be read. -/
def isFound : ReadError → Bool
  | missing | throughFile | nameTooLong | nulByte | unreachable _ => false
  | isDirectory | notUtf8 | other _ => true

end ReadError

structure Files where
  read : String → Except ReadError String

end VoiceCursor

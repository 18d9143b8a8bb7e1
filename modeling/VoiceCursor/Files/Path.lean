import VoiceCursor.Files
import VoiceCursor.Text.Pieces

namespace VoiceCursor.Path

open Text

/-! Paths as texts. Names are separated by slashes; an empty name counts for
nothing, nor does a dot, except at the front of a relative path. -/

def isSlash (c : Char) : Bool := c = '/'

def isAbsolute (path : String) : Bool :=
  match path.toList with
  | '/' :: _ => true
  | _ => false

/-- How many bytes a path may have. -/
def maxLength : Nat := 4095

def maxNameLength : Nat := 255

/-- The path of `relative` seen from `base`. An absolute path stays as it is. -/
def join (base relative : String) : String :=
  if isAbsolute relative then relative
  else if base.toList.isEmpty ∨ base.toList.getLast? = some '/' then base ++ relative
  else base ++ "/" ++ relative

def parts (path : String) : List (List Char) := splitWhere isSlash path.toList

def isIdle (part : List Char) : Bool := part.isEmpty || part = ['.']

def isBack (part : List Char) : Bool := part = ['.', '.']

def fault? (path : String) : Option ReadError :=
  if path.toList.contains '\x00' then some .nulByte
  else if path.isEmpty then some .missing
  else if path.utf8ByteSize > maxLength then some .nameTooLong
  else none

/-- Drops the parts at the end that count for nothing. -/
def trimIdle (parts : List (List Char)) : List (List Char) :=
  (parts.reverse.dropWhile isIdle).reverse

def parent? (path : String) : Option String :=
  let write (front : List Char) (names : List (List Char)) : Option String :=
    some (.ofList (front ++ joinWith ['/'] names))
  match parts path with
  | [] => none
  | first :: rest =>
      if first.isEmpty && !rest.isEmpty then
        match trimIdle rest with
        | [] => none
        | names => write ['/'] (trimIdle names.dropLast)
      else if first = ['.'] then
        match trimIdle rest with
        | [] => some ""
        | names => write [] (first :: trimIdle names.dropLast)
      else
        match trimIdle (first :: rest) with
        | [] => none
        | names => write [] (trimIdle names.dropLast)

end VoiceCursor.Path

import VoiceCursor.Files
import VoiceCursor.Files.Path

namespace VoiceCursor

/-! A directory held in memory, as the working directory of a program. There are others
around it, with nothing in them that has a known name. -/

inductive Content where
  | file (bytes : ByteArray)
  | directory

/-- What the names below the directory lead to. The directories on the way to an
entry exist without an entry of their own. -/
structure Tree where
  entries : List (List String × Content)

namespace Tree

def names (path : String) : List String :=
  ((Path.parts path).filter fun part => !Path.isIdle part).map String.ofList

def ofList (entries : List (String × Content)) : Tree :=
  ⟨entries.map fun entry => (names entry.1, entry.2)⟩

inductive Place where
  | inside (names : List String)
  /-- To one of the directories around it. -/
  | outside

def Place.next? (place : Place) (part : List Char) : Option Place :=
  if Path.isIdle part then some place
  else
    match place with
    | .inside names =>
        if !Path.isBack part then some (.inside (names ++ [String.ofList part]))
        else if names.isEmpty then some .outside
        else some (.inside names.dropLast)
    | .outside => if Path.isBack part then some .outside else none

def find? (tree : Tree) : Place → Option Content
  | .outside => some .directory
  | .inside names =>
      match tree.entries.lookup names with
      | some content => some content
      | none =>
          if names.isEmpty || tree.entries.any fun entry => names.isPrefixOf entry.1 then
            some .directory
          else none

/-- Follows the parts of a path from a place. Each part but the last has to lead to a
directory, and so has the one before an empty part or a dot. -/
def follow (tree : Tree) (place : Place) : List (List Char) → Except ReadError Content
  | [] =>
      match tree.find? place with
      | some content => .ok content
      | none => .error .missing
  | part :: rest =>
      match tree.find? place with
      | none => .error .missing
      | some (.file _) => .error .throughFile
      | some .directory =>
          if (String.ofList part).utf8ByteSize > Path.maxNameLength then .error .nameTooLong
          else
            match place.next? part with
            | none => .error .missing
            | some place => tree.follow place rest

def read (tree : Tree) (path : String) : Except ReadError String :=
  match Path.fault? path with
  | some error => .error error
  | none =>
      let place : Place := if Path.isAbsolute path then .outside else .inside []
      match tree.follow place (Path.parts path) with
      | .error error => .error error
      | .ok .directory => .error .isDirectory
      | .ok (.file bytes) =>
          match String.fromUTF8? bytes with
          | some text => .ok text
          | none => .error .notUtf8

def files (tree : Tree) : Files := ⟨tree.read⟩

end Tree

end VoiceCursor

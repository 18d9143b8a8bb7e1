import VoiceCursor.Text.Pieces
import VoiceCursor.Text.Position
import VoiceCursor.Toml.Failure

namespace VoiceCursor.Toml

open Text

/-! How a failure is shown to the writer of a document. What is said of a broken rule is up
to the reader of documents that a program is built with, and so it is left open here. -/

/-- What is said of a rule that a part of a document breaks. -/
class Wording where
  report : Rule → Span → String → String

/-- The line of a part of a document, with marks under the part. At least one mark stands
there, and none reach beyond the line. -/
def excerpt (span : Span) (document : String) (text : String) : String :=
  let lines := splitWhere (· = '\n') document.toList
  let before := splitWhere (· = '\n') (takeBytes span.start document.toList)
  let line := lines[before.length - 1]?.getD []
  let column := (before.getLast?.getD []).length
  let reach := byteLength line - column
  let marks := max 1 (min (span.stop - span.start) reach)
  let number := toString before.length
  let margin := String.ofList (List.replicate (number.length + 1) ' ') ++ "|"
  "TOML parse error at line " ++ number ++ ", column " ++ toString (column + 1) ++ "\n" ++
    margin ++ "\n" ++
    number ++ " | " ++ String.ofList line ++ "\n" ++
    margin ++ String.ofList (List.replicate (column + 1) ' ' ++ List.replicate marks '^') ++
    "\n" ++ text ++ "\n"

def Failure.report [Wording] (failure : Failure) (document : String) : String :=
  match failure.problem with
  | .broken rule => Wording.report rule failure.span document
  | .mismatch found expected =>
      excerpt failure.span document ("invalid type: " ++ found ++ ", expected " ++ expected)

/-- The least that can be said. -/
instance plainWording : Wording where
  report _ span document := excerpt span document "invalid document"

end VoiceCursor.Toml

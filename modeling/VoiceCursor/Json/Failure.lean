import VoiceCursor.Decimal.Layout
import VoiceCursor.Text.Position
import VoiceCursor.Text.Quoted

namespace VoiceCursor.Json

open Text

/-! Why a JSON document cannot be read, and where. -/

inductive Found where
  | null
  | boolean (value : Bool)
  | integer (value : Int)
  | float (value : Float)
  | string (value : String)
  | sequence
  | map

def Found.text : Found → String
  | .null => "null"
  | .boolean value => "boolean `" ++ toString value ++ "`"
  | .integer value => "integer `" ++ toString value ++ "`"
  | .float value => "floating point `" ++ Decimal.Layout.compact.write value ++ "`"
  | .string value => "string " ++ quoted value
  | .sequence => "sequence"
  | .map => "map"

inductive Expected where
  | map
  | sequence
  | string
  | natural

def Expected.text : Expected → String
  | .map => "a map"
  | .sequence => "a sequence"
  | .string => "a string"
  | .natural => "usize"

inductive Problem where
  | endInValue
  | endInObject
  | endInList
  | endInString
  | expectedValue
  | expectedLiteral
  | expectedColon
  | expectedCommaOrBrace
  | expectedCommaOrBracket
  | trailingComma
  | keyNotString
  | invalidNumber
  | numberOutOfRange
  | invalidEscape
  | loneSurrogate
  | endOfHexEscape
  | controlCharacter
  | trailingCharacters
  | invalidType (found : Found) (expected : Expected)
  | invalidValue (found : Found) (expected : Expected)

def Problem.text : Problem → String
  | .endInValue => "EOF while parsing a value"
  | .endInObject => "EOF while parsing an object"
  | .endInList => "EOF while parsing a list"
  | .endInString => "EOF while parsing a string"
  | .expectedValue => "expected value"
  | .expectedLiteral => "expected ident"
  | .expectedColon => "expected `:`"
  | .expectedCommaOrBrace => "expected `,` or `\x7D`"
  | .expectedCommaOrBracket => "expected `,` or `]`"
  | .trailingComma => "trailing comma"
  | .keyNotString => "key must be a string"
  | .invalidNumber => "invalid number"
  | .numberOutOfRange => "number out of range"
  | .invalidEscape => "invalid escape"
  | .loneSurrogate => "lone leading surrogate in hex escape"
  | .endOfHexEscape => "unexpected end of hex escape"
  | .controlCharacter =>
      "control character (\\u0000-\\u001F) found while parsing a string"
  | .trailingCharacters => "trailing characters"
  | .invalidType found expected =>
      "invalid type: " ++ found.text ++ ", expected " ++ expected.text
  | .invalidValue found expected =>
      "invalid value: " ++ found.text ++ ", expected " ++ expected.text

/-- A problem after a number of bytes of the document, or at its end. -/
structure Failure where
  problem : Problem
  offset : Option Nat

structure Error where
  problem : Problem
  position : Position

def Failure.locate (failure : Failure) (document : List Char) : Error where
  problem := failure.problem
  position := positionAfter document (failure.offset.getD (byteLength document))

def Error.message (error : Error) : String :=
  error.problem.text ++ " at line " ++ toString error.position.line ++
    " column " ++ toString error.position.column

end VoiceCursor.Json

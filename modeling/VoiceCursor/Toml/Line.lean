import VoiceCursor.Toml.Scalar

namespace VoiceCursor.Toml

open Text

/-! The lines of a document: headers, and keys with their values. A value between
brackets or braces is put together when it is closed; until then what it holds is
kept in a frame. -/

inductive Line where
  | empty
  /-- A table, or with double brackets an element of a list of tables. -/
  | header (path : List Key) (key : Key) (isElement : Bool) (span : Span)
  | pair (pair : Pair)

inductive Piece where
  | token (token : Token)
  | item (item : Item) (span : Span)

namespace Piece

def span : Piece → Span
  | .token read => read.span
  | .item _ span => span

def isBlank : Piece → Bool
  | .token ⟨.blank _, _⟩ => true
  | .token ⟨.newline, _⟩ => true
  | _ => false

def isOf (kind : Kind) : Piece → Bool
  | .token read => read.kind = kind
  | .item _ _ => false

def bare? : Piece → Option (List Char)
  | .token ⟨.word text, _⟩ => some text
  | .token ⟨.blank text, _⟩ => some text
  | .token ⟨.dot, _⟩ => some ['.']
  | .token ⟨.plus, _⟩ => some ['+']
  | .token ⟨.colon, _⟩ => some [':']
  | _ => none

end Piece

def trimPieces (pieces : List Piece) : List Piece :=
  trim Piece.isBlank pieces

def spanOf (pieces : List Piece) : Span :=
  match pieces.head?, pieces.getLast? with
  | some first, some last => ⟨first.span.start, last.span.stop⟩
  | _, _ => ⟨0, 0⟩

def readValue (pieces : List Piece) : Except Failure (Item × Span) :=
  match trimPieces pieces with
  | [] => broken .givenValue (spanOf pieces)
  | [.item item span] => .ok (item, span)
  | [.token ⟨.text text _, span⟩] => .ok (.string (.ofList text), span)
  | bare =>
      match bare.mapM Piece.bare? with
      | none => broken .value (spanOf bare)
      | some texts =>
          match scalar? texts.flatten with
          | some item => .ok (item, spanOf bare)
          | none => broken .value (spanOf bare)

def readKey (pieces : List Piece) : Except Failure Key :=
  match trimPieces pieces with
  | [.token ⟨.word name, span⟩] => .ok ⟨.ofList name, span⟩
  | [.token ⟨.text name false, span⟩] => .ok ⟨.ofList name, span⟩
  | _ => broken .key (spanOf pieces)

/-- Keys have fewer parts than this, and values are nested less deeply. -/
def depthLimit : Nat := 80

def readPath (pieces : List Piece) : Except Failure (List Key × Key) := do
  let keys ← (splitWhere (Piece.isOf .dot) pieces).mapM readKey
  if keys.length ≥ depthLimit then broken .keyLength (spanOf pieces)
  else
    match keys.getLast? with
    | some key => .ok (keys.dropLast, key)
    | none => broken .givenKey (spanOf pieces)

def readPair (pieces : List Piece) : Except Failure Pair := do
  let (path, key) ← readPath (pieces.takeWhile fun piece => !piece.isOf .equals)
  match pieces.dropWhile fun piece => !piece.isOf .equals with
  | [] => broken .equals (spanOf pieces)
  | _ :: value =>
      let (item, span) ← readValue value
      return ⟨path, key, item, span⟩

def bracketed? : List Piece → Option (List Piece)
  | first :: rest =>
      match rest.getLast? with
      | some last =>
          if first.isOf .openBracket && last.isOf .closeBracket then some rest.dropLast
          else none
      | none => none
  | [] => none

def readHeader (pieces : List Piece) : Except Failure Line := do
  match bracketed? pieces with
  | none => broken .header (spanOf pieces)
  | some inner =>
      match bracketed? inner with
      | some element =>
          let (path, key) ← readPath element
          return .header path key true (spanOf pieces)
      | none =>
          let (path, key) ← readPath inner
          return .header path key false (spanOf pieces)

def isHeader (pieces : List Piece) : Bool :=
  (trimPieces pieces).head?.any (Piece.isOf .openBracket)

def readLine (pieces : List Piece) : Except Failure Line := do
  match trimPieces pieces with
  | [] => return .empty
  | pieces =>
      if isHeader pieces then readHeader pieces
      else return .pair (← readPair pieces)

/-- A value that is not closed yet. Everything that it holds is kept last first. -/
inductive Frame where
  | array (start : Nat) (items : List Item) (pieces : List Piece)
  | table (start : Nat) (pairs : List Pair) (pieces : List Piece)

/-- The line under way: the values that are not closed yet, the innermost first, and
the pieces outside of them, last first. -/
structure LineReader where
  frames : List Frame
  pieces : List Piece

namespace LineReader

def start : LineReader := ⟨[], []⟩

def push (reader : LineReader) (piece : Piece) : LineReader :=
  match reader.frames with
  | [] => { reader with pieces := piece :: reader.pieces }
  | .array start items pieces :: outer =>
      { reader with frames := .array start items (piece :: pieces) :: outer }
  | .table start pairs pieces :: outer =>
      { reader with frames := .table start pairs (piece :: pieces) :: outer }

def enter (reader : LineReader) (frame : Frame) (token : Token) :
    Except Failure LineReader :=
  if reader.frames.length + 1 ≥ depthLimit then
    broken .depth token.span
  else .ok { reader with frames := frame :: reader.frames }

/-- An opening bracket that starts a line starts a header. What follows there is left
to the end of the line. -/
def readsHeader (reader : LineReader) : Bool :=
  reader.frames.isEmpty && isHeader reader.pieces.reverse

def separate (reader : LineReader) (token : Token) : Except Failure LineReader := do
  match reader.frames with
  | [] => return reader.push (.token token)
  | .array start items pieces :: outer =>
      let (item, _) ← readValue pieces.reverse
      return { reader with frames := .array start (item :: items) [] :: outer }
  | .table start pairs pieces :: outer =>
      let pair ← readPair pieces.reverse
      return { reader with frames := .table start (pair :: pairs) [] :: outer }

/-- Closes an array. A comma may stand before its end. -/
def closeArray (reader : LineReader) (token : Token) : Except Failure LineReader := do
  match reader.frames with
  | .array start items pieces :: outer =>
      let items ←
        if (trimPieces pieces).isEmpty then pure items
        else do
          let (item, _) ← readValue pieces.reverse
          pure (item :: items)
      let span : Span := ⟨start, token.span.stop⟩
      return { reader with frames := outer }.push (.item (.array items.reverse) span)
  | _ => broken .bracket token.span

/-- Closes a table. No comma may stand before its end. -/
def closeTable (reader : LineReader) (token : Token) : Except Failure LineReader := do
  match reader.frames with
  | .table start pairs pieces :: outer =>
      let pairs ←
        if pairs.isEmpty && (trimPieces pieces).isEmpty then pure []
        else do
          let pair ← readPair pieces.reverse
          pure (pair :: pairs)
      let entries ← Entries.ofPairs pairs.reverse
      let span : Span := ⟨start, token.span.stop⟩
      return { reader with frames := outer }.push (.item (.table .inline entries) span)
  | _ => broken .brace token.span

def take (reader : LineReader) (token : Token) : Except Failure LineReader :=
  if reader.readsHeader then .ok (reader.push (.token token))
  else
    match token.kind with
    | .openBracket =>
        if reader.frames.isEmpty && (trimPieces reader.pieces).isEmpty then
          .ok (reader.push (.token token))
        else reader.enter (.array token.span.start [] []) token
    | .openBrace => reader.enter (.table token.span.start [] []) token
    | .comma => reader.separate token
    | .closeBracket => reader.closeArray token
    | .closeBrace => reader.closeTable token
    | _ => .ok (reader.push (.token token))

/-- The line that ends with a token or the document. Lines may end within arrays
only. -/
def finish (reader : LineReader) : Except Failure Line :=
  match reader.frames with
  | [] => readLine reader.pieces.reverse
  | .array start _ _ :: _ => broken .closedArray ⟨start, start + 1⟩
  | .table start _ _ :: _ => broken .closedTable ⟨start, start + 1⟩

def isInArray (reader : LineReader) : Bool :=
  match reader.frames with
  | .array _ _ _ :: _ => true
  | _ => false

end LineReader

def readLinesFrom (reader : LineReader) : List Token → Except Failure (List Line)
  | [] => do return [← reader.finish]
  | token :: rest => do
      if token.kind = .newline && !reader.isInArray then
        let line ← reader.finish
        return line :: (← readLinesFrom .start rest)
      else readLinesFrom (← reader.take token) rest

def readLines (tokens : List Token) : Except Failure (List Line) :=
  readLinesFrom .start tokens

end VoiceCursor.Toml

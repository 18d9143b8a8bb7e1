import VoiceCursor.Text.Position
import VoiceCursor.Toml.Failure

namespace VoiceCursor.Toml

/-! The tokens of a TOML document. Like names and numbers, dates and floats come in
pieces here: a bare word has only letters, digits, underscores and dashes. Comments
leave no token. -/

inductive Kind where
  | word (text : List Char)
  | text (value : List Char) (multiline : Bool)
  | blank (text : List Char)
  | newline
  | dot
  | plus
  | colon
  | equals
  | comma
  | openBracket
  | closeBracket
  | openBrace
  | closeBrace
  deriving DecidableEq

structure Token where
  kind : Kind
  span : Span

/-- How a text is quoted. Escapes are read between double quotes only. -/
structure Quoting where
  mark : Char
  multiline : Bool

/-- The token under way. The characters of texts are kept last first. -/
inductive Mode where
  | between
  | word (start : Nat) (read : List Char)
  | blank (start : Nat) (read : List Char)
  | comment
  | opening (start : Nat) (mark : Char) (second : Bool)
  /-- After three quotation marks: a newline here does not count. -/
  | opened (start : Nat) (mark : Char)
  | text (start : Nat) (quoting : Quoting) (read : List Char) (marks : Nat)
  | escape (start : Nat) (quoting : Quoting) (read : List Char)
  | code (start : Nat) (quoting : Quoting) (read : List Char) (value left : Nat)
  /-- After a backslash that ends its line, before and after the end of the line. -/
  | lineEnd (start : Nat) (read : List Char) (ended : Bool)
  /-- After a carriage return, which only a newline may follow. -/
  | carriage (before : Mode)

abbrev Advance := Except Failure (List Token × Mode)

def isWordChar (c : Char) : Bool := c.isAlphanum || c = '_' || c = '-'

def isPlain (c : Char) : Bool := c = '\t' || (c.toNat ≥ 0x20 && c.toNat ≠ 0x7F)

def isBlankChar (c : Char) : Bool := c = ' ' || c = '\t'

def hexDigit? (c : Char) : Option Nat :=
  if '0' ≤ c ∧ c ≤ '9' then some (c.toNat - '0'.toNat)
  else if 'a' ≤ c ∧ c ≤ 'f' then some (c.toNat - 'a'.toNat + 10)
  else if 'A' ≤ c ∧ c ≤ 'F' then some (c.toNat - 'A'.toNat + 10)
  else none

def escaped? : Char → Option Char
  | 'b' => some '\x08'
  | 't' => some '\t'
  | 'n' => some '\n'
  | 'f' => some '\x0C'
  | 'r' => some '\r'
  | '"' => some '"'
  | '\\' => some '\\'
  | _ => none

namespace Mode

def fail (offset : Nat) (rule : Rule) : Advance := broken rule ⟨offset, offset + 1⟩

def wordToken (start stop : Nat) (read : List Char) : Token :=
  ⟨.word read.reverse, start, stop⟩

def blankToken (start stop : Nat) (read : List Char) : Token :=
  ⟨.blank read.reverse, start, stop⟩

/-- The text before its closing marks; further marks belong to it. -/
def textToken (start stop : Nat) (quoting : Quoting) (read : List Char) (extra : Nat) :
    Token :=
  let value := read.reverse ++ List.replicate extra quoting.mark
  ⟨.text value quoting.multiline, start, stop⟩

def unclosed (start : Nat) (quoting : Quoting) (read : List Char) (marks : Nat)
    (c : Char) : Mode :=
  .text start quoting (c :: (List.replicate marks quoting.mark ++ read)) 0

def stepBetween (offset : Nat) (c : Char) : Advance :=
  let single (kind : Kind) : Advance :=
    .ok ([⟨kind, offset, offset + 1⟩], .between)
  match c with
  | '.' => single .dot
  | '+' => single .plus
  | ':' => single .colon
  | '=' => single .equals
  | ',' => single .comma
  | '[' => single .openBracket
  | ']' => single .closeBracket
  | '\x7B' => single .openBrace
  | '\x7D' => single .closeBrace
  | '\n' => single .newline
  | '#' => .ok ([], .comment)
  | '"' | '\'' => .ok ([], .opening offset c false)
  | '\r' => .ok ([], .carriage .between)
  | _ =>
      if isBlankChar c then .ok ([], .blank offset [c])
      else if isWordChar c then .ok ([], .word offset [c])
      else fail offset .character

def after (token : Token) (offset : Nat) (c : Char) : Advance := do
  let (tokens, mode) ← stepBetween offset c
  return (token :: tokens, mode)

def stepLine (offset start : Nat) (quoting : Quoting) (read : List Char) (c : Char) :
    Advance :=
  if c = quoting.mark then
    .ok ([textToken start (offset + 1) quoting read 0], .between)
  else if c = '\\' ∧ quoting.mark = '"' then .ok ([], .escape start quoting read)
  else if isPlain c then .ok ([], .text start quoting (c :: read) 0)
  else fail offset .stringCharacter

/-- A character within a text on several lines. Three marks close it, and up to two
more directly before them belong to it. -/
def stepLines (offset start : Nat) (quoting : Quoting) (read : List Char) (marks : Nat)
    (c : Char) : Advance :=
  if c = quoting.mark then
    if marks = 4 then
      .ok ([textToken start (offset + 1) quoting read 2], .between)
    else .ok ([], .text start quoting read (marks + 1))
  else if marks ≥ 3 then
    after (textToken start offset quoting read (marks - 3)) offset c
  else if c = '\\' ∧ quoting.mark = '"' then
    .ok ([], .escape start quoting (List.replicate marks quoting.mark ++ read))
  else if c = '\n' ∨ isPlain c then
    .ok ([], unclosed start quoting read marks c)
  else fail offset .stringCharacter

def stepText (offset start : Nat) (quoting : Quoting) (read : List Char) (marks : Nat)
    (c : Char) : Advance :=
  if quoting.multiline then stepLines offset start quoting read marks c
  else stepLine offset start quoting read c

def stepEscape (offset start : Nat) (quoting : Quoting) (read : List Char) (c : Char) :
    Advance :=
  match escaped? c with
  | some char => .ok ([], .text start quoting (char :: read) 0)
  | none =>
      if c = 'u' then .ok ([], .code start quoting read 0 4)
      else if c = 'U' then .ok ([], .code start quoting read 0 8)
      else if quoting.multiline ∧ (c = '\n' ∨ isBlankChar c) then
        .ok ([], .lineEnd start read (c = '\n'))
      else fail offset .escape

/-- A digit of a code point, of which `left` are still to come with it. -/
def stepCode (offset start : Nat) (quoting : Quoting) (read : List Char)
    (value left : Nat) (c : Char) : Advance :=
  match hexDigit? c with
  | none => fail offset .escape
  | some digit =>
      let value := 16 * value + digit
      if left > 1 then .ok ([], .code start quoting read value (left - 1))
      else if value.isValidChar then
        .ok ([], .text start quoting (Char.ofNat value :: read) 0)
      else fail offset .escape

def stepPlain (mode : Mode) (offset : Nat) (c : Char) : Advance :=
  match mode with
  | .between => stepBetween offset c
  | .word start read =>
      if isWordChar c then .ok ([], .word start (c :: read))
      else after (wordToken start offset read) offset c
  | .blank start read =>
      if isBlankChar c then .ok ([], .blank start (c :: read))
      else after (blankToken start offset read) offset c
  | .comment =>
      if c = '\n' then stepBetween offset c
      else if isPlain c then .ok ([], .comment)
      else fail offset .commentCharacter
  | .opening start mark second =>
      if c = mark then
        if second then .ok ([], .opened start mark)
        else .ok ([], .opening start mark true)
      else if second then
        after (textToken start offset ⟨mark, false⟩ [] 0) offset c
      else stepLine offset start ⟨mark, false⟩ [] c
  | .opened start mark =>
      if c = '\n' then .ok ([], .text start ⟨mark, true⟩ [] 0)
      else stepLines offset start ⟨mark, true⟩ [] 0 c
  | .text start quoting read marks => stepText offset start quoting read marks c
  | .escape start quoting read => stepEscape offset start quoting read c
  | .code start quoting read value left =>
      stepCode offset start quoting read value left c
  | .lineEnd start read ended =>
      if c = '\n' then .ok ([], .lineEnd start read true)
      else if isBlankChar c then .ok ([], .lineEnd start read ended)
      else if ended then stepLines offset start ⟨'"', true⟩ read 0 c
      else fail offset .escape
  | .carriage _ => fail offset .carriageReturn

def spansLines : Mode → Bool
  | .comment | .opened _ _ | .lineEnd _ _ _ => true
  | .text _ quoting _ marks => quoting.multiline && marks < 3
  | .escape _ quoting _ => quoting.multiline
  | .between | .word _ _ | .blank _ _ | .opening _ _ _ | .code _ _ _ _ _ | .carriage _ =>
      false

/-- A carriage return and a newline together are one newline. -/
def step (mode : Mode) (offset : Nat) (c : Char) : Advance :=
  match mode with
  | .carriage before =>
      if c = '\n' then stepPlain before offset c
      else fail offset .carriageReturn
  | _ =>
      if c = '\r' ∧ mode.spansLines then .ok ([], .carriage mode)
      else stepPlain mode offset c

def finish (mode : Mode) (offset : Nat) : Except Failure (List Token) :=
  match mode with
  | .between | .comment => .ok []
  | .word start read => .ok [wordToken start offset read]
  | .blank start read => .ok [blankToken start offset read]
  | .opening start mark true => .ok [textToken start offset ⟨mark, false⟩ [] 0]
  | .text start quoting read marks =>
      if marks ≥ 3 then .ok [textToken start offset quoting read (marks - 3)]
      else broken .closedString ⟨offset, offset⟩
  | _ => broken .completeToken ⟨offset, offset⟩

end Mode

def scanFrom (mode : Mode) (offset : Nat) : List Char → Except Failure (List Token)
  | [] => mode.finish offset
  | c :: rest => do
      let (tokens, next) ← mode.step offset c
      return tokens ++ (← scanFrom next (offset + c.utf8Size) rest)

/-- A byte order mark at the front is skipped. -/
def scan (document : List Char) : Except Failure (List Token) :=
  match document with
  | '\uFEFF' :: rest => scanFrom .between ('\uFEFF').utf8Size rest
  | _ => scanFrom .between 0 document

end VoiceCursor.Toml

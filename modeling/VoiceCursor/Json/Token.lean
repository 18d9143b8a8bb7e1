import VoiceCursor.Json.Numeral

namespace VoiceCursor.Json

open Text

/-! The tokens of a JSON document. A document is scanned one character at a time,
the token under way being kept as a mode. Scanning ends at the first character
that no token can hold, and that place becomes a token of its own, so that a reader
which stops earlier never meets it. -/

inductive Kind where
  | openBrace
  | closeBrace
  | openBracket
  | closeBracket
  | comma
  | colon
  | null
  | boolean (value : Bool)
  | number (value : NumberValue)
  | string (value : String)
  | broken (problem : Problem)
  | brokenString (problem : Problem)

/-- A token with the bytes before it and the bytes up to its end. -/
structure Token where
  kind : Kind
  start : Nat
  stop : Nat

inductive Phase where
  | sign
  | zero
  | whole
  | point
  | fraction
  | exponentMark
  | exponentSign
  | exponent

/-- The token under way. Characters of strings are kept last first. -/
inductive Mode where
  | between
  | literal (start : Nat) (left : List Char) (kind : Kind)
  | number (start : Nat) (phase : Phase) (numeral : Numeral)
  | string (start : Nat) (read : List Char)
  | escape (start : Nat) (read : List Char)
  /-- The value of the digits after `\u`, their number, and the unit before them if
  that was the first half of a pair. -/
  | hex (start : Nat) (read : List Char) (high : Option Nat) (value count : Nat)
  /-- After the first half of a pair, whether a backslash was read. -/
  | low (start : Nat) (read : List Char) (high : Nat) (backslash : Bool)

def isSpace (c : Char) : Bool := c = ' ' || c = '\t' || c = '\n' || c = '\r'

def hexValue? (c : Char) : Option Nat :=
  if '0' ≤ c ∧ c ≤ '9' then some (c.toNat - '0'.toNat)
  else if 'a' ≤ c ∧ c ≤ 'f' then some (c.toNat - 'a'.toNat + 10)
  else if 'A' ≤ c ∧ c ≤ 'F' then some (c.toNat - 'A'.toNat + 10)
  else none

def escaped? : Char → Option Char
  | '"' => some '"'
  | '\\' => some '\\'
  | '/' => some '/'
  | 'b' => some '\x08'
  | 'f' => some '\x0C'
  | 'n' => some '\n'
  | 'r' => some '\r'
  | 't' => some '\t'
  | _ => none

/-- What a character leads to: tokens that it completes, and the mode after it
unless it ends the scan. -/
structure Advance where
  tokens : List Token
  mode : Option Mode

namespace Advance

def into (mode : Mode) : Advance := ⟨[], some mode⟩

def emit (token : Token) : Advance := ⟨[token], some .between⟩

def stop (token : Token) : Advance := ⟨[token], none⟩

end Advance

def Numeral.token (numeral : Numeral) (start stop : Nat) : Token :=
  match numeral.value with
  | .ok value => ⟨.number value, start, stop⟩
  | .error problem => ⟨.broken problem, start, stop⟩

namespace Mode

def stepBetween (offset : Nat) (c : Char) : Advance :=
  let single (kind : Kind) := Advance.emit ⟨kind, offset, offset + 1⟩
  if isSpace c then .into .between
  else match c with
    | '\x7B' => single .openBrace
    | '\x7D' => single .closeBrace
    | '[' => single .openBracket
    | ']' => single .closeBracket
    | ',' => single .comma
    | ':' => single .colon
    | '"' => .into (.string offset [])
    | 'n' => .into (.literal offset ['u', 'l', 'l'] .null)
    | 't' => .into (.literal offset ['r', 'u', 'e'] (.boolean true))
    | 'f' => .into (.literal offset ['a', 'l', 's', 'e'] (.boolean false))
    | '-' => .into (.number offset .sign { Numeral.empty with negative := true })
    | '0' => .into (.number offset .zero { Numeral.empty with whole := ['0'] })
    | _ =>
        if c.isDigit then
          .into (.number offset .whole { Numeral.empty with whole := [c] })
        else .stop ⟨.broken .expectedValue, offset, offset + 1⟩

def endNumber (offset start : Nat) (numeral : Numeral) (c : Char) : Advance :=
  let after := stepBetween offset c
  ⟨numeral.token start offset :: after.tokens, after.mode⟩

def stepNumber (offset start : Nat) (phase : Phase) (numeral : Numeral) (c : Char) :
    Advance :=
  let invalid := Advance.stop ⟨.broken .invalidNumber, start, offset + 1⟩
  let inWhole := Advance.into
    (.number start .whole { numeral with whole := numeral.whole ++ [c] })
  let toPoint := Advance.into
    (.number start .point { numeral with hasFraction := true })
  let inFraction := Advance.into
    (.number start .fraction { numeral with fraction := numeral.fraction ++ [c] })
  let toExponent := Advance.into
    (.number start .exponentMark { numeral with hasExponent := true })
  let inExponent :=
    let longer := { numeral with exponent := numeral.exponent ++ [c] }
    if longer.overflows then
      Advance.stop ⟨.broken .numberOutOfRange, start, offset + 1⟩
    else .into (.number start .exponent longer)
  let isMark := c = 'e' || c = 'E'
  match phase with
  | .sign =>
      if c = '0' then
        .into (.number start .zero { numeral with whole := [c] })
      else if c.isDigit then inWhole
      else invalid
  | .zero =>
      if c.isDigit then invalid
      else if c = '.' then toPoint
      else if isMark then toExponent
      else endNumber offset start numeral c
  | .whole =>
      if c.isDigit then inWhole
      else if c = '.' then toPoint
      else if isMark then toExponent
      else endNumber offset start numeral c
  | .point => if c.isDigit then inFraction else invalid
  | .fraction =>
      if c.isDigit then inFraction
      else if isMark then toExponent
      else endNumber offset start numeral c
  | .exponentMark =>
      if c = '+' then .into (.number start .exponentSign numeral)
      else if c = '-' then
        .into (.number start .exponentSign { numeral with exponentNegative := true })
      else if c.isDigit then inExponent
      else invalid
  | .exponentSign => if c.isDigit then inExponent else invalid
  | .exponent =>
      if c.isDigit then inExponent else endNumber offset start numeral c

/-- The fourth hexadecimal digit was read: one unit, or the second of a pair. -/
def endHex (offset start : Nat) (read : List Char) (high : Option Nat) (unit : Nat) :
    Advance :=
  let isLow := 0xDC00 ≤ unit && unit ≤ 0xDFFF
  let lone := Advance.stop ⟨.brokenString .loneSurrogate, start, offset + 1⟩
  match high with
  | none =>
      if isLow then lone
      else if 0xD800 ≤ unit && unit ≤ 0xDBFF then .into (.low start read unit false)
      else .into (.string start (Char.ofNat unit :: read))
  | some high =>
      if isLow then
        let code := 0x10000 + (high - 0xD800) * 0x400 + (unit - 0xDC00)
        .into (.string start (Char.ofNat code :: read))
      else lone

def step (mode : Mode) (offset : Nat) (c : Char) (rest : List Char) : Advance :=
  match mode with
  | .between => stepBetween offset c
  | .literal start left kind =>
      match left with
      | [] => stepBetween offset c
      | [last] =>
          if c = last then .emit ⟨kind, start, offset + 1⟩
          else .stop ⟨.broken .expectedLiteral, start, offset + 1⟩
      | next :: left =>
          if c = next then .into (.literal start left kind)
          else .stop ⟨.broken .expectedLiteral, start, offset + 1⟩
  | .number start phase numeral => stepNumber offset start phase numeral c
  | .string start read =>
      if c = '"' then .emit ⟨.string (.ofList read.reverse), start, offset + 1⟩
      else if c = '\\' then .into (.escape start read)
      else if c.toNat < 0x20 then
        .stop ⟨.brokenString .controlCharacter, start, offset + 1⟩
      else .into (.string start (c :: read))
  | .escape start read =>
      if c = 'u' then .into (.hex start read none 0 0)
      else match escaped? c with
        | some char => .into (.string start (char :: read))
        | none => .stop ⟨.brokenString .invalidEscape, start, offset + 1⟩
  | .hex start read high value count =>
      match hexValue? c with
      | some digit =>
          let value := 16 * value + digit
          if count = 3 then endHex offset start read high value
          else .into (.hex start read high value (count + 1))
      | none =>
          if count + byteLength (c :: rest) < 4 then
            .stop ⟨.brokenString .endInString, start, offset + byteLength (c :: rest)⟩
          else .stop ⟨.brokenString .invalidEscape, start, offset - count + 4⟩
  | .low start read high backslash =>
      if backslash ∧ c = 'u' then .into (.hex start read (some high) 0 0)
      else if !backslash ∧ c = '\\' then .into (.low start read high true)
      else .stop ⟨.brokenString .endOfHexEscape, start, offset + 1⟩

def finish (offset : Nat) : Mode → List Token
  | .between => []
  | .literal start _ _ => [⟨.broken .endInValue, start, offset⟩]
  | .number start phase numeral =>
      match phase with
      | .zero | .whole | .fraction | .exponent => [numeral.token start offset]
      | .sign | .point | .exponentMark | .exponentSign =>
          [⟨.broken .endInValue, start, offset⟩]
  | .string start _ | .escape start _ | .hex start _ _ _ _ | .low start _ _ _ =>
      [⟨.brokenString .endInString, start, offset⟩]

end Mode

def scanFrom (mode : Mode) (offset : Nat) : List Char → List Token
  | [] => mode.finish offset
  | c :: rest =>
      let advance := mode.step offset c rest
      match advance.mode with
      | none => advance.tokens
      | some next => advance.tokens ++ scanFrom next (offset + c.utf8Size) rest

def scan (document : List Char) : List Token := scanFrom .between 0 document

end VoiceCursor.Json

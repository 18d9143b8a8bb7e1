import VoiceCursor.Json.Token
import VoiceCursor.Proofs.SpokenNumber

namespace VoiceCursor.Json

/-! How JSON documents are written: values as sequences of lexemes, each lexeme spelled in any
of its ways, with insignificant characters between them. -/

/-- A value of a document, its numbers as they are written. -/
inductive Value where
  | null
  | boolean (value : Bool)
  | number (numeral : Numeral)
  | string (text : String)
  | list (elements : List Value)
  | object (entries : List (String × Value))

inductive Lexeme where
  | openBrace
  | closeBrace
  | openBracket
  | closeBracket
  | comma
  | colon
  | null
  | boolean (value : Bool)
  | number (numeral : Numeral)
  | string (text : String)

mutual

def Value.lexemes : Value → List Lexeme
  | .null => [.null]
  | .boolean value => [.boolean value]
  | .number numeral => [.number numeral]
  | .string text => [.string text]
  | .list [] => [.openBracket, .closeBracket]
  | .list (first :: rest) => .openBracket :: (first.lexemes ++ elementsBehind rest)
  | .object [] => [.openBrace, .closeBrace]
  | .object ((key, value) :: rest) =>
      .openBrace :: .string key :: .colon :: (value.lexemes ++ entriesBehind rest)

def elementsBehind : List Value → List Lexeme
  | [] => [.closeBracket]
  | next :: rest => .comma :: (next.lexemes ++ elementsBehind rest)

def entriesBehind : List (String × Value) → List Lexeme
  | [] => [.closeBrace]
  | (key, value) :: rest =>
      .comma :: .string key :: .colon :: (value.lexemes ++ entriesBehind rest)

end

/-! Strings. A character stands for itself, or is escaped by a letter or by its units in
UTF-16. -/

def letterEscapes : List (Char × Char) := [
  ('"', '"'), ('\\', '\\'), ('/', '/'), ('b', '\x08'), ('f', '\x0C'), ('n', '\n'),
  ('r', '\r'), ('t', '\t')]

def SpellsHexDigit (value : Nat) (c : Char) : Prop :=
  "0123456789abcdef".toList[value]? = some c ∨ "0123456789ABCDEF".toList[value]? = some c

def SpellsUnit (unit : Nat) (digits : List Char) : Prop :=
  List.Forall₂ SpellsHexDigit
    [unit / 0x1000, unit / 0x100 % 0x10, unit / 0x10 % 0x10, unit % 0x10] digits

def isPlain (c : Char) : Bool := c ≠ '"' && c ≠ '\\' && 0x20 ≤ c.toNat

inductive SpellsChar (c : Char) : List Char → Prop where
  | plain (hplain : isPlain c = true) : SpellsChar c [c]
  | letter {letter : Char} (hletter : (letter, c) ∈ letterEscapes) :
      SpellsChar c ['\\', letter]
  | unit {digits : List Char} (hsingle : c.toNat < 0x10000)
      (hdigits : SpellsUnit c.toNat digits) : SpellsChar c ('\\' :: 'u' :: digits)
  | pair {high low : List Char} (hpair : 0x10000 ≤ c.toNat)
      (hhigh : SpellsUnit (0xD800 + (c.toNat - 0x10000) / 0x400) high)
      (hlow : SpellsUnit (0xDC00 + (c.toNat - 0x10000) % 0x400) low) :
      SpellsChar c ('\\' :: 'u' :: high ++ '\\' :: 'u' :: low)

inductive SpellsChars : List Char → List Char → Prop where
  | nil : SpellsChars [] []
  | cons {c : Char} {rest word others : List Char} (hchar : SpellsChar c word)
      (hrest : SpellsChars rest others) : SpellsChars (c :: rest) (word ++ others)

theorem SpellsChars.plain {text : List Char} (hplain : text.all isPlain = true) :
    SpellsChars text text := by
  induction text with
  | nil => exact .nil
  | cons c rest ih =>
      rw [List.all_cons, Bool.and_eq_true] at hplain
      exact .cons (.plain hplain.1) (ih hplain.2)

namespace Numeral

/-- Whether these are the parts of a numeral: no leading zeros, and digits in each part that
is there. -/
structure IsWellFormed (numeral : Numeral) : Prop where
  whole_ne_nil : numeral.whole ≠ []
  whole_digits : numeral.whole.all Char.isDigit = true
  whole_zero : numeral.whole.head? = some '0' → numeral.whole = ['0']
  fraction_ne_nil : numeral.fraction ≠ [] ↔ numeral.hasFraction = true
  fraction_digits : numeral.fraction.all Char.isDigit = true
  exponent_ne_nil : numeral.exponent ≠ [] ↔ numeral.hasExponent = true
  exponent_digits : numeral.exponent.all Char.isDigit = true

def signPart (numeral : Numeral) : List Char := if numeral.negative then ['-'] else []

def fractionPart (numeral : Numeral) : List Char :=
  if numeral.hasFraction then '.' :: numeral.fraction else []

def exponentMarks (numeral : Numeral) : List (List Char) :=
  if numeral.exponentNegative then [['e', '-'], ['E', '-']]
  else [['e'], ['E'], ['e', '+'], ['E', '+']]

def exponentParts (numeral : Numeral) : List (List Char) :=
  if numeral.hasExponent then numeral.exponentMarks.map (· ++ numeral.exponent) else [[]]

def Spells (numeral : Numeral) (word : List Char) : Prop :=
  numeral.IsWellFormed ∧ ∃ exponent ∈ numeral.exponentParts,
    word = numeral.signPart ++ (numeral.whole ++ (numeral.fractionPart ++ exponent))

/-- The natural number that is written, if it is one and not too large. -/
def natural? (numeral : Numeral) : Option Nat :=
  if numeral.negative || numeral.hasFraction || numeral.hasExponent then none
  else (some (decimalValue numeral.whole)).filter (· ≤ largestNumber)

end Numeral

def Lexeme.Spells : Lexeme → List Char → Prop
  | .openBrace, word => word = ['\x7B']
  | .closeBrace, word => word = ['\x7D']
  | .openBracket, word => word = ['[']
  | .closeBracket, word => word = [']']
  | .comma, word => word = [',']
  | .colon, word => word = [':']
  | .null, word => word = ['n', 'u', 'l', 'l']
  | .boolean true, word => word = ['t', 'r', 'u', 'e']
  | .boolean false, word => word = ['f', 'a', 'l', 's', 'e']
  | .number numeral, word => numeral.Spells word
  | .string text, word => ∃ body, SpellsChars text.toList body ∧ word = '"' :: (body ++ ['"'])

/-- Whether a text holds the lexemes, and nothing else but insignificant characters. -/
inductive SpellsAll : List Lexeme → List Char → Prop where
  | nil : SpellsAll [] []
  | space {lexemes : List Lexeme} {text : List Char} {c : Char} (hspace : isSpace c = true)
      (htext : SpellsAll lexemes text) : SpellsAll lexemes (c :: text)
  | lexeme {lexeme : Lexeme} {lexemes : List Lexeme} {word text : List Char}
      (hword : lexeme.Spells word) (htext : SpellsAll lexemes text) :
      SpellsAll (lexeme :: lexemes) (word ++ text)

/-- Whether a document holds an object with the entries. -/
def Written (entries : List (String × Value)) (document : String) : Prop :=
  SpellsAll (Value.object entries).lexemes document.toList

namespace Value

def natural? : Value → Option Nat
  | .number numeral => numeral.natural?
  | _ => none

def string? : Value → Option String
  | .string text => some text
  | _ => none

def strings? : Value → Option (List String)
  | .list elements => elements.mapM string?
  | _ => none

end Value

/-- The entries with the values that are written in them, if all of these are of the type. -/
def typedEntries? {α : Type} (typed : Value → Option α) (entries : List (String × Value)) :
    Option (List (String × α)) :=
  entries.mapM fun entry => (typed entry.2).map (Prod.mk entry.1)

theorem typedEntries?_eq_none_iff {α : Type} {typed : Value → Option α}
    {entries : List (String × Value)} :
    typedEntries? typed entries = none ↔ ∃ entry ∈ entries, typed entry.2 = none := by
  induction entries with
  | nil => simp [typedEntries?]
  | cons entry entries ih =>
      simp only [typedEntries?, List.mapM_cons, List.mem_cons, exists_eq_or_imp] at ih ⊢
      rw [← ih]
      cases typed entry.2 with
      | none => simp
      | some value =>
          cases List.mapM (fun entry => (typed entry.2).map (Prod.mk entry.1)) entries <;> simp

end VoiceCursor.Json

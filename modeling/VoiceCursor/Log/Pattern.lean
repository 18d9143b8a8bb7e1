import VoiceCursor.Log.Pattern.Nesting
import VoiceCursor.Text.Alphanumeric
import VoiceCursor.Text.Blank

namespace VoiceCursor.Log

open Text

/-! Patterns for the value of a field, that is, regular expressions. No entry has a value
that one is asked about, so all that matters is whether a pattern makes sense. A closing
brace is never part of one, so neither are counted repetitions.

A pattern is about characters or about bytes. Of characters nothing is known but their
codes: there are no sets of them by meaning, and letters have no second case. What bytes
match has to be ASCII. -/

inductive PatternError where
  | malformed
  /-- There is no looking for the ends of words in all scripts. -/
  | wordBoundary
  deriving DecidableEq, Repr

def PatternError.text : PatternError → String
  | .malformed => "error building NFA"
  | .wordBoundary =>
      "unsupported regex feature for DFAs: cannot build DFAs for regexes with Unicode " ++
        "word boundaries; switch to ASCII word boundaries, or heuristically enable " ++
        "Unicode word boundaries or use a different regex engine"

namespace Pattern

inductive Atom where
  | character (code : Nat)
  | set
  /-- A place in a text, with no character in it. -/
  | place

inductive Site where
  | sequence
  | item
  /-- At the end of a range, with the character that the range starts with. A set does
  not start one. -/
  | rangeEnd (low : Option Nat)

/-- What is read next. Names and options are kept last one first. -/
inductive Mode where
  | sequence
  | group
  | name (read : List Char)
  | options (read : List Char) (fresh : Options)
  | escape (site : Site)
  | digits (site : Site) (total left value : Nat)
  /-- After an opening bracket; a caret and dashes may come first. -/
  | opening (negated dashes : Bool)
  | item
  | afterItem (low : Option Nat)
  | rangeEnd (low : Option Nat)
  | comment (resumed : Mode)
  | skip (count : Nat) (resumed : Mode)

structure Reader where
  mode : Mode
  group : Group
  outer : List Group
  classes : List Class
  names : List (List Char)
  hasWordBoundary : Bool

namespace Reader

def start : Reader := ⟨.sequence, .start ⟨true, false, false⟩, [], [], [], false⟩

def options (reader : Reader) : Options := reader.group.options

def inMode (reader : Reader) (mode : Mode) : Except PatternError Reader :=
  .ok { reader with mode := mode }

def reject : Except PatternError Reader := .error .malformed

def addPart (reader : Reader) (part : Nat) : Except PatternError Reader :=
  .ok { reader with mode := .sequence, group := reader.group.add part }

def openGroup (reader : Reader) (options : Options) : Reader :=
  { reader with
    mode := .sequence
    group := .start options
    outer := reader.group :: reader.outer }

def closeGroup (reader : Reader) : Except PatternError Reader :=
  match reader.outer with
  | [] => reject
  | group :: outer =>
      { reader with group := group, outer := outer }.addPart (reader.group.height + 1)

def addItem (reader : Reader) (mode : Mode) (item : Nat) : Except PatternError Reader :=
  match reader.classes with
  | [] => reject
  | inner :: classes => .ok { reader with mode := mode, classes := inner.add item :: classes }

def openClass (reader : Reader) : Except PatternError Reader :=
  .ok { reader with mode := .opening false false, classes := .start :: reader.classes }

def addOperator (reader : Reader) : Except PatternError Reader :=
  match reader.classes with
  | [] => reject
  | inner :: classes =>
      .ok { reader with mode := .skip 1 .item, classes := inner.addOperator :: classes }

/-- Closes the innermost class, which is an item of the one around it, or else a part. -/
def closeClass (reader : Reader) : Except PatternError Reader :=
  match reader.classes with
  | [] => reject
  | [inner] => { reader with classes := [] }.addPart (inner.height + 1)
  | inner :: classes => { reader with classes := classes }.addItem .item (inner.height + 1)

def knowsCases (reader : Reader) : Bool :=
  !(reader.options.unicode && reader.options.caseless)

def admits (reader : Reader) (code : Nat) : Bool :=
  reader.knowsCases && (reader.options.unicode || code < 0x80)

def settle (reader : Reader) (site : Site) (atom : Atom) : Except PatternError Reader :=
  match site, atom with
  | .sequence, .character _ => if reader.knowsCases then reader.addPart 0 else reject
  | .sequence, _ => reader.addPart 0
  | .item, .character code =>
      if reader.admits code then reader.addItem (.afterItem (some code)) 0 else reject
  | .item, .set => reader.addItem (.afterItem none) 0
  | .rangeEnd (some low), .character code =>
      if reader.admits code && low ≤ code then reader.inMode .item else reject
  | _, _ => reject

/-- Repeats the last part. A question mark right behind makes it short and is no further
repetition. -/
def takeRepetition (reader : Reader) (rest : List Char) : Except PatternError Reader :=
  match reader.group.repeatLast? with
  | none => reject
  | some group =>
      let mode : Mode := if rest.head? = some '?' then .skip 1 .sequence else .sequence
      .ok { reader with mode := mode, group := group }

def takeInSequence (reader : Reader) (c : Char) (rest : List Char) :
    Except PatternError Reader :=
  match c with
  | '(' => reader.inMode .group
  | ')' => reader.closeGroup
  | '|' => .ok { reader with mode := .sequence, group := reader.group.addBar }
  | '[' => reader.openClass
  | '?' | '*' | '+' => reader.takeRepetition rest
  | '\x7B' => reject
  | '\\' => reader.inMode (.escape .sequence)
  | '.' => if reader.options.unicode then reader.settle .sequence .set else reject
  | '^' | '$' => reader.settle .sequence .place
  | _ => reader.settle .sequence (.character c.toNat)

/-- What may follow an opening parenthesis: a question mark with a name or options, or
the group itself. Groups that look ahead or back are not supported. -/
def takeInGroup (reader : Reader) (c : Char) (rest : List Char) :
    Except PatternError Reader :=
  if c = '?' then
    match rest with
    | '=' :: _ | '!' :: _ | '<' :: '=' :: _ | '<' :: '!' :: _ => reject
    | '<' :: _ => reader.inMode (.skip 1 (.name []))
    | 'P' :: '<' :: _ => reader.inMode (.skip 2 (.name []))
    | _ => reader.inMode (.options [] reader.options)
  else (reader.openGroup reader.options).takeInSequence c rest

def isNameChar (c : Char) (isFirst : Bool) : Bool :=
  c = '_' ||
    if isFirst then isAlphabetic c
    else c = '.' || c = '[' || c = ']' || isAlphanumeric c

def takeInName (reader : Reader) (read : List Char) (c : Char) :
    Except PatternError Reader :=
  if c = '>' then
    if read.isEmpty || reader.names.contains read then reject
    else .ok ({ reader with names := read :: reader.names }.openGroup reader.options)
  else if isNameChar c read.isEmpty then reader.inMode (.name (c :: read))
  else reject

/-- An option is given once, and what follows a dash is turned off. -/
def takeOption (reader : Reader) (read : List Char) (fresh : Options) (c : Char) :
    Except PatternError Reader :=
  let isOn := !read.contains '-'
  if c = ')' then
    if read.isEmpty || read.head? = some '-' then reject
    else .ok { reader with mode := .sequence, group := reader.group.addOptions fresh }
  else if c = ':' then
    if read.head? = some '-' then reject else .ok (reader.openGroup fresh)
  else if read.contains c then reject
  else
    let read := c :: read
    match c with
    | 'u' => reader.inMode (.options read { fresh with unicode := isOn })
    | 'x' => reader.inMode (.options read { fresh with spaced := isOn })
    | 'i' => reader.inMode (.options read { fresh with caseless := isOn })
    | 'm' | 's' | 'U' | 'R' | '-' => reader.inMode (.options read fresh)
    | _ => reject

def escaped? : Char → Option Nat
  | 'a' => some 0x07
  | 'f' => some 0x0C
  | 't' => some 0x09
  | 'n' => some 0x0A
  | 'r' => some 0x0D
  | 'v' => some 0x0B
  | _ => none

/-- The character after a backslash. ASCII symbols stand for themselves there. There are
sets where bytes count, but none that go beyond ASCII. -/
def takeEscape (reader : Reader) (site : Site) (c : Char) : Except PatternError Reader :=
  let unicode := reader.options.unicode
  match c with
  | 'x' => reader.inMode (.digits site 2 2 0)
  | 'u' => reader.inMode (.digits site 4 4 0)
  | 'U' => reader.inMode (.digits site 8 8 0)
  | 'd' | 's' | 'w' => if unicode then reject else reader.settle site .set
  | 'A' | 'z' => reader.settle site .place
  | 'b' | 'B' | '<' | '>' =>
      { reader with hasWordBoundary := reader.hasWordBoundary || unicode }.settle site .place
  | _ =>
      match escaped? c with
      | some code => reader.settle site (.character code)
      | none =>
          if c.isAlphanum || c.toNat ≥ 0x80 then reject
          else reader.settle site (.character c.toNat)

def hexValue? (c : Char) : Option Nat :=
  if '0' ≤ c ∧ c ≤ '9' then some (c.toNat - '0'.toNat)
  else if 'a' ≤ c ∧ c ≤ 'f' then some (c.toNat - 'a'.toNat + 10)
  else if 'A' ≤ c ∧ c ≤ 'F' then some (c.toNat - 'A'.toNat + 10)
  else none

/-- A digit of an escape. Two digits stand for a byte where bytes count, which then has to
be ASCII. -/
def takeDigit (reader : Reader) (site : Site) (total left value : Nat) (c : Char) :
    Except PatternError Reader :=
  match hexValue? c with
  | none => reject
  | some digit =>
      let value := 16 * value + digit
      if left > 1 then reader.inMode (.digits site total (left - 1) value)
      else if !value.isValidChar then reject
      else if total = 2 && !reader.options.unicode && value ≥ 0x80 then reject
      else reader.settle site (.character value)

def classNames : List String :=
  ["alnum", "alpha", "ascii", "blank", "cntrl", "digit", "graph", "lower", "print",
    "punct", "space", "upper", "word", "xdigit"]

/-- The length of a named class, less its first bracket, at the front of a text, and
whether it is a negated one. -/
def namedClass? (text : List Char) : Option (Nat × Bool) :=
  let named (negation : List Char) : Option Nat :=
    classNames.findSome? fun name =>
      let written := ':' :: (negation ++ name.toList ++ [':', ']'])
      if written.isPrefixOf text then some written.length else none
  (named []).map (·, false) <|> (named ['^']).map (·, true)

/-- What may start an item of a class, or end the class. Where bytes count, a named class
is not a negated one, which would go beyond ASCII. -/
def takeItem (reader : Reader) (c : Char) (rest : List Char) : Except PatternError Reader :=
  if (c = '&' || c = '-' || c = '~') && rest.head? = some c then reader.addOperator
  else
    match c with
    | '[' =>
        match namedClass? rest with
        | some (length, negated) =>
            if reader.knowsCases && (reader.options.unicode || !negated) then
              reader.addItem (.skip length .item) 0
            else reject
        | none => reader.openClass
    | ']' => reader.closeClass
    | '\\' => reader.inMode (.escape .item)
    | _ => reader.settle .item (.character c.toNat)

/-- The front of a class: a caret, dashes, and a bracket that stands for itself. Where
bytes count, a class is not negated. -/
def takeOpening (reader : Reader) (negated dashes : Bool) (c : Char) (rest : List Char) :
    Except PatternError Reader :=
  if c = '^' && !negated && !dashes then
    if reader.options.unicode then reader.inMode (.opening true false) else reject
  else if c = '-' then
    if reader.admits c.toNat then reader.addItem (.opening negated true) 0 else reject
  else if c = ']' && !dashes then
    if reader.admits c.toNat then reader.addItem .item 0 else reject
  else reader.takeItem c rest

/-- The first of the characters that are not left out, or the first in a comment, as far
as there is one. -/
def peek? (reader : Reader) (rest : List Char) : Option Char :=
  if reader.options.spaced then
    match rest.dropWhile isBlank with
    | '#' :: comment => comment.find? fun c => !isBlank c
    | shown => shown.head?
  else rest.head?

/-- A dash between two items makes a range. -/
def takeAfterItem (reader : Reader) (low : Option Nat) (c : Char) (rest : List Char) :
    Except PatternError Reader :=
  let next := reader.peek? rest
  if c = '-' && next ≠ some ']' && next ≠ some '-' then reader.inMode (.rangeEnd low)
  else reader.takeItem c rest

def takeRangeEnd (reader : Reader) (low : Option Nat) (c : Char) :
    Except PatternError Reader :=
  if c = '\\' then reader.inMode (.escape (.rangeEnd low))
  else reader.settle (.rangeEnd low) (.character c.toNat)

def takeIn (reader : Reader) (c : Char) (rest : List Char) : Except PatternError Reader :=
  match reader.mode with
  | .sequence => reader.takeInSequence c rest
  | .group => reader.takeInGroup c rest
  | .name read => reader.takeInName read c
  | .options read fresh => reader.takeOption read fresh c
  | .escape site => reader.takeEscape site c
  | .digits site total left value => reader.takeDigit site total left value c
  | .opening negated dashes => reader.takeOpening negated dashes c rest
  | .item => reader.takeItem c rest
  | .afterItem low => reader.takeAfterItem low c rest
  | .rangeEnd low => reader.takeRangeEnd low c
  | .comment resumed =>
      if c = '\n' then reader.inMode resumed else .ok reader
  | .skip count resumed =>
      if count > 1 then reader.inMode (.skip (count - 1) resumed)
      else reader.inMode resumed

def admitsBlanks (reader : Reader) : Bool :=
  reader.options.spaced &&
    match reader.mode with
    | .name _ | .options _ _ | .escape _ | .comment _ | .skip _ _ => false
    | _ => true

def take (reader : Reader) (c : Char) (rest : List Char) : Except PatternError Reader :=
  if reader.admitsBlanks && isBlank c then .ok reader
  else if reader.admitsBlanks && c = '#' then reader.inMode (.comment reader.mode)
  else reader.takeIn c rest

def isComplete (reader : Reader) : Bool :=
  reader.outer.isEmpty && reader.group.height ≤ maxHeight &&
    match reader.mode with
    | .sequence | .comment .sequence => true
    | _ => false

def readFrom (reader : Reader) : List Char → Except PatternError Unit
  | [] =>
      if !reader.isComplete then .error .malformed
      else if reader.hasWordBoundary then .error .wordBoundary
      else .ok ()
  | c :: rest => do (← reader.take c rest).readFrom rest

end Reader

/-- Whether a text is a number: digits with a point among them and an exponent, or one of
the names of what is not finite. -/
def isNumber (text : List Char) : Bool :=
  let isMark (c : Char) : Bool := c = 'e' || c = 'E'
  let significand := text.takeWhile fun c => !isMark c
  let exponent := text.dropWhile fun c => !isMark c
  let whole := significand.takeWhile (· ≠ '.')
  let fraction := significand.dropWhile (· ≠ '.')
  let digits := whole ++ fraction.drop 1
  let power :=
    match exponent.drop 1 with
    | '+' :: rest | '-' :: rest => rest
    | rest => rest
  ["inf", "infinity", "nan"].contains (String.ofList (text.map Char.toLower)) ||
    (!digits.isEmpty && digits.all Char.isDigit &&
      (exponent.isEmpty || !power.isEmpty && power.all Char.isDigit))

/-- Why a text is no value to look for. A number is one, also with a plus sign, which
would make no sense at the front of a pattern. -/
def check (value : List Char) : Except PatternError Unit :=
  match value with
  | '+' :: rest => if isNumber rest then .ok () else .error .malformed
  | _ => Reader.start.readFrom value

end Pattern

end VoiceCursor.Log

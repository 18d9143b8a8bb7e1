import VoiceCursor.Vocabulary

namespace VoiceCursor

/-! The command language. A word is judged by the state it is heard in alone;
each state tries its words in a fixed order.

```
idle        go         more is awaited
            line       a number is awaited
            down, up   a command
            bookmark   a command
afterGo     to         more is awaited
            the token  a number is awaited
afterGoTo   line       a number is awaited
            bookmark   a command
afterLine   number     a command
```
-/

inductive State where
  | idle
  | afterGo
  | afterGoTo
  /-- "line" or "go to line" -/
  | afterLine
  deriving DecidableEq, Repr

def State.name : State → String
  | .idle => "Start"
  | .afterGo => "AwaitingGoTarget"
  | .afterGoTo => "AwaitingGoToLine"
  | .afterLine => "AwaitingLineNumber"

def State.display : State → String
  | .idle => "Start"
  | .afterGo => "go …"
  | .afterGoTo => "go to …"
  | .afterLine => "line …"

inductive Action where
  /-- Lines count from one. -/
  | toLine (line : Nat)
  | down
  | up
  deriving DecidableEq, Repr

def Action.name : Action → String
  | .toLine line => "GoToLine(" ++ toString line ++ ")"
  | .down => "LineDown"
  | .up => "LineUp"

/-- The line that an action asks for when the cursor is in `row`. Rows count from
zero and lines from one, so the line after a row is two more than it. -/
def Action.destination (row : Nat) : Action → Nat
  | .toLine line => line
  | .down => min (row + 2) largestNumber
  | .up => row

structure Step where
  next : State
  words : List String
  action : Option Action
  deriving DecidableEq

namespace Step

def advance (next : State) (words : List String) : Step := ⟨next, words, none⟩

def complete (action : Action) : Step := ⟨.idle, [], some action⟩

end Step

structure Grammar where
  vocabulary : Vocabulary
  /-- The single word that may stand for "to line". -/
  token : String
  allowsZero : Bool

namespace Grammar

def defaultToken : String := "lunchtime"

def ofVocabulary (vocabulary : Vocabulary) : Grammar :=
  ⟨vocabulary, defaultToken, false⟩

def withToken (grammar : Grammar) (token : String) : Grammar :=
  { grammar with token := Text.lowercase token }

def allowingZero (grammar : Grammar) (accepts : Bool) : Grammar :=
  { grammar with allowsZero := accepts }

def commandWord (grammar : Grammar) (expected : String) (step : Step) (word : String) :
    Option Step :=
  if grammar.vocabulary.hears expected word then some step else none

def bookmark (grammar : Grammar) (word : String) : Option Step :=
  (grammar.vocabulary.bookmark? word).map fun line => .complete (.toLine line)

/-- The line that a word names. Digits name any line, also zero. -/
def lineNumber? (grammar : Grammar) (word : String) : Option Nat :=
  if isDigitRun word then some (cappedValue word)
  else (grammar.vocabulary.number? word).filter fun line =>
    line ≠ 0 || grammar.allowsZero

def step? (grammar : Grammar) (state : State) (word : String) : Option Step :=
  match state with
  | .idle =>
      grammar.commandWord "go" (.advance .afterGo ["go"]) word <|>
      grammar.commandWord "line" (.advance .afterLine ["line"]) word <|>
      grammar.commandWord "down" (.complete .down) word <|>
      grammar.commandWord "up" (.complete .up) word <|>
      grammar.bookmark word
  | .afterGo =>
      grammar.commandWord "to" (.advance .afterGoTo ["to"]) word <|>
      if word = grammar.token then
        some (.advance .afterLine ["to", "line"])
      else none
  | .afterGoTo =>
      grammar.commandWord "line" (.advance .afterLine ["line"]) word <|>
      grammar.bookmark word
  | .afterLine =>
      (grammar.lineNumber? word).map fun line => .complete (.toLine line)

end Grammar

end VoiceCursor

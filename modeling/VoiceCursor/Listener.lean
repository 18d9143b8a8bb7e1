import VoiceCursor.Grammar
import VoiceCursor.Surface
import VoiceCursor.Utterance

namespace VoiceCursor

/-! A listener follows the command language. It hears an utterance word by word, and
each word that is part of a command acts on an editor or on the words on show. A
word that means nothing in the state it is heard in changes nothing. -/

structure Listener (E F : Type) where
  grammar : Grammar
  state : State
  editor : E
  feedback : F

inductive Event where
  | heard (word : String) (state : State)
  /-- The word belongs to a command, so the utterance is not to be dictated. -/
  | cancelled
  | shown (words : List String)
  | moved (action : Action) (requested line : Nat)
  | changed (before after : State)
  | cleared
  deriving DecidableEq

namespace Listener

variable {E F : Type} [LineSurface E] [WordSurface F]

def start (grammar : Grammar) (editor : E) (feedback : F) : Listener E F :=
  ⟨grammar, .idle, editor, feedback⟩

def clearWords (listener : Listener E F) : Listener E F :=
  { listener with feedback := WordSurface.clear listener.feedback }

def abandon (listener : Listener E F) : Listener E F :=
  { listener with state := .idle }.clearWords

def showWords (listener : Listener E F) (words : List String) :
    Listener E F × List Event :=
  if words.isEmpty then (listener, [])
  else
    ({ listener with feedback := WordSurface.put listener.feedback words },
      [.shown words])

def perform (listener : Listener E F) : Option Action → Listener E F × List Event
  | none => (listener, [])
  | some action =>
      let requested := action.destination (LineSurface.cursor listener.editor).row
      let (editor, line) := moveToLine listener.editor requested
      ({ listener with editor := editor }, [.moved action requested line])

/-- Words are shown before the cursor moves, and the state changes last. -/
def carryOut (listener : Listener E F) (step : Step) : Listener E F × List Event :=
  let (shown, showing) := listener.showWords step.words
  let (moved, moving) := shown.perform step.action
  let changing :=
    if step.next = listener.state then []
    else [.changed listener.state step.next]
  ({ moved with state := step.next }, showing ++ moving ++ changing)

def hear (listener : Listener E F) (word : String) : Listener E F × List Event :=
  let heard := Event.heard word listener.state
  match listener.grammar.step? listener.state word with
  | none => (listener, [heard])
  | some step =>
      let (next, events) := listener.carryOut step
      (next, heard :: .cancelled :: events)

def hearAll (listener : Listener E F) : List String → Listener E F × List Event
  | [] => (listener, [])
  | word :: words =>
      let (next, first) := listener.hear word
      let (last, rest) := next.hearAll words
      (last, first ++ rest)

/-- Hears every word of an utterance. The words on show are cleared when no
command is left pending, and stay up otherwise. -/
def listen (listener : Listener E F) (text : String) : Listener E F × List Event :=
  let (next, events) := listener.hearAll (spokenWords text)
  if next.state = .idle then (next.clearWords, events ++ [.cleared])
  else (next, events)

end Listener

end VoiceCursor

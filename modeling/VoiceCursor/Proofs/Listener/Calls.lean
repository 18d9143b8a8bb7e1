import VoiceCursor.Listener
import VoiceCursor.Proofs.Grammar.Taken

namespace VoiceCursor

/-! What a listener asks of its surroundings while it hears words. The words that are
taken decide on every call, and the calls decide on the editor and the words shown. -/

inductive Call where
  /-- The utterance is not to be dictated. -/
  | cancel
  | putWords (words : List String)
  | setCursor (cursor : Cursor)
  | clearWords
  deriving DecidableEq

def Call.cursor? : Call → Option Cursor
  | .setCursor cursor => some cursor
  | .cancel | .putWords _ | .clearWords => none

def Event.call? : Event → Option Call
  | .cancelled => some .cancel
  | .shown words => some (.putWords words)
  | .moved _ _ line => some (.setCursor ⟨line - 1, 0⟩)
  | .cleared => some .clearWords
  | .heard _ _ | .changed _ _ => none

def calls (events : List Event) : List Call := events.filterMap Event.call?

def cursorCalls (events : List Event) : List Cursor :=
  (calls events).filterMap Call.cursor?

/-- Whether a call has to do with the cursor or the document, not with words shown. -/
def Call.navigates : Call → Bool
  | .cancel | .setCursor _ => true
  | .putWords _ | .clearWords => false

def navigation (events : List Event) : List Call :=
  (calls events).filter Call.navigates

@[simp] theorem calls_append (first second : List Event) :
    calls (first ++ second) = calls first ++ calls second :=
  List.filterMap_append

theorem cursorCalls_eq_navigation (events : List Event) :
    cursorCalls events = (navigation events).filterMap Call.cursor? := by
  rw [cursorCalls, navigation, List.filterMap_filter]
  congr
  funext call
  cases call <;> rfl

theorem count_cancel_eq_navigation (events : List Event) :
    (calls events).count .cancel = (navigation events).count .cancel := by
  rw [navigation, List.count_filter rfl]

def Action.target {E : Type} [LineSurface E] (editor : E) (action : Action) : Cursor :=
  let requested := action.destination (LineSurface.cursor editor).row
  ⟨landingLine (LineSurface.lineCount editor) requested - 1, 0⟩

def follow {E : Type} [LineSurface E] (editor : E) : Option Action → E
  | none => editor
  | some action => LineSurface.setCursor editor (action.target editor)

def Step.calls {E : Type} [LineSurface E] (editor : E) (step : Step) : List Call :=
  .cancel :: (if step.words.isEmpty then [] else [.putWords step.words]) ++
    step.action.toList.map fun action => .setCursor (action.target editor)

/-- The calls of several steps, each of which finds the editor as the one before
left it. -/
def stepCalls {E : Type} [LineSurface E] (editor : E) : List Step → List Call
  | [] => []
  | step :: steps => step.calls editor ++ stepCalls (follow editor step.action) steps

theorem cursors_of_step {E : Type} [LineSurface E] (editor : E) (step : Step) :
    (step.calls editor).filterMap Call.cursor? =
      step.action.toList.map (Action.target editor) := by
  obtain ⟨next, words, action⟩ := step
  cases words <;> cases action <;> rfl

theorem navigation_of_step {E : Type} [LineSurface E] (editor : E) (step : Step) :
    (step.calls editor).filter Call.navigates =
      .cancel :: step.action.toList.map fun action => .setCursor (action.target editor) := by
  obtain ⟨next, words, action⟩ := step
  cases words <;> cases action <;> rfl

theorem cancel_mem_stepCalls_iff {E : Type} [LineSurface E] (editor : E)
    (steps : List Step) : .cancel ∈ stepCalls editor steps ↔ steps ≠ [] := by
  cases steps <;> simp [stepCalls, Step.calls]

namespace Listener

variable {E F : Type} [LineSurface E] [WordSurface F]

section CarryOut

variable (listener : Listener E F) (step : Step)

@[simp] theorem carryOut_grammar :
    (listener.carryOut step).1.grammar = listener.grammar := by
  obtain ⟨next, words, action⟩ := step
  cases words <;> cases action <;> rfl

@[simp] theorem carryOut_state : (listener.carryOut step).1.state = step.next := rfl

@[simp] theorem carryOut_editor :
    (listener.carryOut step).1.editor = follow listener.editor step.action := by
  obtain ⟨next, words, action⟩ := step
  cases words <;> cases action <;> rfl

@[simp] theorem carryOut_feedback :
    (listener.carryOut step).1.feedback =
      if step.words.isEmpty then listener.feedback
      else WordSurface.put listener.feedback step.words := by
  obtain ⟨next, words, action⟩ := step
  cases words <;> cases action <;> rfl

theorem calls_carryOut :
    .cancel :: calls (listener.carryOut step).2 = step.calls listener.editor := by
  obtain ⟨next, words, action⟩ := step
  by_cases hchange : next = listener.state <;> cases words <;> cases action <;>
    simp [carryOut, showWords, perform, moveToLine, hchange, calls, Event.call?,
      Step.calls, Action.target]

end CarryOut

section Hear

variable {listener : Listener E F} {word : String} {step : Step} (words : List String)

theorem hearAll_cons_of_none
    (hstep : listener.grammar.step? listener.state word = none) :
    listener.hearAll (word :: words) =
      ((listener.hearAll words).1,
        .heard word listener.state :: (listener.hearAll words).2) := by
  simp [hearAll, hear, hstep]

theorem hearAll_cons_of_some
    (hstep : listener.grammar.step? listener.state word = some step) :
    listener.hearAll (word :: words) =
      (((listener.carryOut step).1.hearAll words).1,
        .heard word listener.state :: .cancelled :: ((listener.carryOut step).2 ++
          ((listener.carryOut step).1.hearAll words).2)) := by
  simp [hearAll, hear, hstep]

theorem calls_hearAll_cons_of_some
    (hstep : listener.grammar.step? listener.state word = some step) :
    calls (listener.hearAll (word :: words)).2 =
      step.calls listener.editor ++ calls ((listener.carryOut step).1.hearAll words).2 := by
  rw [hearAll_cons_of_some words hstep, ← calls_carryOut, List.cons_append, ← calls_append]
  rfl

end Hear

section HearAll

variable (listener : Listener E F) (words : List String)

@[simp] theorem hearAll_grammar :
    (listener.hearAll words).1.grammar = listener.grammar := by
  induction words generalizing listener with
  | nil => rfl
  | cons word words ih =>
      cases hstep : listener.grammar.step? listener.state word with
      | none => rw [hearAll_cons_of_none words hstep, ih]
      | some step => rw [hearAll_cons_of_some words hstep, ih, carryOut_grammar]

theorem hearAll_state :
    (listener.hearAll words).1.state =
      listener.grammar.stateAfter listener.state words := by
  induction words generalizing listener with
  | nil => rfl
  | cons word words ih =>
      cases hstep : listener.grammar.step? listener.state word with
      | none =>
          rw [hearAll_cons_of_none words hstep, ih,
            Grammar.stateAfter_cons_of_none words hstep]
      | some step =>
          rw [hearAll_cons_of_some words hstep, ih,
            Grammar.stateAfter_cons_of_some words hstep, carryOut_grammar,
            carryOut_state]

theorem calls_hearAll :
    calls (listener.hearAll words).2 =
      stepCalls listener.editor
        (listener.grammar.takenSteps listener.state words) := by
  induction words generalizing listener with
  | nil => rfl
  | cons word words ih =>
      cases hstep : listener.grammar.step? listener.state word with
      | none =>
          rw [hearAll_cons_of_none words hstep,
            Grammar.takenSteps_cons_of_none words hstep, ← ih]
          rfl
      | some step =>
          rw [calls_hearAll_cons_of_some words hstep, ih, carryOut_grammar, carryOut_state,
            carryOut_editor, Grammar.takenSteps_cons_of_some words hstep, stepCalls]

theorem navigation_hearAll :
    navigation (listener.hearAll words).2 =
      (stepCalls listener.editor
        (listener.grammar.takenSteps listener.state words)).filter Call.navigates := by
  rw [navigation, calls_hearAll]

theorem hearAll_editor :
    (listener.hearAll words).1.editor =
      (listener.grammar.takenSteps listener.state words).foldl
        (fun editor step => follow editor step.action) listener.editor := by
  induction words generalizing listener with
  | nil => rfl
  | cons word words ih =>
      cases hstep : listener.grammar.step? listener.state word with
      | none =>
          rw [hearAll_cons_of_none words hstep, ih,
            Grammar.takenSteps_cons_of_none words hstep]
      | some step =>
          rw [hearAll_cons_of_some words hstep, ih,
            Grammar.takenSteps_cons_of_some words hstep, carryOut_grammar,
            carryOut_state, carryOut_editor, List.foldl_cons]

theorem hearAll_editor_eq_foldl_cursorCalls :
    (listener.hearAll words).1.editor =
      (cursorCalls (listener.hearAll words).2).foldl LineSurface.setCursor
        listener.editor := by
  rw [hearAll_editor, cursorCalls, calls_hearAll]
  generalize listener.grammar.takenSteps listener.state words = steps
  generalize listener.editor = editor
  induction steps generalizing editor with
  | nil => rfl
  | cons step steps ih =>
      rw [List.foldl_cons, stepCalls, List.filterMap_append, List.foldl_append,
        cursors_of_step, ih]
      cases step.action <;> rfl

theorem cancelled_mem_hearAll_iff :
    .cancelled ∈ (listener.hearAll words).2 ↔
      listener.grammar.taken listener.state words ≠ [] := by
  have hcall (event : Event) : event.call? = some .cancel ↔ event = .cancelled := by
    cases event <;> simp [Event.call?]
  have hmem : .cancelled ∈ (listener.hearAll words).2 ↔
      .cancel ∈ calls (listener.hearAll words).2 := by
    simp [calls, hcall]
  rw [hmem, calls_hearAll, cancel_mem_stepCalls_iff, Grammar.takenSteps]
  simp

theorem hearAll_of_taken_eq_nil
    (hnone : listener.grammar.taken listener.state words = []) :
    (listener.hearAll words).1 = listener := by
  induction words with
  | nil => rfl
  | cons word words ih =>
      have hstep :=
        (Grammar.taken_eq_nil_iff (word :: words)).mp hnone word List.mem_cons_self
      rw [Grammar.taken_cons_of_none words hstep] at hnone
      rw [hearAll_cons_of_none words hstep, ih hnone]

end HearAll

end Listener

end VoiceCursor

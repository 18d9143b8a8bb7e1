import VoiceCursor.Proofs.Session.Feedback
import VoiceCursor.Proofs.Vocabulary.SameSpeech

namespace VoiceCursor

open Text

/-! Two sessions whose vocabularies no spoken word tells apart. The one is the other with
its vocabulary exchanged, and every operation keeps it so. -/

namespace Listener

variable {E F : Type}

def withVocabulary (listener : Listener E F) (vocabulary : Vocabulary) : Listener E F :=
  { listener with grammar := listener.grammar.withVocabulary vocabulary }

variable [LineSurface E] [WordSurface F]

theorem carryOut_withVocabulary (listener : Listener E F) (vocabulary : Vocabulary)
    (step : Step) :
    (listener.withVocabulary vocabulary).carryOut step =
      ((listener.carryOut step).1.withVocabulary vocabulary,
        (listener.carryOut step).2) := by
  obtain ⟨next, words, action⟩ := step
  cases words <;> cases action <;> rfl

/-- A vocabulary that may take the place of the one that a listener has. -/
def Allows (listener : Listener E F) (other : Vocabulary) : Prop :=
  listener.grammar.vocabulary.SameSpeech listener.grammar.allowsZero other

variable {listener : Listener E F} {other : Vocabulary}

theorem hearAll_withVocabulary (hallows : listener.Allows other) {text : String}
    {words : List String} (hwords : ∀ word ∈ words, word ∈ spokenWords text) :
    (listener.withVocabulary other).hearAll words =
      ((listener.hearAll words).1.withVocabulary other, (listener.hearAll words).2) := by
  induction words generalizing listener with
  | nil => rfl
  | cons word words ih =>
      obtain ⟨hword, hrest⟩ := List.forall_mem_cons.mp hwords
      have hsame : (listener.withVocabulary other).grammar.step? listener.state word =
          listener.grammar.step? listener.state word :=
        Grammar.step?_withVocabulary hallows hword listener.state
      cases hstep : listener.grammar.step? listener.state word with
      | none =>
          rw [hearAll_cons_of_none words (hsame.trans hstep), hearAll_cons_of_none words hstep,
            ih hallows hrest]
          rfl
      | some step =>
          have hnext : (listener.carryOut step).1.Allows other := by
            rw [Allows, carryOut_grammar]
            exact hallows
          rw [hearAll_cons_of_some words (hsame.trans hstep), hearAll_cons_of_some words hstep,
            carryOut_withVocabulary, ih hnext hrest]
          rfl

theorem listen_withVocabulary (hallows : listener.Allows other) (text : String) :
    (listener.withVocabulary other).listen text =
      ((listener.listen text).1.withVocabulary other, (listener.listen text).2) := by
  have hheard := hearAll_withVocabulary hallows fun _ (hword : _ ∈ spokenWords text) => hword
  have hstate : ((listener.withVocabulary other).hearAll (spokenWords text)).1.state =
      (listener.hearAll (spokenWords text)).1.state := by
    rw [hheard]
    rfl
  by_cases hidle : (listener.hearAll (spokenWords text)).1.state = .idle
  · rw [listen_of_idle _ (hstate.trans hidle), listen_of_idle _ hidle, hheard]
    rfl
  · rw [listen_of_pending _ (hstate ▸ hidle), listen_of_pending _ hidle, hheard]

end Listener

def Notice.event? : Notice → Option Event
  | .event told => some told
  | .dictating _ | .message _ => none

namespace Session

def eventsOf (session : Session) : Operation → List Event
  | .takeLine line => (session.takeLine line).notices.filterMap Notice.event?
  | .takeUtterance text => (session.takeUtterance text).2.1.filterMap Notice.event?
  | .listen text => (session.listen text).2
  | .abandon | .insert _ | .setCursor _ | .moveToLine _ => []

def eventsOfAll (session : Session) (operations : List Operation) : List Event :=
  (session.moments operations).flatMap fun moment => moment.session.eventsOf moment.operation

/-- Where two sessions end up is the same, and so is what happens on the way: which words are
heard in which state, which cancel dictation, what is shown and where the cursor is set. -/
structure RunAlike (first second : Session) (operations : List Operation) : Prop where
  state : (first.afterAll operations).state = (second.afterAll operations).state
  feedback : (first.afterAll operations).feedback = (second.afterAll operations).feedback
  editor : (first.afterAll operations).editor = (second.afterAll operations).editor
  events : first.eventsOfAll operations = second.eventsOfAll operations

theorem eventsOf_takeLine_of_not_isSpoken (session : Session) {line : String}
    (hspoken : isSpoken line = false) : session.eventsOf (.takeLine line) = [] := by
  rw [eventsOf]
  rcases isSpoken_eq_false_iff.mp hspoken with hblank | ⟨name, hslash⟩
  · rw [session.takeLine_of_blank hblank]
    rfl
  · rw [session.takeLine_of_slash hslash]
    cases Command.ofName (.ofList name) with
    | quit => rfl
    | reset => rfl
    | print =>
        rw [obey, List.filterMap_map, List.filterMap_eq_nil_iff]
        exact fun _ _ => rfl
    | help => rfl
    | unknown name => rfl

theorem eventsOf_takeLine_of_isSpoken (session : Session) {line : String}
    (hspoken : isSpoken line = true) :
    session.eventsOf (.takeLine line) =
      session.eventsOf (.takeUtterance (.ofList (trim isBlank line.toList))) := by
  rw [eventsOf, session.takeLine_eq_of_isSpoken hspoken, List.filterMap_append,
    eventsOf]
  exact List.append_nil _

theorem obey_withVocabulary (session : Session) (other : Vocabulary) (command : Command) :
    (obey (session.withVocabulary other) command).session =
      (session.obey command).session.withVocabulary other := by
  cases command with
  | quit => rfl
  | reset => rfl
  | print => rfl
  | help => rw [obey, obey]
  | unknown name => rfl

section WithVocabulary

variable {session : Session} {other : Vocabulary} (hallows : session.Allows other)

include hallows

theorem takeUtterance_withVocabulary (text : String) :
    takeUtterance (session.withVocabulary other) text =
      ((session.takeUtterance text).1.withVocabulary other, (session.takeUtterance text).2) := by
  rw [takeUtterance, takeUtterance, Listener.listen_withVocabulary hallows]
  cases session.listen text with
  | mk heard events =>
      dsimp only
      split
      · rfl
      · rfl

theorem takeLine_withVocabulary (line : String) :
    (takeLine (session.withVocabulary other) line).session =
      (session.takeLine line).session.withVocabulary other := by
  cases hspoken : isSpoken line with
  | true =>
      rw [takeLine_of_isSpoken _ hspoken, takeLine_of_isSpoken _ hspoken,
        takeUtterance_withVocabulary hallows]
  | false =>
      rcases isSpoken_eq_false_iff.mp hspoken with hblank | ⟨name, hslash⟩
      · rw [takeLine_of_blank _ hblank, takeLine_of_blank _ hblank]
      · rw [takeLine_of_slash _ hslash, takeLine_of_slash _ hslash, obey_withVocabulary]

theorem after_withVocabulary (operation : Operation) :
    after (session.withVocabulary other) operation =
      (session.after operation).withVocabulary other := by
  cases operation with
  | takeLine line => exact takeLine_withVocabulary hallows line
  | takeUtterance text => rw [after, takeUtterance_withVocabulary hallows, after]
  | listen text => rw [after, Listener.listen_withVocabulary hallows, after]
  | abandon => rfl
  | insert text => rfl
  | setCursor cursor => rfl
  | moveToLine line => rfl

theorem eventsOf_withVocabulary (operation : Operation) :
    eventsOf (session.withVocabulary other) operation = session.eventsOf operation := by
  cases operation with
  | takeLine line =>
      cases hspoken : isSpoken line with
      | true =>
          rw [eventsOf_takeLine_of_isSpoken _ hspoken, eventsOf_takeLine_of_isSpoken _ hspoken,
            eventsOf, eventsOf, takeUtterance_withVocabulary hallows]
      | false =>
          rw [eventsOf_takeLine_of_not_isSpoken _ hspoken,
            eventsOf_takeLine_of_not_isSpoken _ hspoken]
  | takeUtterance text => rw [eventsOf, eventsOf, takeUtterance_withVocabulary hallows]
  | listen text => rw [eventsOf, eventsOf, Listener.listen_withVocabulary hallows]
  | abandon => rfl
  | insert text => rfl
  | setCursor cursor => rfl
  | moveToLine line => rfl

theorem allows_after (operation : Operation) : (session.after operation).Allows other := by
  have hgrammar : (session.after operation).grammar = session.grammar :=
    (session.sameCommand_after operation).grammar.trans (session.grammar_afterHearing _)
  rw [Listener.Allows, hgrammar]
  exact hallows

theorem runAlike_withVocabulary (operations : List Operation) :
    RunAlike session (session.withVocabulary other) operations := by
  induction operations generalizing session with
  | nil => exact ⟨rfl, rfl, rfl, rfl⟩
  | cons operation operations ih =>
      have hrest := ih (allows_after hallows operation)
      have hnext := after_withVocabulary hallows operation
      rw [← hnext] at hrest
      refine ⟨hrest.state, hrest.feedback, hrest.editor, ?_⟩
      rw [eventsOfAll, moments, List.flatMap_cons, eventsOfAll, moments, List.flatMap_cons,
        eventsOf_withVocabulary hallows]
      exact congrArg _ hrest.events

end WithVocabulary

/-- A run is decided by what of the vocabulary speech can reach. -/
theorem runAlike_of_sameSpeech (token : String) (allowsZero : Bool) (buffer : Buffer)
    (operations : List Operation) :
    (∀ first second : Vocabulary, first.SameSpeech allowsZero second →
        RunAlike (start ⟨first, token, allowsZero⟩ buffer)
          (start ⟨second, token, allowsZero⟩ buffer) operations) ∧
      ∀ vocabulary : Vocabulary,
        RunAlike (start ⟨vocabulary, token, allowsZero⟩ buffer)
          (start ⟨vocabulary.speakable allowsZero, token, allowsZero⟩ buffer) operations := by
  have hexchange : ∀ first second : Vocabulary, first.SameSpeech allowsZero second →
      RunAlike (start ⟨first, token, allowsZero⟩ buffer)
        (start ⟨second, token, allowsZero⟩ buffer) operations := by
    intro first second hsame
    have hallows : (start ⟨first, token, allowsZero⟩ buffer).Allows second := hsame
    exact runAlike_withVocabulary hallows operations
  refine ⟨hexchange, ?_⟩
  intro vocabulary
  exact hexchange _ _ (vocabulary.sameSpeech_speakable allowsZero)

theorem runAlike_of_sameSpeech_ten_zero :
    let vocabulary : Vocabulary := .ofTables
      (.ofList [("Go", ["Gogh"]), ("ten", ["go", "line"])])
      (.ofList [("Home", 2), ("home!", 1), ("far away", 1)])
      (.ofList [("two", 2), ("2", 1), ("Zero", 0)])
    let spoken := vocabulary.speakable false
    let operations : List Operation :=
      [.takeLine "Gogh to Home!", .listen "line zero", .takeUtterance "ten"]
    let buffer := Buffer.ofText "one\ntwo"
    let session := start ⟨spoken, "lunchtime", false⟩ buffer
    vocabulary.SameSpeech false spoken ∧
      spoken.spellings.entries = [("go", ["gogh"])] ∧
      spoken.bookmarks.entries = [("home", 2)] ∧
      spoken.numbers.entries = [("two", 2)] ∧
      (session.afterAll operations).state = .afterLine ∧
      (session.afterAll operations).feedback.words = ["line"] ∧
      (session.afterAll operations).editor.text = "one\nten two" ∧
      (session.eventsOfAll operations).count .cancelled = 4 := by
  intro vocabulary spoken operations buffer session
  have hsame := vocabulary.sameSpeech_speakable false
  have halike := (runAlike_of_sameSpeech "lunchtime" false buffer operations).1 _ _ hsame
  refine ⟨hsame, by decide +kernel, by decide +kernel, by decide +kernel, ?_, ?_, ?_, ?_⟩
  · rw [← halike.state]
    decide +kernel
  · rw [← halike.feedback]
    decide +kernel
  · rw [← halike.editor]
    decide +kernel
  · rw [← halike.events]
    decide +kernel

end Session

end VoiceCursor

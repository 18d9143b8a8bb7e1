import VoiceCursor.Proofs.Listener.Words
import VoiceCursor.Proofs.Session.Utterance

namespace VoiceCursor

open Text

/-! What a session shows goes with its state. The words on show are those of the steps
taken since the session last settled, that is, since an utterance or a reset last left
no command pending. -/

inductive Hearing where
  | nothing
  | utterance (text : String)
  | abandonment
  deriving DecidableEq

def Command.hearing : Command → Hearing
  | .reset => .abandonment
  | .quit | .print | .help | .unknown _ => .nothing

def Operation.hearing : Operation → Hearing
  | .takeLine line =>
      if isSpoken line then .utterance (.ofList (trim isBlank line.toList))
      else
        match trim isBlank line.toList with
        | '/' :: name => (Command.ofName (.ofList name)).hearing
        | _ => .nothing
  | .takeUtterance text | .listen text => .utterance text
  | .abandon => .abandonment
  | .insert _ | .setCursor _ | .moveToLine _ => .nothing

structure Moment where
  session : Session
  operation : Operation

namespace Session

def afterHearing (session : Session) : Hearing → Session
  | .nothing => session
  | .utterance text => (session.listen text).1
  | .abandonment => session.abandon

def moments (session : Session) : List Operation → List Moment
  | [] => []
  | operation :: operations =>
      ⟨session, operation⟩ :: (session.after operation).moments operations

end Session

namespace Moment

/-- Whether an utterance or a reset leaves no command pending. -/
def settles (moment : Moment) : Bool :=
  moment.operation.hearing ≠ .nothing ∧
    (Session.afterHearing moment.session moment.operation.hearing).state = .idle

def steps (moment : Moment) : List Step :=
  match moment.operation.hearing with
  | .utterance text =>
      moment.session.grammar.takenSteps moment.session.state (spokenWords text)
  | .nothing | .abandonment => []

end Moment

namespace Session

/-- The steps taken since the session last settled, or since the first operation. -/
def recentSteps (session : Session) (operations : List Operation) : List Step :=
  ((session.moments operations).rtakeWhile fun moment => !moment.settles).flatMap
    Moment.steps

def pendingNote (session : Session) : String :=
  " | " ++ session.feedback.text ++ " (" ++ session.state.display ++ ")"

/-- Two sessions with the same command in progress. -/
structure SameCommand (first second : Session) : Prop where
  grammar : first.grammar = second.grammar
  state : first.state = second.state
  feedback : first.feedback = second.feedback

theorem grammar_afterHearing (session : Session) (hearing : Hearing) :
    (session.afterHearing hearing).grammar = session.grammar := by
  cases hearing with
  | nothing => rfl
  | utterance text =>
      rw [afterHearing, (session.alike_listen text).grammar, Listener.hearAll_grammar]
  | abandonment => rfl

theorem sameCommand_takeUtterance (session : Session) (text : String) :
    SameCommand (session.takeUtterance text).1 (session.listen text).1 := by
  by_cases htaken : session.takenFrom text = []
  · rw [(session.takeUtterance_dictation text htaken).1]
    exact ⟨rfl, rfl, rfl⟩
  · rw [(session.takeUtterance_command text htaken).1]
    exact ⟨rfl, rfl, rfl⟩

theorem sameCommand_obey (session : Session) (command : Command) :
    SameCommand (session.obey command).session (session.afterHearing command.hearing) := by
  cases command with
  | reset => exact ⟨rfl, rfl, rfl⟩
  | quit => exact ⟨rfl, rfl, rfl⟩
  | print => exact ⟨rfl, rfl, rfl⟩
  | help => exact ⟨rfl, rfl, rfl⟩
  | unknown name => exact ⟨rfl, rfl, rfl⟩

theorem sameCommand_takeLine (session : Session) (line : String) :
    SameCommand (session.takeLine line).session
      (session.afterHearing (Operation.takeLine line).hearing) := by
  rw [Operation.hearing]
  cases hspoken : isSpoken line with
  | true =>
      rw [if_pos rfl, session.takeLine_of_isSpoken hspoken, afterHearing]
      exact session.sameCommand_takeUtterance _
  | false =>
      rw [if_neg Bool.false_ne_true]
      rcases isSpoken_eq_false_iff.mp hspoken with hblank | ⟨name, hslash⟩
      · rw [session.takeLine_of_blank hblank, hblank]
        exact ⟨rfl, rfl, rfl⟩
      · rw [session.takeLine_of_slash hslash, hslash]
        exact session.sameCommand_obey _

theorem sameCommand_after (session : Session) (operation : Operation) :
    SameCommand (session.after operation) (session.afterHearing operation.hearing) := by
  cases operation with
  | takeLine line => exact session.sameCommand_takeLine line
  | takeUtterance text =>
      rw [after, Operation.hearing, afterHearing]
      exact session.sameCommand_takeUtterance text
  | listen text =>
      rw [after, Operation.hearing, afterHearing]
      exact ⟨rfl, rfl, rfl⟩
  | abandon => exact ⟨rfl, rfl, rfl⟩
  | insert text => exact ⟨rfl, rfl, rfl⟩
  | setCursor cursor => exact ⟨rfl, rfl, rfl⟩
  | moveToLine line => exact ⟨rfl, rfl, rfl⟩

/-- The session shows what the steps show, and they have led it from idle to its
state. -/
structure Shows (session : Session) (steps : List Step) : Prop where
  words_eq : session.feedback.words = wordsShown steps
  heard : ∃ words, steps = session.grammar.takenSteps .idle words ∧
    session.state = session.grammar.stateAfter .idle words

namespace Shows

variable {session other : Session} {steps : List Step}

theorem congr (hsame : SameCommand other session) (hshows : session.Shows steps) :
    other.Shows steps := by
  refine ⟨?_, ?_⟩
  · rw [hsame.feedback, hshows.words_eq]
  · rw [hsame.grammar, hsame.state]
    exact hshows.heard

theorem of_settled (hidle : session.state = .idle) (hclear : session.feedback = .empty) :
    session.Shows [] := by
  refine ⟨?_, [], rfl, hidle⟩
  rw [hclear]
  rfl

theorem wordsShown_pendingSteps_mem (hshows : session.Shows steps) :
    wordsShown (pendingSteps steps) ∈ session.state.shown := by
  obtain ⟨words, rfl, hstate⟩ := hshows.heard
  rw [hstate]
  exact Grammar.wordsShown_pendingSteps_mem words

theorem words_eq_append (hshows : session.Shows steps) :
    session.feedback.words =
      wordsShown (completedSteps steps) ++ wordsShown (pendingSteps steps) := by
  rw [← wordsShown_append, completedSteps_append_pendingSteps, hshows.words_eq]

theorem words_ne_nil (hshows : session.Shows steps) (hpending : session.state ≠ .idle) :
    session.feedback.words ≠ [] := by
  rw [hshows.words_eq_append]
  exact List.append_ne_nil_of_right_ne_nil _
    (State.ne_nil_of_mem_shown hshows.wordsShown_pendingSteps_mem hpending)

theorem listen (hshows : session.Shows steps) (text : String) :
    Session.Shows (session.listen text).1
      (if (session.listen text).1.state = .idle then []
        else steps ++ session.grammar.takenSteps session.state (spokenWords text)) := by
  by_cases hidle : (session.listen text).1.state = .idle
  · rw [if_pos hidle]
    exact of_settled hidle (session.clearWhenIdle_listen text hidle)
  · rw [if_neg hidle]
    rw [(session.alike_listen text).state] at hidle
    rw [session.listen_of_pending hidle]
    obtain ⟨words, hsteps, hstate⟩ := hshows.heard
    refine ⟨?_, words ++ spokenWords text, ?_, ?_⟩
    · rw [session.words_hearAll, hshows.words_eq, wordsShown_append]
    · rw [Listener.hearAll_grammar, Grammar.takenSteps_append, ← hsteps, ← hstate]
    · rw [Listener.hearAll_grammar, Listener.hearAll_state, Grammar.stateAfter_append,
        ← hstate]

theorem after (hshows : session.Shows steps) (operation : Operation) :
    (session.after operation).Shows
      (if Moment.settles ⟨session, operation⟩ then []
        else steps ++ Moment.steps ⟨session, operation⟩) := by
  apply congr (session.sameCommand_after operation)
  rw [Moment.settles, Moment.steps]
  dsimp only
  cases operation.hearing with
  | nothing =>
      rw [if_neg (by simp), List.append_nil]
      exact hshows
  | utterance text =>
      simpa only [afterHearing, ne_eq, reduceCtorEq, not_false_eq_true, true_and,
        decide_eq_true_eq] using hshows.listen text
  | abandonment =>
      rw [if_pos (by simp [afterHearing, Listener.abandon, Listener.clearWords])]
      exact of_settled rfl rfl

end Shows

theorem moments_concat (session : Session) (operations : List Operation)
    (operation : Operation) :
    session.moments (operations ++ [operation]) =
      session.moments operations ++ [⟨session.afterAll operations, operation⟩] := by
  induction operations generalizing session with
  | nil => rfl
  | cons first operations ih => rw [List.cons_append, moments, ih]; rfl

theorem recentSteps_concat (session : Session) (operations : List Operation)
    (operation : Operation) :
    session.recentSteps (operations ++ [operation]) =
      if Moment.settles ⟨session.afterAll operations, operation⟩ then []
      else session.recentSteps operations ++
        Moment.steps ⟨session.afterAll operations, operation⟩ := by
  rw [recentSteps, moments_concat, List.rtakeWhile_concat]
  split
  · rename_i hgoes
    rw [if_neg (by simpa using hgoes), List.flatMap_append, List.flatMap_singleton,
      recentSteps]
  · rename_i hsettles
    rw [if_pos (by simpa using hsettles), List.flatMap_nil]

theorem afterAll_concat (session : Session) (operations : List Operation)
    (operation : Operation) :
    session.afterAll (operations ++ [operation]) =
      (session.afterAll operations).after operation := by
  rw [afterAll, List.foldl_concat, afterAll]

theorem shows_afterAll (grammar : Grammar) (buffer : Buffer)
    (operations : List Operation) :
    ((start grammar buffer).afterAll operations).Shows
      ((start grammar buffer).recentSteps operations) := by
  induction operations using List.reverseRecOn with
  | nil => exact .of_settled rfl rfl
  | append_singleton operations operation ih =>
      rw [afterAll_concat, recentSteps_concat]
      exact ih.after operation

theorem grammar_afterAll (grammar : Grammar) (buffer : Buffer)
    (operations : List Operation) :
    ((start grammar buffer).afterAll operations).grammar = grammar := by
  induction operations using List.reverseRecOn with
  | nil => rfl
  | append_singleton operations operation ih =>
      rw [afterAll_concat, (sameCommand_after _ operation).grammar, grammar_afterHearing, ih]

theorem feedback_words_eq_nil_iff (grammar : Grammar) (buffer : Buffer)
    (operations : List Operation) :
    let session := (start grammar buffer).afterAll operations
    session.feedback.words = [] ↔ session.state = .idle := by
  intro session
  constructor
  · intro hwords
    by_contra hpending
    exact (shows_afterAll grammar buffer operations).words_ne_nil hpending hwords
  · intro hidle
    have hclear : session.ClearWhenIdle :=
      clearWhenIdle_afterAll (clearWhenIdle_start grammar buffer) operations
    rw [hclear hidle]
    rfl

theorem eq_start_of_idle {session : Session} (hclear : session.ClearWhenIdle)
    (hidle : session.state = .idle) :
    session = start session.grammar session.editor := by
  have hfeedback := hclear hidle
  cases session with
  | mk grammar state editor feedback =>
      cases hidle
      cases hfeedback
      rfl

section Status

variable (session : Session) (cancelled : Bool)

def report : String :=
  "[" ++ toString (session.editor.cursor.row + 1) ++ ":" ++
    toString (session.editor.cursor.column + 1) ++ "] " ++
    if cancelled then "command" else "dictated"

theorem status_eq :
    session.status cancelled =
      session.report cancelled ++
        if session.feedback.words = [] then "" else session.pendingNote := by
  simp only [status, report, pendingNote, Tray.isEmpty, List.isEmpty_iff]

theorem getLast?_report : (session.report cancelled).toList.getLast? = some 'd' := by
  rw [report, String.toList_append, List.getLast?_append]
  cases cancelled <;> rfl

theorem getLast?_pendingNote : session.pendingNote.toList.getLast? = some ')' := by
  rw [pendingNote, String.toList_append, List.getLast?_append]
  rfl

theorem pendingNote_suffix_status_iff :
    session.pendingNote.toList <:+ (session.status cancelled).toList ↔
      session.feedback.words ≠ [] := by
  rw [status_eq, String.toList_append]
  split
  · rename_i hwords
    refine iff_of_false ?_ (not_not_intro hwords)
    rintro ⟨rest, hrest⟩
    have hlast := congrArg List.getLast? hrest
    rw [List.getLast?_append, getLast?_pendingNote] at hlast
    simp [getLast?_report] at hlast
  · rename_i hwords
    exact iff_of_true (List.suffix_append _ _) hwords

end Status

/-- The words on show go with the state, and so does the last thing that is told of a
spoken line. A session without a command in progress is like a new one. -/
theorem feedback_follows_state (grammar : Grammar) (buffer : Buffer)
    (operations : List Operation) :
    let first := start grammar buffer
    let last := first.afterAll operations
    (last.feedback.words = [] ↔ last.state = .idle) ∧
      last.feedback.words = wordsShown (first.recentSteps operations) ∧
      (∀ line, isSpoken line = true →
        let next := (last.takeLine line).session
        ∃ status, (last.takeLine line).notices.getLast? = some (.message status) ∧
          (∃ cancelled, status = next.report cancelled ++
            if next.state = .idle then "" else next.pendingNote) ∧
          (next.pendingNote.toList <:+ status.toList ↔ next.state ≠ .idle)) ∧
      (∀ text, (last.listen text).1.state = .idle →
        (last.listen text).1 = start grammar (last.listen text).1.editor) ∧
      last.abandon = start grammar last.editor := by
  intro first last
  have hgrammar : last.grammar = grammar := grammar_afterAll grammar buffer operations
  refine ⟨feedback_words_eq_nil_iff grammar buffer operations,
    (shows_afterAll grammar buffer operations).words_eq, ?_, ?_, ?_⟩
  · intro line hspoken next
    have hwords : next.feedback.words = [] ↔ next.state = .idle := by
      have hnext := feedback_words_eq_nil_iff grammar buffer
        (operations ++ [.takeLine line])
      rwa [afterAll_concat] at hnext
    let cancelled := (last.takeUtterance (.ofList (trim isBlank line.toList))).2.2
    refine ⟨next.status cancelled, ?_, ⟨cancelled, ?_⟩, ?_⟩
    · simp only [next, last.takeLine_eq_of_isSpoken hspoken, List.getLast?_concat,
        cancelled]
    · simp only [status_eq, hwords]
    · rw [pendingNote_suffix_status_iff, Ne, hwords]
  · intro text hidle
    have hheard : (last.listen text).1.grammar = grammar := by
      rw [(last.alike_listen text).grammar, Listener.hearAll_grammar, hgrammar]
    rw [← hheard]
    exact eq_start_of_idle (last.clearWhenIdle_listen text) hidle
  · rw [← hgrammar]
    rfl

theorem feedback_follows_state_lunchtime :
    let grammar : Grammar := .ofVocabulary ⟨.empty, .empty, .empty⟩
    let last := (start grammar (.ofText "one\ntwo")).afterAll
      [.takeLine "hello", .listen "go"]
    isSpoken "Lunchtime!" = true ∧
      (∃ status,
        (last.takeLine "Lunchtime!").notices.getLast? = some (.message status) ∧
          " | go to line (line …)".toList <:+ status.toList) ∧
      (last.listen "to line 2").1.state = .idle ∧
      (last.listen "to line 2").1 =
        start grammar ⟨["hello one".toList, "two".toList], ⟨1, 0⟩⟩ := by
  intro grammar last
  have hspoken : isSpoken "Lunchtime!" = true := by decide +kernel
  have hidle : (last.listen "to line 2").1.state = .idle := by decide +kernel
  obtain ⟨-, -, hstatus, hnew, -⟩ := feedback_follows_state grammar (.ofText "one\ntwo")
    [.takeLine "hello", .listen "go"]
  obtain ⟨status, htold, -, hcarries⟩ := hstatus _ hspoken
  refine ⟨hspoken, ⟨status, htold, ?_⟩, hidle, (hnew _ hidle).trans ?_⟩
  · have hnote : (last.takeLine "Lunchtime!").session.pendingNote =
        " | go to line (line …)" := by decide +kernel
    rw [← hnote]
    exact hcarries.mpr (by decide +kernel)
  · have heditor : (last.listen "to line 2").1.editor =
        ⟨["hello one".toList, "two".toList], ⟨1, 0⟩⟩ := by decide +kernel
    rw [heditor]

/-- Words of completed commands stay on show before those of the command in progress,
and only they do. -/
theorem feedback_words_eq_pending_iff (grammar : Grammar) (buffer : Buffer)
    (operations : List Operation) :
    let first := start grammar buffer
    let last := first.afterAll operations
    let steps := first.recentSteps operations
    wordsShown (pendingSteps steps) ∈ last.state.shown ∧
      last.feedback.words =
        wordsShown (completedSteps steps) ++ wordsShown (pendingSteps steps) ∧
      (last.feedback.words = wordsShown (pendingSteps steps) ↔
        ∀ step ∈ completedSteps steps, step.words = []) := by
  intro first last steps
  have hshows : last.Shows steps := shows_afterAll grammar buffer operations
  refine ⟨hshows.wordsShown_pendingSteps_mem, hshows.words_eq_append, ?_⟩
  rw [hshows.words_eq_append, List.append_left_eq_self, wordsShown_eq_nil_iff]

theorem feedback_keeps_line_while_go_waits :
    let first := start (.ofVocabulary ⟨.empty, .empty, .empty⟩) (.ofText "a\nb")
    let last := first.afterAll [.listen "line 2 go"]
    last.state = .afterGo ∧ State.afterGo.shown = [["go"]] ∧
      wordsShown (pendingSteps (first.recentSteps [.listen "line 2 go"])) = ["go"] ∧
      last.feedback.words = ["line", "go"] := by
  decide +kernel

end Session

end VoiceCursor

import VoiceCursor.Proofs.Grammar.Role
import VoiceCursor.Proofs.Listener.Utterances
import VoiceCursor.Tray

namespace VoiceCursor

/-! What a listener takes from any speech is a row of whole commands and the beginning
of one more. The cursor is set once for each whole command, when its last word is
heard. -/

def commandShapes : List (List Role) := [
    [.bookmark], [.down], [.up], [.line, .number], [.go, .to, .line, .number],
    [.go, .token, .number], [.go, .to, .bookmark]]

def State.beginnings : State → List (List Role)
  | .idle => [[]]
  | .afterGo => [[.go]]
  | .afterGoTo => [[.go, .to]]
  | .afterLine => [[.line], [.go, .to, .line], [.go, .token]]

namespace Grammar

def HearsAs (grammar : Grammar) : State → List String → List Role → Prop
  | _, [], [] => True
  | state, word :: words, role :: roles =>
      grammar.role? state word = some role ∧ grammar.HearsAs role.next words roles
  | _, [], _ :: _ | _, _ :: _, [] => False

structure SpokenCommand (grammar : Grammar) where
  opening : List String
  last : String
  roles : List Role
  role : Role
  action : Action
  shape : roles ++ [role] ∈ commandShapes
  heard : grammar.HearsAs .idle (opening ++ [last]) (roles ++ [role])
  acts : grammar.action? last role = some action

structure PendingCommand (grammar : Grammar) where
  state : State
  words : List String
  roles : List Role
  shape : roles ∈ state.beginnings
  heard : grammar.HearsAs .idle words roles

/-- Speech cut into commands. -/
structure Reading (grammar : Grammar) where
  commands : List grammar.SpokenCommand
  pending : grammar.PendingCommand

variable {grammar : Grammar}

def SpokenCommand.words (command : grammar.SpokenCommand) : List String :=
  command.opening ++ [command.last]

def Reading.words (reading : grammar.Reading) : List String :=
  reading.commands.flatMap SpokenCommand.words ++ reading.pending.words

section Calls

variable {E : Type} [LineSurface E]

/-- Every word cancels the dictation, and after its last word a command sets the
cursor. -/
def SpokenCommand.calls (editor : E) (command : grammar.SpokenCommand) : List Call :=
  command.words.map (fun _ => .cancel) ++ [.setCursor (command.action.target editor)]

def commandCalls (editor : E) : List grammar.SpokenCommand → List Call
  | [] => []
  | command :: commands =>
      command.calls editor ++ commandCalls (follow editor command.action) commands

def Reading.calls (editor : E) (reading : grammar.Reading) : List Call :=
  commandCalls editor reading.commands ++ reading.pending.words.map fun _ => .cancel

end Calls

/-- The words of a listening that the state machine took, in order. -/
def acceptedWords (grammar : Grammar) (events : List Event) : List String :=
  events.filterMap fun
    | .heard word state => if (grammar.step? state word).isSome then some word else none
    | _ => none

end Grammar

def stateBehind (state : State) (roles : List Role) : State :=
  roles.foldl (fun _ role => role.next) state

theorem stateBehind_of_mem_beginnings {state : State} {roles : List Role}
    (hroles : roles ∈ state.beginnings) : stateBehind .idle roles = state := by
  have hall : ∀ roles ∈ state.beginnings, stateBehind .idle roles = state := by
    cases state <;> decide
  exact hall roles hroles

theorem stateBehind_of_mem_commandShapes {roles : List Role}
    (hroles : roles ∈ commandShapes) : stateBehind .idle roles = .idle := by
  have hall : ∀ roles ∈ commandShapes, stateBehind .idle roles = .idle := by decide
  exact hall roles hroles

theorem append_mem_of_mem_beginnings {state : State} {roles : List Role} {role : Role}
    (hroles : roles ∈ state.beginnings) (hrole : role ∈ state.roles) :
    if role.completes then roles ++ [role] ∈ commandShapes
    else roles ++ [role] ∈ role.next.beginnings := by
  have hall : ∀ roles ∈ state.beginnings, ∀ role ∈ state.roles,
      if role.completes then roles ++ [role] ∈ commandShapes
      else roles ++ [role] ∈ role.next.beginnings := by
    cases state <;> decide
  exact hall roles hroles role hrole

namespace Grammar

variable {grammar : Grammar}

theorem HearsAs.append {first second : List String} {roles others : List Role}
    {state : State} (hfirst : grammar.HearsAs state first roles)
    (hsecond : grammar.HearsAs (stateBehind state roles) second others) :
    grammar.HearsAs state (first ++ second) (roles ++ others) := by
  induction first generalizing state roles with
  | nil =>
      cases roles with
      | nil => exact hsecond
      | cons role roles => exact hfirst.elim
  | cons word words ih =>
      cases roles with
      | nil => exact hfirst.elim
      | cons role roles => exact ⟨hfirst.1, ih hfirst.2 hsecond⟩

theorem HearsAs.taken {words : List String} {roles : List Role} {state : State}
    (hheard : grammar.HearsAs state words roles) :
    grammar.takenWords state words = words ∧
      grammar.stateAfter state words = stateBehind state roles := by
  induction words generalizing state roles with
  | nil =>
      cases roles with
      | nil => exact ⟨rfl, rfl⟩
      | cons role roles => exact hheard.elim
  | cons word words ih =>
      cases roles with
      | nil => exact hheard.elim
      | cons role roles =>
          obtain ⟨hrole, hrest⟩ := hheard
          have hstep : grammar.step? state word = some (grammar.stepAs word role) := by
            rw [step?_eq, hrole, Option.map_some]
          obtain ⟨hwords, hstate⟩ := ih hrest
          rw [takenWords_cons_of_some words hstep, stateAfter_cons_of_some words hstep]
          exact ⟨congrArg (word :: ·) hwords, hstate⟩

theorem PendingCommand.hearsAs_append (pending : grammar.PendingCommand) {word : String}
    {role : Role} (hrole : grammar.role? pending.state word = some role) :
    grammar.HearsAs .idle (pending.words ++ [word]) (pending.roles ++ [role]) := by
  apply pending.heard.append
  rw [stateBehind_of_mem_beginnings pending.shape]
  exact ⟨hrole, trivial⟩

def PendingCommand.none : grammar.PendingCommand :=
  ⟨.idle, [], [], List.mem_singleton_self [], trivial⟩

def PendingCommand.extend (pending : grammar.PendingCommand) {word : String} {role : Role}
    (hrole : grammar.role? pending.state word = some role)
    (hopen : role.completes = false) : grammar.PendingCommand where
  state := role.next
  words := pending.words ++ [word]
  roles := pending.roles ++ [role]
  shape := by
    have hmem := append_mem_of_mem_beginnings pending.shape (mem_roles_of_role? hrole)
    simpa [hopen] using hmem
  heard := pending.hearsAs_append hrole

def PendingCommand.complete (pending : grammar.PendingCommand) {word : String}
    {role : Role} {action : Action}
    (hrole : grammar.role? pending.state word = some role)
    (hcompletes : role.completes = true)
    (haction : grammar.action? word role = some action) : grammar.SpokenCommand where
  opening := pending.words
  last := word
  roles := pending.roles
  role := role
  action := action
  shape := by
    have hmem := append_mem_of_mem_beginnings pending.shape (mem_roles_of_role? hrole)
    simpa [hcompletes] using hmem
  heard := pending.hearsAs_append hrole
  acts := haction

theorem PendingCommand.taken (pending : grammar.PendingCommand) :
    grammar.takenWords .idle pending.words = pending.words ∧
      grammar.stateAfter .idle pending.words = pending.state := by
  obtain ⟨hwords, hstate⟩ := pending.heard.taken
  exact ⟨hwords, hstate.trans (stateBehind_of_mem_beginnings pending.shape)⟩

theorem SpokenCommand.taken (command : grammar.SpokenCommand) :
    grammar.takenWords .idle command.words = command.words ∧
      grammar.stateAfter .idle command.words = .idle := by
  obtain ⟨hwords, hstate⟩ := command.heard.taken
  exact ⟨hwords, hstate.trans (stateBehind_of_mem_commandShapes command.shape)⟩

def Reading.cons (command : grammar.SpokenCommand) (reading : grammar.Reading) :
    grammar.Reading :=
  ⟨command :: reading.commands, reading.pending⟩

theorem Reading.words_cons (command : grammar.SpokenCommand) (reading : grammar.Reading) :
    (reading.cons command).words = command.words ++ reading.words := by
  simp [Reading.words, Reading.cons]

theorem Reading.taken (reading : grammar.Reading) :
    grammar.takenWords .idle reading.words = reading.words := by
  obtain ⟨commands, pending⟩ := reading
  induction commands with
  | nil => exact pending.taken.1
  | cons command commands ih =>
      obtain ⟨hwords, hstate⟩ := command.taken
      have hcons := Reading.words_cons command ⟨commands, pending⟩
      rw [Reading.cons] at hcons
      rw [hcons, takenWords_append, hwords, hstate, ih]

section Reading

variable {E : Type} [LineSurface E]

theorem Reading.calls_cons (editor : E) (command : grammar.SpokenCommand)
    (reading : grammar.Reading) :
    (reading.cons command).calls editor =
      command.calls editor ++ reading.calls (follow editor command.action) := by
  simp [Reading.calls, Reading.cons, commandCalls]

theorem Reading.count_cancel (editor : E) (reading : grammar.Reading) :
    (reading.calls editor).count .cancel = reading.words.length := by
  obtain ⟨commands, pending⟩ := reading
  induction commands generalizing editor with
  | nil => simp [Reading.calls, Reading.words, commandCalls, List.map_const']
  | cons command commands ih =>
      have hrest := ih (follow editor command.action)
      have hcalls := Reading.calls_cons editor command ⟨commands, pending⟩
      have hwords := Reading.words_cons command ⟨commands, pending⟩
      rw [Reading.cons] at hcalls hwords
      rw [hcalls, hwords, List.count_append, hrest, List.length_append]
      simp [SpokenCommand.calls, List.map_const']

theorem Reading.length_cursors (editor : E) (reading : grammar.Reading) :
    ((reading.calls editor).filterMap Call.cursor?).length = reading.commands.length := by
  obtain ⟨commands, pending⟩ := reading
  induction commands generalizing editor with
  | nil => simp [Reading.calls, commandCalls, Call.cursor?, List.map_const',
      List.filterMap_replicate]
  | cons command commands ih =>
      have hrest := ih (follow editor command.action)
      have hcalls := Reading.calls_cons editor command ⟨commands, pending⟩
      rw [Reading.cons] at hcalls
      rw [hcalls, List.filterMap_append, List.length_append, hrest, List.length_cons]
      simp [SpokenCommand.calls, Call.cursor?, List.map_const', List.filterMap_replicate,
        Nat.add_comm]

/-- A pending command and more speech make a reading: each word that is taken makes the
command longer or makes it whole. -/
theorem exists_reading (editor : E) (pending : grammar.PendingCommand)
    (words : List String) :
    ∃ reading : grammar.Reading,
      pending.words ++ grammar.takenWords pending.state words = reading.words ∧
      grammar.stateAfter pending.state words = reading.pending.state ∧
      pending.words.map (fun _ => .cancel) ++
          (stepCalls editor (grammar.takenSteps pending.state words)).filter
            Call.navigates =
        reading.calls editor := by
  induction words generalizing editor pending with
  | nil => exact ⟨⟨[], pending⟩, by simp [Reading.words], rfl, List.append_nil _⟩
  | cons word words ih =>
      cases hstep : grammar.step? pending.state word with
      | none =>
          obtain ⟨reading, hwords, hstate, hcalls⟩ := ih editor pending
          refine ⟨reading, ?_, ?_, ?_⟩
          · rw [takenWords_cons_of_none words hstep, hwords]
          · rw [stateAfter_cons_of_none words hstep, hstate]
          · rw [takenSteps_cons_of_none words hstep, hcalls]
      | some step =>
          have hmap := hstep
          rw [step?_eq] at hmap
          obtain ⟨role, hrole, rfl⟩ := Option.map_eq_some_iff.mp hmap
          have haction := action?_isSome_of_fits (fits_of_role? hrole)
          rw [takenWords_cons_of_some words hstep, stateAfter_cons_of_some words hstep,
            takenSteps_cons_of_some words hstep, stepCalls, List.filter_append,
            navigation_of_step]
          cases hcompletes : role.completes with
          | true =>
              rw [hcompletes] at haction
              obtain ⟨action, haction⟩ := Option.isSome_iff_exists.mp haction
              obtain ⟨reading, hwords, hstate, hcalls⟩ :=
                ih (follow editor action) PendingCommand.none
              have hidle := Role.next_of_completes hcompletes
              refine ⟨reading.cons (pending.complete hrole hcompletes haction), ?_, ?_, ?_⟩
              · rw [Reading.words_cons, ← hwords]
                simp [SpokenCommand.words, PendingCommand.complete, PendingCommand.none,
                  stepAs, hidle]
              · simpa [PendingCommand.none, stepAs, hidle, Reading.cons] using hstate
              · rw [Reading.calls_cons, PendingCommand.complete, ← hcalls]
                simp [SpokenCommand.calls, SpokenCommand.words, PendingCommand.none, stepAs,
                  hidle, haction]
          | false =>
              rw [hcompletes] at haction
              have hnone := Option.isSome_eq_false_iff.mp haction
              rw [Option.isNone_iff_eq_none] at hnone
              obtain ⟨reading, hwords, hstate, hcalls⟩ :=
                ih editor (pending.extend hrole hcompletes)
              refine ⟨reading, ?_, hstate, ?_⟩
              · rw [← hwords]
                simp [PendingCommand.extend, stepAs]
              · rw [← hcalls]
                simp [PendingCommand.extend, stepAs, hnone, follow]

end Reading

end Grammar

namespace Listener

open Grammar

variable {E F : Type} [LineSurface E] [WordSurface F] (listener : Listener E F)

theorem acceptedWords_carryOut (step : Step) :
    listener.grammar.acceptedWords (listener.carryOut step).2 = [] := by
  obtain ⟨next, words, action⟩ := step
  by_cases hchange : next = listener.state <;> cases words <;> cases action <;>
    simp [carryOut, showWords, perform, moveToLine, hchange, acceptedWords]

theorem acceptedWords_hearAll (words : List String) :
    listener.grammar.acceptedWords (listener.hearAll words).2 =
      listener.grammar.takenWords listener.state words := by
  induction words generalizing listener with
  | nil => rfl
  | cons word words ih =>
      cases hstep : listener.grammar.step? listener.state word with
      | none =>
          rw [hearAll_cons_of_none words hstep, takenWords_cons_of_none words hstep, ← ih]
          simp [acceptedWords, hstep]
      | some step =>
          have hrest := ih (listener.carryOut step).1
          have hquiet := listener.acceptedWords_carryOut step
          rw [carryOut_grammar, carryOut_state] at hrest
          rw [acceptedWords] at hquiet
          rw [hearAll_cons_of_some words hstep, takenWords_cons_of_some words hstep, ← hrest]
          simp [acceptedWords, hstep, hquiet]

theorem acceptedWords_listenAll (texts : List String) :
    listener.grammar.acceptedWords (listener.listenAll texts).2 =
      listener.grammar.takenWords listener.state (texts.flatMap spokenWords) := by
  rw [acceptedWords, listener.filterMap_listenAll rfl, ← acceptedWords,
    acceptedWords_hearAll]

/-- A listener is idle when it starts, and again when it has abandoned a command. -/
theorem listenAll_reading (hidle : listener.state = .idle) (texts : List String) :
    let grammar := listener.grammar
    let last := (listener.listenAll texts).1
    let events := (listener.listenAll texts).2
    (∃ reading : grammar.Reading,
      grammar.acceptedWords events = reading.words ∧
      (∀ state, (∃ roles ∈ state.beginnings,
          grammar.HearsAs .idle reading.pending.words roles) ↔ last.state = state) ∧
      navigation events = reading.calls listener.editor ∧
      (calls events).count .cancel = reading.words.length ∧
      (cursorCalls events).length = reading.commands.length ∧
      last.editor =
        (cursorCalls events).foldl LineSurface.setCursor listener.editor) ∧
    (grammar.acceptedWords events = texts.flatMap spokenWords ↔
      ∃ reading : grammar.Reading, reading.words = texts.flatMap spokenWords) := by
  dsimp only
  obtain ⟨reading, hwords, hpending, hcalls⟩ :=
    exists_reading listener.editor (.none : listener.grammar.PendingCommand)
      (texts.flatMap spokenWords)
  have haccepted : listener.grammar.acceptedWords (listener.listenAll texts).2 =
      reading.words := by
    rw [acceptedWords_listenAll, hidle]
    exact hwords
  have hstate : (listener.listenAll texts).1.state = reading.pending.state := by
    rw [listenAll_state, hidle]
    exact hpending
  have hnavigation : navigation (listener.listenAll texts).2 =
      reading.calls listener.editor := by
    rw [navigation_listenAll, navigation_hearAll, hidle]
    exact hcalls
  refine ⟨⟨reading, haccepted, ?_, hnavigation, ?_, ?_, listener.listenAll_editor texts⟩,
    ?_⟩
  · intro state
    constructor
    · rintro ⟨roles, hshape, hheard⟩
      let other : listener.grammar.PendingCommand :=
        ⟨state, reading.pending.words, roles, hshape, hheard⟩
      rw [hstate, ← reading.pending.taken.2]
      exact other.taken.2
    · rintro rfl
      rw [hstate]
      exact ⟨reading.pending.roles, reading.pending.shape, reading.pending.heard⟩
  · rw [count_cancel_eq_navigation, hnavigation, Reading.count_cancel]
  · rw [cursorCalls_eq_navigation, hnavigation, Reading.length_cursors]
  · constructor
    · intro hall
      exact ⟨reading, haccepted.symm.trans hall⟩
    · rintro ⟨whole, hwhole⟩
      rw [acceptedWords_listenAll, hidle, ← hwhole, whole.taken]

theorem listenAll_reading_down_go :
    let viewer : Listener Viewport Tray :=
      .start (.ofVocabulary ⟨.empty, .empty, .empty⟩) ⟨20, ⟨3, 5⟩⟩ .empty
    viewer.state = .idle ∧
      ∃ reading : viewer.grammar.Reading,
        reading.words = ["down", "go", "to", "line"] ∧
        reading.calls viewer.editor =
          [.cancel, .setCursor ⟨4, 0⟩, .cancel, .cancel, .cancel] := by
  intro viewer
  obtain ⟨⟨reading, hwords, _, hcalls, _⟩, _⟩ :=
    listenAll_reading viewer rfl ["Down, er, GO", "to the 7 line"]
  refine ⟨rfl, reading, hwords.symm.trans ?_, hcalls.symm.trans ?_⟩
  · decide +kernel
  · decide +kernel

end Listener

end VoiceCursor

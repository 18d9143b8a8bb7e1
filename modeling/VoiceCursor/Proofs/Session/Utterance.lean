import VoiceCursor.Proofs.Listener.Utterances
import VoiceCursor.Session

namespace VoiceCursor

open Text

/-! An utterance is a command or it is dictated, whatever was done to the session
before. -/

inductive Operation where
  | takeLine (line : String)
  | takeUtterance (text : String)
  | listen (text : String)
  | abandon
  | insert (text : String)
  | setCursor (cursor : Cursor)
  | moveToLine (line : Nat)

/-- Whether a line of input is an utterance, not a command to the program or blank. -/
def isSpoken (line : String) : Bool :=
  match trim isBlank line.toList with
  | [] => false
  | c :: _ => c ≠ '/'

theorem isSpoken_eq_false_iff {line : String} :
    isSpoken line = false ↔
      trim isBlank line.toList = [] ∨ ∃ name, trim isBlank line.toList = '/' :: name := by
  rw [isSpoken]
  cases trim isBlank line.toList with
  | nil => simp
  | cons c rest => simp

theorem Command.ofName_eq_quit_iff {name : String} :
    Command.ofName name = .quit ↔ lowercase name = "quit" ∨ lowercase name = "exit" := by
  rw [ofName]
  split <;> simp_all

theorem Command.ofName_eq_reset_iff {name : String} :
    Command.ofName name = .reset ↔ lowercase name = "reset" := by
  rw [ofName]
  split <;> simp_all

namespace Session

def after (session : Session) : Operation → Session
  | .takeLine line => (session.takeLine line).session
  | .takeUtterance text => (session.takeUtterance text).1
  | .listen text => (session.listen text).1
  | .abandon => session.abandon
  | .insert text =>
      { session with editor := LineSurface.insert session.editor text }
  | .setCursor cursor =>
      { session with editor := LineSurface.setCursor session.editor cursor }
  | .moveToLine line =>
      { session with editor := (VoiceCursor.moveToLine session.editor line).1 }

def afterAll (session : Session) (operations : List Operation) : Session :=
  operations.foldl after session

def takenFrom (session : Session) (text : String) : List String :=
  session.grammar.takenWords session.state (spokenWords text)

section TakeUtterance

variable (session : Session) (text : String)

theorem cancels_iff :
    (session.listen text).2.contains .cancelled = true ↔ session.takenFrom text ≠ [] := by
  rw [List.contains_iff_mem, Listener.cancelled_mem_listen_iff, takenFrom,
    Grammar.takenWords, Ne, Ne, List.map_eq_nil_iff]

theorem takeUtterance_command (htaken : session.takenFrom text ≠ []) :
    (session.takeUtterance text).1 = (session.listen text).1 ∧
      (session.takeUtterance text).2.2 = true := by
  have hcancels := (session.cancels_iff text).mpr htaken
  simp only [takeUtterance, hcancels, if_true, and_self]

theorem takeUtterance_dictation (htaken : session.takenFrom text = []) :
    (session.takeUtterance text).1 =
        { (session.listen text).1 with
          editor := session.editor.insert (text.toList ++ [' ']) } ∧
      (session.takeUtterance text).2.2 = false := by
  have hcancels : (session.listen text).2.contains .cancelled = false := by
    rw [Bool.eq_false_iff, Ne, cancels_iff]
    exact not_not_intro htaken
  have heditor : (session.listen text).1.editor = session.editor := by
    rw [session.listen_of_taken_eq_nil (List.map_eq_nil_iff.mp htaken)]
    split <;> rfl
  simp only [takeUtterance, hcancels, heditor, Bool.false_eq_true, if_false, and_self]

end TakeUtterance

theorem rows_listen (session : Session) (text : String) :
    (session.listen text).1.editor.rows = session.editor.rows := by
  apply session.editor_listen (fun buffer => buffer.rows = session.editor.rows)
  · intro buffer row hrows
    exact hrows
  · rfl

def ClearWhenIdle (session : Session) : Prop :=
  session.state = .idle → session.feedback = .empty

theorem clearWhenIdle_start (grammar : Grammar) (buffer : Buffer) :
    (start grammar buffer).ClearWhenIdle := fun _ => rfl

theorem clearWhenIdle_listen (session : Session) (text : String) :
    ClearWhenIdle (session.listen text).1 := by
  intro hidle
  rw [(session.alike_listen text).state] at hidle
  rw [session.listen_of_idle hidle]
  rfl

theorem clearWhenIdle_takeUtterance (session : Session) (text : String) :
    (session.takeUtterance text).1.ClearWhenIdle := by
  have hclear := session.clearWhenIdle_listen text
  by_cases htaken : session.takenFrom text = []
  · rw [(session.takeUtterance_dictation text htaken).1]
    generalize (session.listen text).1 = heard at hclear ⊢
    exact hclear
  · rw [(session.takeUtterance_command text htaken).1]
    exact hclear

theorem obey_session (session : Session) (command : Command) :
    (session.obey command).session = session ∨
      (session.obey command).session = session.abandon := by
  cases command with
  | reset => exact .inr rfl
  | quit => exact .inl rfl
  | print => exact .inl rfl
  | help => exact .inl rfl
  | unknown name => exact .inl rfl

section TakeLine

variable (session : Session) {line : String}

theorem takeLine_of_blank (hblank : trim isBlank line.toList = []) :
    session.takeLine line = ⟨session, [], false⟩ := by
  rw [takeLine, hblank]

theorem takeLine_of_slash {name : List Char} (hslash : trim isBlank line.toList = '/' :: name) :
    session.takeLine line = session.obey (.ofName (.ofList name)) := by
  rw [takeLine, hslash]
  rfl

theorem takeLine_of_not_isSpoken (hspoken : isSpoken line = false) :
    (session.takeLine line).session = session ∨
      (session.takeLine line).session = session.abandon := by
  rcases isSpoken_eq_false_iff.mp hspoken with hblank | ⟨name, hslash⟩
  · rw [session.takeLine_of_blank hblank]
    exact .inl rfl
  · rw [session.takeLine_of_slash hslash]
    exact session.obey_session _

theorem takeLine_eq_of_isSpoken (hspoken : isSpoken line = true) :
    let told := session.takeUtterance (.ofList (trim isBlank line.toList))
    session.takeLine line =
      ⟨told.1, told.2.1 ++ [.message (told.1.status told.2.2)], false⟩ := by
  rw [isSpoken] at hspoken
  rw [takeLine]
  cases htext : trim isBlank line.toList with
  | nil =>
      rw [htext] at hspoken
      contradiction
  | cons c rest =>
      rw [htext] at hspoken
      simp only [ne_eq, decide_not, Bool.not_eq_true', decide_eq_false_iff_not] at hspoken
      split
      · contradiction
      · rename_i hslash
        injection hslash with hc
        contradiction
      · cases session.takeUtterance (.ofList (c :: rest)) with
        | mk next told => rfl

theorem takeLine_of_isSpoken (hspoken : isSpoken line = true) :
    (session.takeLine line).session =
      (session.takeUtterance (.ofList (trim isBlank line.toList))).1 := by
  rw [session.takeLine_eq_of_isSpoken hspoken]

end TakeLine

theorem clearWhenIdle_after {session : Session} (hclear : session.ClearWhenIdle)
    (operation : Operation) : (session.after operation).ClearWhenIdle := by
  cases operation with
  | takeLine line =>
      rw [after]
      cases hspoken : isSpoken line with
      | true =>
          rw [session.takeLine_of_isSpoken hspoken]
          exact session.clearWhenIdle_takeUtterance _
      | false =>
          rcases session.takeLine_of_not_isSpoken hspoken with hsame | habandon
          · rw [hsame]
            exact hclear
          · rw [habandon]
            exact fun _ => rfl
  | takeUtterance text => exact session.clearWhenIdle_takeUtterance text
  | listen text => exact session.clearWhenIdle_listen text
  | abandon => exact fun _ => rfl
  | insert text => exact hclear
  | setCursor cursor => exact hclear
  | moveToLine line => exact hclear

theorem clearWhenIdle_afterAll {session : Session} (hclear : session.ClearWhenIdle)
    (operations : List Operation) : (session.afterAll operations).ClearWhenIdle := by
  induction operations generalizing session with
  | nil => exact hclear
  | cons operation operations ih => exact ih (clearWhenIdle_after hclear operation)

/-- An utterance is a command, and then the rows stay as they are, or it is dictated,
and then nothing but the document changes. -/
theorem takeUtterance_command_or_dictation (grammar : Grammar) (buffer : Buffer)
    (operations : List Operation) (text : String) :
    let session := (start grammar buffer).afterAll operations
    let next := (session.takeUtterance text).1
    let cancelled := (session.takeUtterance text).2.2
    (cancelled = true ∧ session.takenFrom text ≠ [] ∧
        next.editor.rows = session.editor.rows) ∨
      (cancelled = false ∧ session.takenFrom text = [] ∧
        next =
          { session with editor := session.editor.insert (text.toList ++ [' ']) }) := by
  intro session next cancelled
  have hclear : session.ClearWhenIdle :=
    clearWhenIdle_afterAll (clearWhenIdle_start grammar buffer) operations
  by_cases htaken : session.takenFrom text = []
  · obtain ⟨hnext, hcancelled⟩ := session.takeUtterance_dictation text htaken
    -- Hearing the words clears the tray if no command is pending; it is clear by then.
    have hsame : (session.listen text).1 = session := by
      rw [session.listen_of_taken_eq_nil (List.map_eq_nil_iff.mp htaken)]
      split
      · rename_i hidle
        rw [Listener.clearWords]
        exact congrArg (Listener.mk session.grammar session.state session.editor)
          (hclear hidle).symm
      · rfl
    rw [hsame] at hnext
    exact .inr ⟨hcancelled, htaken, hnext⟩
  · obtain ⟨hnext, hcancelled⟩ := session.takeUtterance_command text htaken
    refine .inl ⟨hcancelled, htaken, ?_⟩
    rw [show next = (session.listen text).1 from hnext, rows_listen]

end Session

end VoiceCursor

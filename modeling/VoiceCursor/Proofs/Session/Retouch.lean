import VoiceCursor.Proofs.Session.Dictation

namespace VoiceCursor

open Text

/-! Changes to the input that nothing comes of. White space around a line and lines that say
nothing to the session can be put in and taken out. -/

/-- Whether a line is blank, or a slash and a name that is not one of a command to end the
conversation or to start afresh. -/
def isInert (line : String) : Bool :=
  match trim isBlank line.toList with
  | [] => true
  | '/' :: name => lowercase (.ofList name) ∉ ["quit", "exit", "reset"]
  | _ => false

structure InertLine where
  text : String
  inert : isInert text = true

structure Margins where
  left : String
  right : String
  left_blank : left.toList.all isBlank = true
  right_blank : right.toList.all isBlank = true

def Margins.around (margins : Margins) (line : String) : String :=
  margins.left ++ line ++ margins.right

/-- A place in two inputs, one of which is retouched to get the other. -/
inductive Retouch where
  | keep (line : String) (before after : Margins)
  | insert (line : InertLine)
  | delete (line : InertLine)

namespace Retouch

def before? : Retouch → Option String
  | .keep line before _ => some (before.around line)
  | .insert _ => none
  | .delete line => some line.text

def after? : Retouch → Option String
  | .keep line _ after => some (after.around line)
  | .insert line => some line.text
  | .delete _ => none

def isKept : Retouch → Bool
  | .keep _ _ _ => true
  | .insert _ | .delete _ => false

end Retouch

def linesBefore (retouches : List Retouch) : List String := retouches.filterMap Retouch.before?

def linesAfter (retouches : List Retouch) : List String := retouches.filterMap Retouch.after?

theorem trim_around (margins : Margins) (line : String) :
    trim isBlank (margins.around line).toList = trim isBlank line.toList := by
  rw [Margins.around, String.toList_append, String.toList_append]
  exact trim_append_of_forall line.toList (List.all_eq_true.mp margins.left_blank)
    (List.all_eq_true.mp margins.right_blank)

namespace Session

variable (session : Session)

theorem takeLine_around (margins : Margins) (line : String) :
    session.takeLine (margins.around line) = session.takeLine line := by
  rw [takeLine, trim_around, takeLine]

theorem obey_of_ne {command : Command} (hquit : command ≠ .quit) (hreset : command ≠ .reset) :
    (session.obey command).session = session ∧ (session.obey command).quits = false := by
  cases command with
  | quit => contradiction
  | reset => contradiction
  | print => exact ⟨rfl, rfl⟩
  | help => exact ⟨rfl, rfl⟩
  | unknown name => exact ⟨rfl, rfl⟩

theorem takeLine_inert (line : InertLine) :
    (session.takeLine line.text).session = session ∧
      (session.takeLine line.text).quits = false := by
  obtain ⟨line, hinert⟩ := line
  rw [isInert] at hinert
  split at hinert
  · rename_i hblank
    rw [session.takeLine_of_blank hblank]
    exact ⟨rfl, rfl⟩
  · rename_i name hslash
    rw [session.takeLine_of_slash hslash]
    simp only [List.mem_cons, List.not_mem_nil, or_false, not_or, decide_eq_true_eq] at hinert
    obtain ⟨hquit, hexit, hreset⟩ := hinert
    apply session.obey_of_ne
    · rw [Ne, Command.ofName_eq_quit_iff, not_or]
      exact ⟨hquit, hexit⟩
    · rw [Ne, Command.ofName_eq_reset_iff]
      exact hreset
  · contradiction

theorem exists_message_of_mem_notices_obey (command : Command) :
    ∀ notice ∈ (session.obey command).notices, ∃ text, notice = .message text := by
  intro notice hnotice
  cases command with
  | quit => contradiction
  | reset => exact ⟨_, List.mem_singleton.mp hnotice⟩
  | print =>
      obtain ⟨text, -, hmessage⟩ := List.mem_map.mp hnotice
      exact ⟨text, hmessage.symm⟩
  | help => exact ⟨_, List.mem_singleton.mp hnotice⟩
  | unknown name => exact ⟨_, List.mem_singleton.mp hnotice⟩

theorem takeLine_slash {line : String} {name : List Char}
    (hslash : trim isBlank line.toList = '/' :: name) :
    (session.takeLine line).session.editor = session.editor ∧
      session.dictation? line = none ∧
      ∀ notice ∈ (session.takeLine line).notices, ∃ text, notice = .message text := by
  refine ⟨?_, ?_, ?_⟩
  · rw [session.takeLine_of_slash hslash]
    rcases session.obey_session (.ofName (.ofList name)) with hsame | habandon
    · rw [hsame]
    · rw [habandon]
      rfl
  · have hspoken : isSpoken line = false := isSpoken_eq_false_iff.mpr (.inr ⟨name, hslash⟩)
    simp [dictation?, hspoken]
  · rw [session.takeLine_of_slash hslash]
    exact session.exists_message_of_mem_notices_obey _

theorem takeLine_reset {line : String} {name : List Char}
    (hslash : trim isBlank line.toList = '/' :: name)
    (hreset : lowercase (.ofList name) = "reset") :
    session.takeLine line =
      ⟨{ session with state := .idle, feedback := .empty }, [.message "[reset]"], false⟩ := by
  rw [session.takeLine_of_slash hslash, Command.ofName_eq_reset_iff.mpr hreset]
  rfl

theorem takeLine_quit {line : String} {name : List Char}
    (hslash : trim isBlank line.toList = '/' :: name)
    (hquit : lowercase (.ofList name) = "quit" ∨ lowercase (.ofList name) = "exit") :
    session.takeLine line = ⟨session, [], true⟩ := by
  rw [session.takeLine_of_slash hslash, Command.ofName_eq_quit_iff.mpr hquit]
  rfl

/-- What the kept lines meet with in one of the two inputs: the session that each of them
finds, and the reply to it. -/
def keptReplies (session : Session) (side : Retouch → Option String) :
    List Retouch → List (Session × Reply)
  | [] => []
  | retouch :: retouches =>
      match side retouch with
      | none => session.keptReplies side retouches
      | some line =>
          let reply := session.takeLine line
          let later := reply.session.keptReplies side retouches
          if retouch.isKept then (session, reply) :: later else later

theorem keptReplies_retouched (retouches : List Retouch) :
    session.keptReplies Retouch.after? retouches =
      session.keptReplies Retouch.before? retouches := by
  induction retouches generalizing session with
  | nil => rfl
  | cons retouch retouches ih =>
      cases retouch with
      | keep line before after =>
          simp only [keptReplies, Retouch.before?, Retouch.after?, takeLine_around, ih]
      | insert line =>
          simp only [keptReplies, Retouch.before?, Retouch.after?, Retouch.isKept,
            (session.takeLine_inert line).1, ih]
          rfl
      | delete line =>
          simp only [keptReplies, Retouch.before?, Retouch.after?, Retouch.isKept,
            (session.takeLine_inert line).1, ih]
          rfl

theorem takeLines_retouched (retouches : List Retouch) :
    session.takeLines (linesAfter retouches) = session.takeLines (linesBefore retouches) := by
  induction retouches generalizing session with
  | nil => rfl
  | cons retouch retouches ih =>
      cases retouch with
      | keep line before after =>
          show ((session.takeLine (after.around line)).session).takeLines (linesAfter retouches) =
            ((session.takeLine (before.around line)).session).takeLines (linesBefore retouches)
          rw [takeLine_around, takeLine_around, ih]
      | insert line =>
          show ((session.takeLine line.text).session).takeLines (linesAfter retouches) =
            session.takeLines (linesBefore retouches)
          rw [(session.takeLine_inert line).1, ih]
      | delete line =>
          show session.takeLines (linesAfter retouches) =
            ((session.takeLine line.text).session).takeLines (linesBefore retouches)
          rw [(session.takeLine_inert line).1, ih]

end Session

end VoiceCursor

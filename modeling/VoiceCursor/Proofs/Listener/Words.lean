import Mathlib.Data.List.DropRight
import VoiceCursor.Proofs.Grammar.Role
import VoiceCursor.Proofs.Listener.Utterances
import VoiceCursor.Tray

namespace VoiceCursor

/-! The words that a listener shows. Of the steps that it takes, those after the last one
that ended a command belong to the command in progress, and the state tells which words
they show. -/

def State.shown : State → List (List String)
  | .idle => [[]]
  | .afterGo => [["go"]]
  | .afterGoTo => [["go", "to"]]
  | .afterLine => [["line"], ["go", "to", "line"]]

def wordsShown (steps : List Step) : List String := steps.flatMap Step.words

/-- The steps after the last that left the machine idle. -/
def pendingSteps (steps : List Step) : List Step :=
  steps.rtakeWhile fun step => step.next ≠ .idle

/-- The steps up to the last that left the machine idle. -/
def completedSteps (steps : List Step) : List Step :=
  steps.rdropWhile fun step => step.next ≠ .idle

@[simp] theorem wordsShown_append (first second : List Step) :
    wordsShown (first ++ second) = wordsShown first ++ wordsShown second :=
  List.flatMap_append

theorem wordsShown_eq_nil_iff (steps : List Step) :
    wordsShown steps = [] ↔ ∀ step ∈ steps, step.words = [] :=
  List.flatMap_eq_nil_iff

theorem completedSteps_append_pendingSteps (steps : List Step) :
    completedSteps steps ++ pendingSteps steps = steps :=
  List.rdropWhile_append_rtakeWhile

theorem pendingSteps_concat_of_idle (steps : List Step) {step : Step}
    (hidle : step.next = .idle) : pendingSteps (steps ++ [step]) = [] := by
  apply List.rtakeWhile_concat_neg
  simp [hidle]

theorem pendingSteps_concat_of_pending (steps : List Step) {step : Step}
    (hpending : step.next ≠ .idle) :
    pendingSteps (steps ++ [step]) = pendingSteps steps ++ [step] := by
  apply List.rtakeWhile_concat_pos
  simpa using hpending

theorem State.ne_nil_of_mem_shown {state : State} {words : List String}
    (hwords : words ∈ state.shown) (hpending : state ≠ .idle) : words ≠ [] := by
  have hall : ∀ words ∈ state.shown, words ≠ [] := by
    cases state with
    | idle => contradiction
    | afterGo => decide
    | afterGoTo => decide
    | afterLine => decide
  exact hall words hwords

namespace Grammar

variable {grammar : Grammar}

theorem append_mem_shown {state : State} {word : String} {step : Step}
    {words : List String} (hstep : grammar.step? state word = some step)
    (hwords : words ∈ state.shown) (hpending : step.next ≠ .idle) :
    words ++ step.words ∈ step.next.shown := by
  rw [step?_eq] at hstep
  obtain ⟨role, hrole, rfl⟩ := Option.map_eq_some_iff.mp hstep
  have hall : ∀ words ∈ state.shown, ∀ role ∈ state.roles, role.next ≠ .idle →
      words ++ role.words ∈ role.next.shown := by
    cases state <;> decide
  exact hall words hwords role (mem_roles_of_role? hrole) hpending

theorem wordsShown_pendingSteps_mem (words : List String) :
    wordsShown (pendingSteps (grammar.takenSteps .idle words)) ∈
      (grammar.stateAfter .idle words).shown := by
  induction words using List.reverseRecOn with
  | nil => exact List.mem_singleton_self []
  | append_singleton words word ih =>
      rw [takenSteps_append, stateAfter_append]
      cases hstep : grammar.step? (grammar.stateAfter .idle words) word with
      | none =>
          rw [takenSteps_cons_of_none [] hstep, stateAfter_cons_of_none [] hstep,
            takenSteps_nil, List.append_nil]
          exact ih
      | some step =>
          rw [takenSteps_cons_of_some [] hstep, stateAfter_cons_of_some [] hstep,
            takenSteps_nil, stateAfter_nil]
          by_cases hidle : step.next = .idle
          · rw [pendingSteps_concat_of_idle _ hidle, hidle]
            exact List.mem_singleton_self []
          · rw [pendingSteps_concat_of_pending _ hidle, wordsShown_append]
            have hmem := append_mem_shown hstep ih hidle
            rwa [← List.flatMap_singleton Step.words step] at hmem

end Grammar

namespace Listener

variable {E : Type} [LineSurface E] (listener : Listener E Tray)

theorem words_carryOut (step : Step) :
    (listener.carryOut step).1.feedback.words = listener.feedback.words ++ step.words := by
  rw [carryOut_feedback]
  cases hwords : step.words with
  | nil => simp
  | cons word words => rfl

theorem words_hearAll (words : List String) :
    (listener.hearAll words).1.feedback.words =
      listener.feedback.words ++
        wordsShown (listener.grammar.takenSteps listener.state words) := by
  induction words generalizing listener with
  | nil => exact (List.append_nil _).symm
  | cons word words ih =>
      cases hstep : listener.grammar.step? listener.state word with
      | none =>
          rw [hearAll_cons_of_none words hstep, ih,
            Grammar.takenSteps_cons_of_none words hstep]
      | some step =>
          rw [hearAll_cons_of_some words hstep, ih, carryOut_grammar, carryOut_state,
            words_carryOut, Grammar.takenSteps_cons_of_some words hstep, List.append_assoc]
          rfl

end Listener

end VoiceCursor

import VoiceCursor.Grammar

namespace VoiceCursor.Grammar

/-! The words of a speech that mean something where they are heard. The others are
passed over and leave the state as it is. -/

/-- The words that are taken, each with its effect. -/
def taken (grammar : Grammar) (state : State) : List String → List (String × Step)
  | [] => []
  | word :: words =>
      match grammar.step? state word with
      | none => grammar.taken state words
      | some step => (word, step) :: grammar.taken step.next words

def takenWords (grammar : Grammar) (state : State) (words : List String) : List String :=
  (grammar.taken state words).map Prod.fst

def takenSteps (grammar : Grammar) (state : State) (words : List String) : List Step :=
  (grammar.taken state words).map Prod.snd

def stateAfter (grammar : Grammar) (state : State) : List String → State
  | [] => state
  | word :: words =>
      match grammar.step? state word with
      | none => grammar.stateAfter state words
      | some step => grammar.stateAfter step.next words

variable {grammar : Grammar} {state : State} {word : String} {step : Step}

@[simp] theorem taken_nil : grammar.taken state [] = [] := rfl

@[simp] theorem takenWords_nil : grammar.takenWords state [] = [] := rfl

@[simp] theorem takenSteps_nil : grammar.takenSteps state [] = [] := rfl

@[simp] theorem stateAfter_nil : grammar.stateAfter state [] = state := rfl

section Cons

variable (words : List String)

theorem taken_cons_of_none (hstep : grammar.step? state word = none) :
    grammar.taken state (word :: words) = grammar.taken state words := by
  simp only [taken, hstep]

theorem taken_cons_of_some (hstep : grammar.step? state word = some step) :
    grammar.taken state (word :: words) =
      (word, step) :: grammar.taken step.next words := by
  simp only [taken, hstep]

theorem takenWords_cons_of_none (hstep : grammar.step? state word = none) :
    grammar.takenWords state (word :: words) = grammar.takenWords state words := by
  rw [takenWords, taken_cons_of_none words hstep, takenWords]

theorem takenWords_cons_of_some (hstep : grammar.step? state word = some step) :
    grammar.takenWords state (word :: words) =
      word :: grammar.takenWords step.next words := by
  rw [takenWords, taken_cons_of_some words hstep, List.map_cons, takenWords]

theorem takenSteps_cons_of_none (hstep : grammar.step? state word = none) :
    grammar.takenSteps state (word :: words) = grammar.takenSteps state words := by
  rw [takenSteps, taken_cons_of_none words hstep, takenSteps]

theorem takenSteps_cons_of_some (hstep : grammar.step? state word = some step) :
    grammar.takenSteps state (word :: words) =
      step :: grammar.takenSteps step.next words := by
  rw [takenSteps, taken_cons_of_some words hstep, List.map_cons, takenSteps]

theorem stateAfter_cons_of_none (hstep : grammar.step? state word = none) :
    grammar.stateAfter state (word :: words) = grammar.stateAfter state words := by
  simp only [stateAfter, hstep]

theorem stateAfter_cons_of_some (hstep : grammar.step? state word = some step) :
    grammar.stateAfter state (word :: words) = grammar.stateAfter step.next words := by
  simp only [stateAfter, hstep]

end Cons

theorem stateAfter_append (state : State) (first second : List String) :
    grammar.stateAfter state (first ++ second) =
      grammar.stateAfter (grammar.stateAfter state first) second := by
  induction first generalizing state with
  | nil => rfl
  | cons word words ih =>
      rw [List.cons_append]
      cases hstep : grammar.step? state word with
      | none => rw [stateAfter_cons_of_none _ hstep, stateAfter_cons_of_none _ hstep, ih]
      | some step =>
          rw [stateAfter_cons_of_some _ hstep, stateAfter_cons_of_some _ hstep, ih]

theorem taken_append (state : State) (first second : List String) :
    grammar.taken state (first ++ second) =
      grammar.taken state first ++ grammar.taken (grammar.stateAfter state first) second := by
  induction first generalizing state with
  | nil => rfl
  | cons word words ih =>
      rw [List.cons_append]
      cases hstep : grammar.step? state word with
      | none =>
          rw [taken_cons_of_none _ hstep, taken_cons_of_none _ hstep,
            stateAfter_cons_of_none _ hstep, ih]
      | some step =>
          rw [taken_cons_of_some _ hstep, taken_cons_of_some _ hstep,
            stateAfter_cons_of_some _ hstep, ih, List.cons_append]

theorem takenWords_append (state : State) (first second : List String) :
    grammar.takenWords state (first ++ second) =
      grammar.takenWords state first ++
        grammar.takenWords (grammar.stateAfter state first) second := by
  rw [takenWords, taken_append, List.map_append, takenWords, takenWords]

theorem takenSteps_append (state : State) (first second : List String) :
    grammar.takenSteps state (first ++ second) =
      grammar.takenSteps state first ++
        grammar.takenSteps (grammar.stateAfter state first) second := by
  rw [takenSteps, taken_append, List.map_append, takenSteps, takenSteps]

theorem taken_eq_nil_iff (words : List String) :
    grammar.taken state words = [] ↔ ∀ word ∈ words, grammar.step? state word = none := by
  induction words with
  | nil => simp
  | cons word words ih =>
      cases hstep : grammar.step? state word with
      | none => simp [taken_cons_of_none _ hstep, ih, hstep]
      | some step => simp [taken_cons_of_some _ hstep, hstep]

end VoiceCursor.Grammar

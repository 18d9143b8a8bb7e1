import VoiceCursor.Proofs.Grammar.Role
import VoiceCursor.Proofs.Listener.Utterances
import VoiceCursor.Proofs.SpokenNumber
import VoiceCursor.Tray

namespace VoiceCursor

/-! Where jumps land. A word asks for a line by a number that nothing limits; the numbers
at hand stop at the largest, and no editor has so many lines that this could be noticed. -/

theorem Role.words_of_completes {role : Role} (hcompletes : role.completes = true) :
    role.words = [] := by
  cases role <;> simp_all [completes, words]

/-- What is reckoned for an exact number: that number, or the largest if it is beyond. -/
def ExactOrLargest (reckoned exact : Nat) : Prop :=
  reckoned = exact ∨ reckoned = largestNumber ∧ largestNumber < exact

theorem exactOrLargest_min (exact : Nat) :
    ExactOrLargest (min exact largestNumber) exact := by
  rw [ExactOrLargest]
  omega

theorem ExactOrLargest.landingLine_eq {reckoned exact lineCount : Nat}
    (hreckoned : ExactOrLargest reckoned exact) (hlines : lineCount ≤ largestNumber) :
    landingLine lineCount reckoned = landingLine lineCount exact := by
  have hone : 1 ≤ largestNumber := by decide
  simp only [landingLine]
  rcases hreckoned with rfl | ⟨rfl, hbeyond⟩
  · rfl
  · omega

namespace Grammar

/-- The line that a word asks for in a role when the cursor is in `row`. A word for zero asks
for a line only where that is allowed. -/
def lineAsked? (grammar : Grammar) (row : Nat) (word : String) : Role → Option Nat
  | .down => some (row + 2)
  | .up => some row
  | .bookmark => grammar.vocabulary.bookmark? word
  | .number =>
      if isDigitRun word then some (decimalValue word.toList)
      else (grammar.vocabulary.numbers.lookup? word).filter fun line =>
        line ≠ 0 || grammar.allowsZero
  | .go | .line | .to | .token => none

variable (grammar : Grammar) {state : State} {word : String}

theorem lineNumber?_of_not_isDigitRun (hword : isDigitRun word = false) :
    grammar.lineNumber? word =
      (grammar.vocabulary.numbers.lookup? word).filter fun line =>
        line ≠ 0 || grammar.allowsZero := by
  simp only [lineNumber?, Vocabulary.number?, NumberTable.number?, hword, Bool.false_eq_true,
    if_false]

theorem step?_afterLine_isSome_iff :
    (grammar.step? .afterLine word).isSome = true ↔
      isDigitRun word = true ∨ ∃ value, grammar.vocabulary.numbers.lookup? word = some value ∧
        (value ≠ 0 ∨ grammar.allowsZero = true) := by
  rw [step?, Option.isSome_map]
  cases hword : isDigitRun word with
  | true => simp [lineNumber?, hword]
  | false =>
      rw [grammar.lineNumber?_of_not_isDigitRun hword]
      cases grammar.vocabulary.numbers.lookup? word <;> simp

theorem action?_asks (word : String) (row : Nat) (role : Role) :
    (grammar.action? word role = none ∧ grammar.lineAsked? row word role = none) ∨
      ∃ action asked, grammar.action? word role = some action ∧
        grammar.lineAsked? row word role = some asked ∧
        ExactOrLargest (action.destination row) asked := by
  cases role with
  | go => exact .inl ⟨rfl, rfl⟩
  | line => exact .inl ⟨rfl, rfl⟩
  | «to» => exact .inl ⟨rfl, rfl⟩
  | token => exact .inl ⟨rfl, rfl⟩
  | down => exact .inr ⟨.down, row + 2, rfl, rfl, exactOrLargest_min (row + 2)⟩
  | up => exact .inr ⟨.up, row, rfl, rfl, .inl rfl⟩
  | bookmark =>
      cases hline : grammar.vocabulary.bookmark? word with
      | none => exact .inl ⟨by rw [action?, hline]; rfl, hline⟩
      | some line => exact .inr ⟨.toLine line, line, by rw [action?, hline]; rfl, hline, .inl rfl⟩
  | number =>
      cases hword : isDigitRun word with
      | true =>
          refine .inr ⟨.toLine (cappedValue word), decimalValue word.toList, ?_, ?_, ?_⟩
          · rw [action?, lineNumber?, if_pos hword]
            rfl
          · rw [lineAsked?, if_pos hword]
          · rw [Action.destination, cappedValue_of_isDigitRun hword]
            exact exactOrLargest_min _
      | false =>
          have hsame := grammar.lineNumber?_of_not_isDigitRun hword
          have hasked : grammar.lineAsked? row word .number = grammar.lineNumber? word := by
            rw [lineAsked?, hword, hsame]
            rfl
          cases hline : grammar.lineNumber? word with
          | none => exact .inl ⟨by rw [action?, hline]; rfl, hasked.trans hline⟩
          | some line =>
              exact .inr ⟨.toLine line, line, by rw [action?, hline]; rfl,
                hasked.trans hline, .inl rfl⟩

theorem eq_complete_of_action {step : Step} {action : Action}
    (hstep : grammar.step? state word = some step) (haction : step.action = some action) :
    step = .complete action := by
  rw [step?_eq] at hstep
  obtain ⟨role, hrole, rfl⟩ := Option.map_eq_some_iff.mp hstep
  have hcompletes : role.completes = true := by
    rw [← action?_isSome_of_fits (fits_of_role? hrole), Option.isSome_iff_exists]
    exact ⟨action, haction⟩
  rw [stepAs, Role.next_of_completes hcompletes, Role.words_of_completes hcompletes,
    Step.complete, Step.mk.injEq]
  exact ⟨rfl, rfl, haction⟩

section Landings

variable {E : Type} [LineSurface E]

/-- Where a word sets the cursor, if it does, by the line that it asks for. -/
def landing? (grammar : Grammar) (editor : E) (state : State) (word : String) :
    Option Cursor := do
  let role ← grammar.role? state word
  let asked ← grammar.lineAsked? (LineSurface.cursor editor).row word role
  return ⟨max 1 (min asked (max (LineSurface.lineCount editor) 1)) - 1, 0⟩

def landings (grammar : Grammar) (editor : E) (state : State) : List String → List Cursor
  | [] => []
  | word :: words =>
      let next := grammar.stateAfter state [word]
      match grammar.landing? editor state word with
      | none => grammar.landings editor next words
      | some cursor => cursor :: grammar.landings (LineSurface.setCursor editor cursor) next words

theorem target_eq_landing? (state : State) (word : String) (editor : E)
    (hlines : LineSurface.lineCount editor ≤ largestNumber) :
    ((grammar.step? state word).bind Step.action).map (Action.target editor) =
      grammar.landing? editor state word := by
  rw [step?_eq, landing?]
  cases hrole : grammar.role? state word with
  | none => rfl
  | some role =>
      have haction : (grammar.stepAs word role).action = grammar.action? word role := rfl
      rw [Option.map_some, Option.bind_some, haction]
      rcases grammar.action?_asks word (LineSurface.cursor editor).row role with
        ⟨hnone, hasked⟩ | ⟨action, asked, hsome, hasked, hexact⟩
      · rw [hnone, Option.bind_eq_bind, Option.bind_some, hasked]
        rfl
      · rw [hsome, Option.bind_eq_bind, Option.bind_some, hasked, Option.map_some, Action.target,
          hexact.landingLine_eq hlines]
        rfl

theorem cursors_of_takenSteps (editor : E) (state : State) (words : List String)
    (hlines : ∀ cursors : List Cursor,
      LineSurface.lineCount (cursors.foldl LineSurface.setCursor editor) ≤ largestNumber) :
    (stepCalls editor (grammar.takenSteps state words)).filterMap Call.cursor? =
      grammar.landings editor state words := by
  induction words generalizing editor state with
  | nil => rfl
  | cons word words ih =>
      have hfirst : LineSurface.lineCount editor ≤ largestNumber := hlines []
      have hlanding := grammar.target_eq_landing? state word editor hfirst
      rw [landings]
      cases hstep : grammar.step? state word with
      | none =>
          rw [hstep] at hlanding
          rw [takenSteps_cons_of_none words hstep, stateAfter_cons_of_none [] hstep, ← hlanding,
            ih editor state hlines]
          rfl
      | some step =>
          rw [hstep, Option.bind_some] at hlanding
          rw [takenSteps_cons_of_some words hstep, stateAfter_cons_of_some [] hstep, ← hlanding,
            stepCalls, List.filterMap_append, cursors_of_step]
          cases step.action with
          | none => rw [follow, ih _ _ hlines]; rfl
          | some action => rw [follow, ih _ _ fun cursors => hlines (_ :: cursors)]; rfl

end Landings

end Grammar

namespace Listener

variable {E F : Type} [LineSurface E] [WordSurface F] (listener : Listener E F)

theorem hear_complete {word : String} {action : Action}
    (hstep : listener.grammar.step? listener.state word = some (.complete action)) :
    let requested := action.destination (LineSurface.cursor listener.editor).row
    let line := landingLine (LineSurface.lineCount listener.editor) requested
    calls (listener.hear word).2 = [.cancel, .setCursor ⟨line - 1, 0⟩] ∧
      .moved action requested line ∈ (listener.hear word).2 ∧
      (listener.hear word).1.editor = LineSurface.setCursor listener.editor ⟨line - 1, 0⟩ := by
  intro requested line
  rw [hear, hstep]
  refine ⟨listener.calls_carryOut (.complete action), ?_, rfl⟩
  simp [carryOut, Step.complete, showWords, perform, moveToLine, requested, line]

/-- Every action sets the cursor once, to the line that is asked for or the nearest there
is. -/
theorem jumps_land_exactly
    (hlines : ∀ cursors : List Cursor,
      LineSurface.lineCount (cursors.foldl LineSurface.setCursor listener.editor) ≤
        largestNumber) :
    let grammar := listener.grammar
    let last := max (LineSurface.lineCount listener.editor) 1
    let row := (LineSurface.cursor listener.editor).row
    (∀ word step action, grammar.step? listener.state word = some step →
        step.action = some action →
        ∃ role asked requested landed,
          grammar.role? listener.state word = some role ∧
          grammar.lineAsked? row word role = some asked ∧
          ExactOrLargest requested asked ∧
          landed + 1 = max 1 (min asked last) ∧ landed < last ∧
          .moved action requested (landed + 1) ∈ (listener.hear word).2 ∧
          calls (listener.hear word).2 = [.cancel, .setCursor ⟨landed, 0⟩] ∧
          (listener.hear word).1.editor =
            LineSurface.setCursor listener.editor ⟨landed, 0⟩) ∧
      (∀ word, (grammar.step? .afterLine word).isSome = true ↔
        isDigitRun word = true ∨
          ∃ value, grammar.vocabulary.numbers.lookup? word = some value ∧
            (value ≠ 0 ∨ grammar.allowsZero = true)) ∧
      ∀ text, cursorCalls (listener.listen text).2 =
        grammar.landings listener.editor listener.state (spokenWords text) := by
  intro grammar last row
  refine ⟨?_, fun word => grammar.step?_afterLine_isSome_iff, ?_⟩
  · intro word step action hstep haction
    obtain rfl := grammar.eq_complete_of_action hstep haction
    have hmap := hstep
    rw [Grammar.step?_eq] at hmap
    obtain ⟨role, hrole, hstepAs⟩ := Option.map_eq_some_iff.mp hmap
    have hact : grammar.action? word role = some action := congrArg Step.action hstepAs
    rcases grammar.action?_asks word row role with
      ⟨hnone, -⟩ | ⟨other, asked, hother, hasked, hexact⟩
    · rw [hact] at hnone
      contradiction
    · obtain rfl := Option.some.inj (hact.symm.trans hother)
      have hfirst : LineSurface.lineCount listener.editor ≤ largestNumber := hlines []
      obtain ⟨hcalls, hmoved, heditor⟩ := listener.hear_complete hstep
      rw [hexact.landingLine_eq hfirst] at hcalls hmoved heditor
      have hline : landingLine (LineSurface.lineCount listener.editor) asked - 1 + 1 =
          max 1 (min asked last) := by
        rw [landingLine]
        omega
      refine ⟨role, asked, _, _, hrole, hasked, hexact, hline, ?_, ?_, hcalls, heditor⟩
      · omega
      · rw [hline]
        exact hmoved
  · intro text
    rw [cursorCalls_eq_navigation, navigation_listen, ← cursorCalls_eq_navigation, cursorCalls,
      calls_hearAll, Grammar.cursors_of_takenSteps _ _ _ _ hlines]

theorem lineCount_foldl_setCursor (view : Viewport) (cursors : List Cursor) :
    LineSurface.lineCount (cursors.foldl LineSurface.setCursor view) = view.lineCount := by
  induction cursors generalizing view with
  | nil => rfl
  | cons cursor cursors ih => exact ih (LineSurface.setCursor view cursor)

theorem jumps_land_exactly_from_largest_row :
    let viewer : Listener Viewport Tray :=
      .start (.ofVocabulary ⟨.empty, .empty, .empty⟩)
        ⟨largestNumber, ⟨largestNumber, 7⟩⟩ .empty
    (∀ cursors : List Cursor,
        LineSurface.lineCount (cursors.foldl LineSurface.setCursor viewer.editor) ≤
          largestNumber) ∧
      viewer.grammar.step? viewer.state "down" = some (.complete .down) ∧
      calls (viewer.hear "down").2 = [.cancel, .setCursor ⟨largestNumber - 1, 0⟩] ∧
      cursorCalls (viewer.listen "up, line 0018446744073709551617 line 0").2 =
        [⟨largestNumber - 1, 0⟩, ⟨largestNumber - 1, 0⟩, ⟨0, 0⟩] := by
  intro viewer
  have hlines : ∀ cursors : List Cursor,
      LineSurface.lineCount (cursors.foldl LineSurface.setCursor viewer.editor) ≤
        largestNumber := by
    intro cursors
    exact Nat.le_of_eq (lineCount_foldl_setCursor viewer.editor cursors)
  have hdown : viewer.grammar.step? viewer.state "down" = some (.complete .down) := by
    decide +kernel
  have hrole : viewer.grammar.role? viewer.state "down" = some .down := by decide +kernel
  obtain ⟨hacts, -, hspeech⟩ := viewer.jumps_land_exactly hlines
  obtain ⟨role, asked, requested, landed, hheard, hasked, -, hlanded, -, -, hcalls, -⟩ :=
    hacts "down" _ .down hdown rfl
  obtain rfl := Option.some.inj (hrole.symm.trans hheard)
  have hrow : landed = largestNumber - 1 := by
    obtain rfl := Option.some.inj hasked
    exact Nat.succ.inj (hlanded.trans (by decide +kernel))
  refine ⟨hlines, hdown, ?_, (hspeech _).trans ?_⟩
  · rw [hcalls, hrow]
  · decide +kernel

end Listener

end VoiceCursor

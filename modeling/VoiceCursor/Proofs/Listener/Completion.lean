import VoiceCursor.Proofs.Listener.Utterances
import VoiceCursor.Proofs.SpokenNumber
import VoiceCursor.Tray

namespace VoiceCursor

/-! "Go to line" and digits move the cursor whatever the vocabulary lists, and so does the
rest of these words once a command has begun. A command word is tried before all that may
be spelled like it, and digits before the words for numbers. -/

/-- The words of "go to line" that have not been heard yet. -/
def State.missing : State → List String
  | .idle => ["go", "to", "line"]
  | .afterGo => ["to", "line"]
  | .afterGoTo => ["line"]
  | .afterLine => []

theorem Vocabulary.hears_self (vocabulary : Vocabulary) (word : String) :
    vocabulary.hears word word = true := by
  simp [hears, SpellingTable.hears]

namespace Grammar

variable (grammar : Grammar)

theorem exists_step?_missing {state : State} {word : String} {rest : List String}
    (hmissing : state.missing = word :: rest) :
    ∃ next : State, grammar.step? state word = some (.advance next [word]) ∧
      next.missing = rest := by
  cases state with
  | idle =>
      cases hmissing
      exact ⟨.afterGo, by simp [step?, commandWord, Vocabulary.hears_self], rfl⟩
  | afterGo =>
      cases hmissing
      exact ⟨.afterGoTo, by simp [step?, commandWord, Vocabulary.hears_self], rfl⟩
  | afterGoTo =>
      cases hmissing
      exact ⟨.afterLine, by simp [step?, commandWord, Vocabulary.hears_self], rfl⟩
  | afterLine => nomatch hmissing

theorem eq_afterLine_of_missing {state : State} (hmissing : state.missing = []) :
    state = .afterLine := by
  cases state with
  | afterLine => rfl
  | idle => nomatch hmissing
  | afterGo => nomatch hmissing
  | afterGoTo => nomatch hmissing

theorem step?_digits {digits : String} (hdigits : isDigitRun digits = true) :
    grammar.step? .afterLine digits = some (.complete (.toLine (cappedValue digits))) := by
  simp only [step?, lineNumber?, hdigits, if_true, Option.map_some]

end Grammar

theorem count_cancel_flatMap_shown (words : List String) :
    (words.flatMap fun word => [Call.cancel, .putWords [word]]).count .cancel =
      words.length := by
  induction words with
  | nil => rfl
  | cons word words ih => simp [ih]

theorem filterMap_cursor?_flatMap_shown (words : List String) :
    (words.flatMap fun word => [Call.cancel, .putWords [word]]).filterMap Call.cursor? =
      [] := by
  induction words with
  | nil => rfl
  | cons word words ih =>
      rw [List.flatMap_cons, List.filterMap_append, ih]
      rfl

namespace Listener

variable {E F : Type} [LineSurface E] [WordSurface F]

theorem hearAll_missing (listener : Listener E F) {digits : String}
    (hdigits : isDigitRun digits = true) :
    let words := listener.state.missing
    let target := (Action.toLine (cappedValue digits)).target listener.editor
    calls (listener.hearAll (words ++ [digits])).2 =
        words.flatMap (fun word => [.cancel, .putWords [word]]) ++
          [.cancel, .setCursor target] ∧
      (listener.hearAll (words ++ [digits])).1 =
        { grammar := listener.grammar
          state := .idle
          editor := LineSurface.setCursor listener.editor target
          feedback := words.foldl (fun feedback word => WordSurface.put feedback [word])
            listener.feedback } := by
  dsimp only
  generalize hwords : listener.state.missing = words
  induction words generalizing listener with
  | nil =>
      have hstep := listener.grammar.step?_digits hdigits
      rw [← Grammar.eq_afterLine_of_missing hwords] at hstep
      rw [List.nil_append, calls_hearAll_cons_of_some [] hstep, hearAll_cons_of_some [] hstep]
      exact ⟨rfl, rfl⟩
  | cons word words ih =>
      obtain ⟨next, hstep, hnext⟩ := listener.grammar.exists_step?_missing hwords
      obtain ⟨hcalls, hlast⟩ := ih (listener.carryOut (.advance next [word])).1 hnext
      rw [List.cons_append, calls_hearAll_cons_of_some _ hstep, hearAll_cons_of_some _ hstep,
        hcalls]
      exact ⟨rfl, hlast⟩

/-- Whatever a vocabulary lists, what is missing of "go to line" and digits behind it move the
cursor to the line of the digits, or to the nearest one that there is. Editors count their lines
in numbers up to the largest. -/
theorem listen_missing (listener : Listener E F) {text digits : String}
    (hwords : spokenWords text = listener.state.missing ++ [digits])
    (hdigits : isDigitRun digits = true)
    (hlines : LineSurface.lineCount listener.editor ≤ largestNumber) :
    let lineCount := LineSurface.lineCount listener.editor
    let line := max 1 (min (decimalValue digits.toList) (max lineCount 1))
    let words := listener.state.missing
    calls (listener.listen text).2 =
        words.flatMap (fun word => [.cancel, .putWords [word]]) ++
          [.cancel, .setCursor ⟨line - 1, 0⟩, .clearWords] ∧
      (calls (listener.listen text).2).count .cancel = words.length + 1 ∧
      cursorCalls (listener.listen text).2 = [⟨line - 1, 0⟩] ∧
      (listener.listen text).1 =
        { grammar := listener.grammar
          state := .idle
          editor := LineSurface.setCursor listener.editor ⟨line - 1, 0⟩
          feedback := WordSurface.clear
            (words.foldl (fun feedback word => WordSurface.put feedback [word])
              listener.feedback) } := by
  intro lineCount line words
  have htarget : (Action.toLine (cappedValue digits)).target listener.editor = ⟨line - 1, 0⟩ := by
    rw [Action.target, Action.destination, cappedValue_of_isDigitRun hdigits,
      landingLine_min_largestNumber hlines]
    rfl
  obtain ⟨hcalls, hlast⟩ := listener.hearAll_missing hdigits
  rw [htarget, ← hwords] at hcalls hlast
  have hidle : (listener.hearAll (spokenWords text)).1.state = .idle := by rw [hlast]
  have hall : calls (listener.listen text).2 =
      words.flatMap (fun word => [.cancel, .putWords [word]]) ++
        [.cancel, .setCursor ⟨line - 1, 0⟩, .clearWords] := by
    rw [listener.listen_of_idle hidle, calls_append, hcalls, List.append_assoc]
    rfl
  refine ⟨hall, ?_, ?_, ?_⟩
  · rw [hall, List.count_append, count_cancel_flatMap_shown]
    simp
  · rw [cursorCalls, hall, List.filterMap_append, filterMap_cursor?_flatMap_shown]
    rfl
  · rw [listener.listen_of_idle hidle, hlast]
    rfl

theorem listen_missing_among_homonyms :
    let vocabulary : Vocabulary := .ofTables
      (.ofList [("go", ["line", "to"]), ("to", ["line", "7"]), ("line", ["go", "007"])])
      (.ofList [("go", 3), ("to", 4), ("line", 5), ("007", 6)])
      (.ofList [("007", 1), ("line", 2)])
    let viewer : Listener Viewport Tray :=
      .start ⟨vocabulary, "to", true⟩ ⟨5, ⟨3, 5⟩⟩ .empty
    spokenWords "  GO to.\u3000Line 007!? " = viewer.state.missing ++ ["007"] ∧
      isDigitRun "007" = true ∧
      LineSurface.lineCount viewer.editor ≤ largestNumber ∧
      calls (viewer.listen "  GO to.\u3000Line 007!? ").2 =
        [.cancel, .putWords ["go"], .cancel, .putWords ["to"], .cancel, .putWords ["line"],
          .cancel, .setCursor ⟨4, 0⟩, .clearWords] := by
  intro vocabulary viewer
  have hwords : spokenWords "  GO to.\u3000Line 007!? " =
      viewer.state.missing ++ ["007"] := by decide +kernel
  have hdigits : isDigitRun "007" = true := by decide
  have hlines : LineSurface.lineCount viewer.editor ≤ largestNumber := by decide
  refine ⟨hwords, hdigits, hlines, (viewer.listen_missing hwords hdigits hlines).1.trans ?_⟩
  decide

end Listener

end VoiceCursor

import VoiceCursor.Proofs.Listener.Calls

namespace VoiceCursor

/-! Several utterances in a row. Apart from the words shown, nothing tells them from a
single one with all of their words. -/

namespace Listener

variable {E F : Type}

/-- Two listeners that differ in the words shown at most. -/
structure Alike (first second : Listener E F) : Prop where
  grammar : first.grammar = second.grammar
  state : first.state = second.state
  editor : first.editor = second.editor

namespace Alike

variable {first second third : Listener E F}

theorem refl (listener : Listener E F) : Alike listener listener := ⟨rfl, rfl, rfl⟩

theorem trans (hfirst : Alike first second) (hsecond : Alike second third) :
    Alike first third :=
  ⟨hfirst.grammar.trans hsecond.grammar, hfirst.state.trans hsecond.state,
    hfirst.editor.trans hsecond.editor⟩

variable [WordSurface F]

theorem clearWords (listener : Listener E F) : Alike listener.clearWords listener :=
  ⟨rfl, rfl, rfl⟩

variable [LineSurface E]

theorem carryOut (halike : Alike first second) (step : Step) :
    Alike (first.carryOut step).1 (second.carryOut step).1 := by
  refine ⟨?_, ?_, ?_⟩
  · rw [carryOut_grammar, carryOut_grammar, halike.grammar]
  · rfl
  · rw [carryOut_editor, carryOut_editor, halike.editor]

theorem carryOut_events (halike : Alike first second) (step : Step) :
    (first.carryOut step).2 = (second.carryOut step).2 := by
  obtain ⟨next, words, action⟩ := step
  cases words <;> cases action <;>
    simp [Listener.carryOut, showWords, perform, moveToLine, halike.state, halike.editor]

theorem hearAll (halike : Alike first second) (words : List String) :
    Alike (first.hearAll words).1 (second.hearAll words).1 := by
  refine ⟨?_, ?_, ?_⟩
  · rw [hearAll_grammar, hearAll_grammar, halike.grammar]
  · rw [hearAll_state, hearAll_state, halike.grammar, halike.state]
  · rw [hearAll_editor, hearAll_editor, halike.grammar, halike.state, halike.editor]

theorem hearAll_events (halike : Alike first second) (words : List String) :
    (first.hearAll words).2 = (second.hearAll words).2 := by
  induction words generalizing first second with
  | nil => rfl
  | cons word words ih =>
      cases hstep : first.grammar.step? first.state word with
      | none =>
          have hother : second.grammar.step? second.state word = none := by
            rw [← halike.grammar, ← halike.state, hstep]
          rw [hearAll_cons_of_none words hstep, hearAll_cons_of_none words hother,
            ih halike, halike.state]
      | some step =>
          have hother : second.grammar.step? second.state word = some step := by
            rw [← halike.grammar, ← halike.state, hstep]
          rw [hearAll_cons_of_some words hstep, hearAll_cons_of_some words hother,
            ih (halike.carryOut step), halike.carryOut_events step, halike.state]

end Alike

variable [LineSurface E] [WordSurface F]

def listenAll (listener : Listener E F) : List String → Listener E F × List Event
  | [] => (listener, [])
  | text :: texts =>
      let (next, first) := listener.listen text
      let (last, rest) := next.listenAll texts
      (last, first ++ rest)

variable (listener : Listener E F)

theorem hearAll_append (first second : List String) :
    listener.hearAll (first ++ second) =
      (((listener.hearAll first).1.hearAll second).1,
        (listener.hearAll first).2 ++ ((listener.hearAll first).1.hearAll second).2) := by
  induction first generalizing listener with
  | nil => rfl
  | cons word words ih => simp [hearAll, ih]

theorem listenAll_nil : listener.listenAll [] = (listener, []) := rfl

theorem listenAll_cons (text : String) (texts : List String) :
    listener.listenAll (text :: texts) =
      (((listener.listen text).1.listenAll texts).1,
        (listener.listen text).2 ++ ((listener.listen text).1.listenAll texts).2) := by
  simp only [listenAll]

theorem listen_of_idle {text : String}
    (hidle : (listener.hearAll (spokenWords text)).1.state = .idle) :
    listener.listen text =
      ((listener.hearAll (spokenWords text)).1.clearWords,
        (listener.hearAll (spokenWords text)).2 ++ [.cleared]) := by
  simp [listen, hidle]

theorem listen_of_pending {text : String}
    (hpending : (listener.hearAll (spokenWords text)).1.state ≠ .idle) :
    listener.listen text = listener.hearAll (spokenWords text) := by
  simp [listen, hpending]

theorem listen_of_hearAll_eq {text other : String}
    (hheard : (listener.hearAll (spokenWords text)).1 =
      (listener.hearAll (spokenWords other)).1) :
    (listener.listen text).1 = (listener.listen other).1 := by
  by_cases hidle : (listener.hearAll (spokenWords text)).1.state = .idle
  · rw [listener.listen_of_idle hidle, listener.listen_of_idle (hheard ▸ hidle), hheard]
  · rw [listener.listen_of_pending hidle, listener.listen_of_pending (hheard ▸ hidle), hheard]

theorem calls_listen (text : String) :
    calls (listener.listen text).2 =
      calls (listener.hearAll (spokenWords text)).2 ++
        if (listener.hearAll (spokenWords text)).1.state = .idle then [.clearWords] else [] := by
  split
  · rename_i hidle
    rw [listener.listen_of_idle hidle, calls_append]
    rfl
  · rename_i hpending
    rw [listener.listen_of_pending hpending, List.append_nil]

theorem alike_listen (text : String) :
    Alike (listener.listen text).1 (listener.hearAll (spokenWords text)).1 := by
  by_cases hidle : (listener.hearAll (spokenWords text)).1.state = .idle
  · rw [listener.listen_of_idle hidle]
    exact .clearWords _
  · rw [listener.listen_of_pending hidle]
    exact .refl _

theorem filterMap_listen {keep : Event → Option α} (hcleared : keep .cleared = none)
    (text : String) :
    (listener.listen text).2.filterMap keep =
      (listener.hearAll (spokenWords text)).2.filterMap keep := by
  by_cases hidle : (listener.hearAll (spokenWords text)).1.state = .idle
  · rw [listener.listen_of_idle hidle, List.filterMap_append,
      List.filterMap_cons_none hcleared, List.filterMap_nil, List.append_nil]
  · rw [listener.listen_of_pending hidle]

theorem cancelled_mem_listen_iff (text : String) :
    .cancelled ∈ (listener.listen text).2 ↔
      listener.grammar.taken listener.state (spokenWords text) ≠ [] := by
  rw [← cancelled_mem_hearAll_iff]
  by_cases hidle : (listener.hearAll (spokenWords text)).1.state = .idle
  · simp [listener.listen_of_idle hidle]
  · rw [listener.listen_of_pending hidle]

theorem listen_of_taken_eq_nil {text : String}
    (hnone : listener.grammar.taken listener.state (spokenWords text) = []) :
    (listener.listen text).1 =
      if listener.state = .idle then listener.clearWords else listener := by
  have hsame := listener.hearAll_of_taken_eq_nil (spokenWords text) hnone
  split
  · rename_i hidle
    rw [listener.listen_of_idle (by rw [hsame, hidle]), hsame]
  · rename_i hpending
    rw [listener.listen_of_pending (by rw [hsame]; exact hpending), hsame]

theorem alike_listenAll (texts : List String) :
    Alike (listener.listenAll texts).1
      (listener.hearAll (texts.flatMap spokenWords)).1 := by
  induction texts generalizing listener with
  | nil => exact .refl listener
  | cons text texts ih =>
      have hrest := (listener.alike_listen text).hearAll (texts.flatMap spokenWords)
      rw [listenAll_cons, List.flatMap_cons, hearAll_append]
      exact (ih (listener.listen text).1).trans hrest

theorem editor_hearAll (kept : E → Prop) (words : List String)
    (hmove : ∀ editor row, kept editor → kept (LineSurface.setCursor editor ⟨row, 0⟩))
    (hkept : kept listener.editor) : kept (listener.hearAll words).1.editor := by
  rw [hearAll_editor]
  generalize listener.grammar.takenSteps listener.state words = steps
  generalize listener.editor = editor at hkept
  induction steps generalizing editor with
  | nil => exact hkept
  | cons step steps ih =>
      rw [List.foldl_cons]
      apply ih
      cases step.action with
      | none => exact hkept
      | some action => exact hmove editor _ hkept

theorem editor_listen (kept : E → Prop) (text : String)
    (hmove : ∀ editor row, kept editor → kept (LineSurface.setCursor editor ⟨row, 0⟩))
    (hkept : kept listener.editor) : kept (listener.listen text).1.editor := by
  rw [(listener.alike_listen text).editor]
  exact listener.editor_hearAll kept (spokenWords text) hmove hkept

theorem filterMap_listenAll {keep : Event → Option α} (hcleared : keep .cleared = none)
    (texts : List String) :
    (listener.listenAll texts).2.filterMap keep =
      (listener.hearAll (texts.flatMap spokenWords)).2.filterMap keep := by
  induction texts generalizing listener with
  | nil => rfl
  | cons text texts ih =>
      rw [listenAll_cons, List.flatMap_cons, hearAll_append, List.filterMap_append,
        List.filterMap_append, listener.filterMap_listen hcleared, ih,
        (listener.alike_listen text).hearAll_events]

theorem navigation_listen (text : String) :
    navigation (listener.listen text).2 =
      navigation (listener.hearAll (spokenWords text)).2 := by
  simp only [navigation, calls, List.filter_filterMap]
  exact listener.filterMap_listen rfl text

theorem navigation_listenAll (texts : List String) :
    navigation (listener.listenAll texts).2 =
      navigation (listener.hearAll (texts.flatMap spokenWords)).2 := by
  simp only [navigation, calls, List.filter_filterMap]
  exact listener.filterMap_listenAll rfl texts

theorem listenAll_state (texts : List String) :
    (listener.listenAll texts).1.state =
      listener.grammar.stateAfter listener.state (texts.flatMap spokenWords) := by
  rw [(listener.alike_listenAll texts).state, hearAll_state]

theorem listenAll_editor (texts : List String) :
    (listener.listenAll texts).1.editor =
      (cursorCalls (listener.listenAll texts).2).foldl LineSurface.setCursor
        listener.editor := by
  rw [(listener.alike_listenAll texts).editor, hearAll_editor_eq_foldl_cursorCalls,
    cursorCalls_eq_navigation, cursorCalls_eq_navigation, navigation_listenAll]

end Listener

end VoiceCursor

import VoiceCursor.Proofs.Listener.Completion
import VoiceCursor.Proofs.Listener.Cutting
import VoiceCursor.Proofs.Utterance.Speakable

namespace VoiceCursor

open Text

/-! The single word for "to line". Behind "go" it leads in one step where the two words lead in
two, and what is said afterwards cannot tell the one from the other. -/

namespace Grammar

variable (grammar : Grammar)

theorem step?_afterGo_to :
    grammar.step? .afterGo "to" = some (.advance .afterGoTo ["to"]) := by
  simp [step?, commandWord, Vocabulary.hears_self]

theorem step?_afterGoTo_line :
    grammar.step? .afterGoTo "line" = some (.advance .afterLine ["line"]) := by
  simp [step?, commandWord, Vocabulary.hears_self]

theorem step?_afterGo_token (hto : grammar.vocabulary.hears "to" grammar.token = false) :
    grammar.step? .afterGo grammar.token = some (.advance .afterLine ["to", "line"]) := by
  simp [step?, commandWord, hto]

end Grammar

namespace Listener

variable {E : Type} [LineSurface E] (listener : Listener E Tray)

section AfterGo

variable (hafterGo : listener.state = .afterGo)

include hafterGo

theorem hearAll_to_line :
    (listener.hearAll ["to", "line"]).1 =
        { listener with
          state := .afterLine
          feedback := listener.feedback.add ["to", "line"] } ∧
      calls (listener.hearAll ["to", "line"]).2 =
        [.cancel, .putWords ["to"], .cancel, .putWords ["line"]] := by
  have hto := listener.grammar.step?_afterGo_to
  have hline := listener.grammar.step?_afterGoTo_line
  rw [← hafterGo] at hto
  have hnext : (listener.carryOut (.advance .afterGoTo ["to"])).1.grammar.step?
      (listener.carryOut (.advance .afterGoTo ["to"])).1.state "line" =
        some (.advance .afterLine ["line"]) := hline
  constructor
  · rw [hearAll_cons_of_some _ hto, hearAll_cons_of_some _ hnext]
    simp [hearAll, carryOut, showWords, perform, Step.advance, WordSurface.put, Tray.add]
  · rw [calls_hearAll_cons_of_some _ hto, calls_hearAll_cons_of_some _ hnext]
    rfl

theorem hearAll_token
    (hto : listener.grammar.vocabulary.hears "to" listener.grammar.token = false) :
    (listener.hearAll [listener.grammar.token]).1 =
        { listener with
          state := .afterLine
          feedback := listener.feedback.add ["to", "line"] } ∧
      calls (listener.hearAll [listener.grammar.token]).2 =
        [.cancel, .putWords ["to", "line"]] := by
  have hstep := listener.grammar.step?_afterGo_token hto
  rw [← hafterGo] at hstep
  constructor
  · rw [hearAll_cons_of_some _ hstep]
    rfl
  · rw [calls_hearAll_cons_of_some _ hstep]
    rfl

end AfterGo

theorem hearAll_around_token {before : List String}
    (hafterGo : (listener.hearAll before).1.state = .afterGo)
    (hto : listener.grammar.vocabulary.hears "to" listener.grammar.token = false)
    (after : List String) :
    let short := listener.hearAll (before ++ ([listener.grammar.token] ++ after))
    let long := listener.hearAll (before ++ (["to", "line"] ++ after))
    short.1 = long.1 ∧
      ∃ first rest,
        calls short.2 = first ++ [.cancel, .putWords ["to", "line"]] ++ rest ∧
        calls long.2 =
          first ++ [.cancel, .putWords ["to"], .cancel, .putWords ["line"]] ++ rest := by
  have hgrammar := listener.hearAll_grammar before
  simp only [hearAll_append, calls_append]
  generalize (listener.hearAll before).1 = middle at hafterGo hgrammar ⊢
  rw [← hgrammar] at hto ⊢
  obtain ⟨htokenEnd, htokenCalls⟩ := middle.hearAll_token hafterGo hto
  obtain ⟨hwordsEnd, hwordsCalls⟩ := middle.hearAll_to_line hafterGo
  rw [htokenEnd, htokenCalls, hwordsEnd, hwordsCalls]
  refine ⟨rfl, _, _, (List.append_assoc _ _ _).symm, (List.append_assoc _ _ _).symm⟩

/-- A token that may be spoken, and is not heard as "to", does behind "go" what "to line" does:
only the words are shown in one call, and one word less cancels the dictation. A grammar keeps
its token in lowercase. -/
theorem listen_token_eq_to_line {raw : String} (hstored : listener.grammar.token = lowercase raw)
    (hspeakable : isSpeakable listener.grammar.token = true)
    (hto : listener.grammar.vocabulary.hears "to" listener.grammar.token = false)
    {before : String} (hafterGo : (listener.listen before).1.state = .afterGo)
    {after : String} {cuts others : List (Char × String)}
    (hcuts : ∀ cut ∈ cuts, isBlank cut.1 = true) (hothers : ∀ cut ∈ others, isBlank cut.1 = true)
    (htoken : cuts.map Prod.snd = [listener.grammar.token, after])
    (hwords : others.map Prod.snd = ["to", "line", after]) :
    let short := listener.listen (joinAt before cuts)
    let long := listener.listen (joinAt before others)
    short.1 = long.1 ∧
      cursorCalls short.2 = cursorCalls long.2 ∧
      (calls long.2).count .cancel = (calls short.2).count .cancel + 1 ∧
      ∃ first rest,
        calls short.2 = first ++ [.cancel, .putWords ["to", "line"]] ++ rest ∧
        calls long.2 =
          first ++ [.cancel, .putWords ["to"], .cancel, .putWords ["line"]] ++ rest := by
  intro short long
  have hspoken : spokenWords listener.grammar.token = [listener.grammar.token] := by
    rw [spokenWords_of_isSpeakable hspeakable, hstored, lowercase_lowercase]
  have hplain : spokenWords "to" = ["to"] ∧ spokenWords "line" = ["line"] := by decide +kernel
  have hshort : spokenWords (joinAt before cuts) =
      spokenWords before ++ ([listener.grammar.token] ++ spokenWords after) := by
    rw [spokenWords_joinAt before hcuts, htoken]
    simp [hspoken]
  have hlong : spokenWords (joinAt before others) =
      spokenWords before ++ (["to", "line"] ++ spokenWords after) := by
    rw [spokenWords_joinAt before hothers, hwords]
    simp [hplain]
  rw [(listener.alike_listen before).state] at hafterGo
  obtain ⟨hheard, first, rest, hfirst, hsecond⟩ :=
    listener.hearAll_around_token hafterGo hto (spokenWords after)
  rw [← hshort, ← hlong] at hheard
  rw [← hshort] at hfirst
  rw [← hlong] at hsecond
  have hcalls : ∃ rest,
      calls short.2 = first ++ [.cancel, .putWords ["to", "line"]] ++ rest ∧
      calls long.2 =
        first ++ [.cancel, .putWords ["to"], .cancel, .putWords ["line"]] ++ rest := by
    refine ⟨rest ++ if (listener.hearAll (spokenWords (joinAt before others))).1.state = .idle
      then [.clearWords] else [], ?_, ?_⟩
    · rw [calls_listen, hfirst, hheard, List.append_assoc]
    · rw [calls_listen, hsecond, List.append_assoc]
  obtain ⟨rest, hshortCalls, hlongCalls⟩ := hcalls
  refine ⟨listener.listen_of_hearAll_eq hheard, ?_, ?_, first, rest, hshortCalls, hlongCalls⟩
  · rw [cursorCalls, cursorCalls, hshortCalls, hlongCalls]
    simp only [List.filterMap_append]
    rfl
  · rw [hshortCalls, hlongCalls]
    simp [List.count_append]
    omega

theorem listen_token_eq_to_line_among_bookmarks :
    let vocabulary : Vocabulary := .ofTables (.ofList [("line", ["to"])])
      (.ofList [("to", 3), ("line", 4), ("lunchtime", 5)]) .empty
    let viewer : Listener Viewport Tray :=
      .start ((Grammar.ofVocabulary vocabulary).withToken "Lunchtime") ⟨20, ⟨3, 5⟩⟩ .empty
    let cuts := [(' ', "lunchtime"), ('\t', "to 7 go")]
    let others := [('\n', "to"), (' ', "line"), (' ', "to 7 go")]
    viewer.grammar.token = lowercase "Lunchtime" ∧
      isSpeakable viewer.grammar.token = true ∧
      viewer.grammar.vocabulary.hears "to" viewer.grammar.token = false ∧
      (viewer.listen "top, go").1.state = .afterGo ∧
      (viewer.listen (joinAt "top, go" cuts)).1 = (viewer.listen (joinAt "top, go" others)).1 ∧
      (viewer.listen (joinAt "top, go" others)).1.feedback.words = ["go", "to", "line", "go"] ∧
      (calls (viewer.listen (joinAt "top, go" others)).2).count .cancel = 4 + 1 := by
  intro vocabulary viewer cuts others
  have hspeakable : isSpeakable viewer.grammar.token = true := by decide +kernel
  have hto : viewer.grammar.vocabulary.hears "to" viewer.grammar.token = false := by
    decide +kernel
  have hafterGo : (viewer.listen "top, go").1.state = .afterGo := by decide +kernel
  have hcuts : ∀ cut ∈ cuts, isBlank cut.1 = true := by decide
  have hothers : ∀ cut ∈ others, isBlank cut.1 = true := by decide
  have htoken : cuts.map Prod.snd = [viewer.grammar.token, "to 7 go"] := by decide +kernel
  obtain ⟨hsame, -, hcount, -⟩ := viewer.listen_token_eq_to_line rfl hspeakable hto hafterGo
    hcuts hothers htoken rfl
  refine ⟨rfl, hspeakable, hto, hafterGo, hsame, by decide +kernel, hcount.trans ?_⟩
  decide +kernel

end Listener

end VoiceCursor

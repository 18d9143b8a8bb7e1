import VoiceCursor.Proofs.Listener.Utterances
import VoiceCursor.Proofs.Utterance
import VoiceCursor.Tray

namespace VoiceCursor

open Text

/-! How speech is cut into utterances does not matter to where the cursor goes: one
text does what its parts between blanks do one after the other. -/

/-- A text of several parts, each but the first behind a character. -/
def joinAt (first : String) : List (Char × String) → String
  | [] => first
  | (blank, text) :: cuts => first ++ String.singleton blank ++ joinAt text cuts

theorem spokenWords_joinAt (first : String) {cuts : List (Char × String)}
    (hblanks : ∀ cut ∈ cuts, isBlank cut.1 = true) :
    spokenWords (joinAt first cuts) =
      (first :: cuts.map Prod.snd).flatMap spokenWords := by
  induction cuts generalizing first with
  | nil => simp [joinAt]
  | cons cut cuts ih =>
      obtain ⟨hblank, hrest⟩ := List.forall_mem_cons.mp hblanks
      obtain ⟨blank, text⟩ := cut
      rw [joinAt, spokenWords_append_blank _ _ hblank, ih text hrest, ← List.flatMap_cons]
      rfl

namespace Listener

variable {E F : Type} [LineSurface E] [WordSurface F]

def StaysPending (listener : Listener E F) : List String → Prop
  | [] | [_] => True
  | text :: next :: texts =>
      (listener.listen text).1.state ≠ .idle ∧
        StaysPending (listener.listen text).1 (next :: texts)

variable (listener : Listener E F)

theorem listen_append_of_pending (before after : String) {blank : Char}
    (hblank : isBlank blank = true)
    (hpending : (listener.listen before).1.state ≠ .idle) :
    (listener.listen (before ++ String.singleton blank ++ after)).1 =
      ((listener.listen before).1.listen after).1 := by
  rw [(listener.alike_listen before).state] at hpending
  rw [listener.listen_of_pending hpending]
  have hwords : listener.hearAll (spokenWords (before ++ String.singleton blank ++ after)) =
      listener.hearAll (spokenWords before ++ spokenWords after) := by
    rw [spokenWords_append_blank _ _ hblank]
  rw [hearAll_append] at hwords
  by_cases hidle :
      ((listener.hearAll (spokenWords before)).1.hearAll (spokenWords after)).1.state = .idle
  · rw [listen_of_idle _ hidle, listen_of_idle _ (by rw [hwords]; exact hidle), hwords]
  · rw [listen_of_pending _ hidle, listen_of_pending _ (by rw [hwords]; exact hidle), hwords]

theorem listen_joinAt_of_staysPending (first : String) {cuts : List (Char × String)}
    (hblanks : ∀ cut ∈ cuts, isBlank cut.1 = true)
    (hpending : listener.StaysPending (first :: cuts.map Prod.snd)) :
    (listener.listen (joinAt first cuts)).1 =
      (listener.listenAll (first :: cuts.map Prod.snd)).1 := by
  induction cuts generalizing listener first with
  | nil => rw [joinAt, List.map_nil, listenAll_cons, listenAll_nil]
  | cons cut cuts ih =>
      obtain ⟨hblank, hrest⟩ := List.forall_mem_cons.mp hblanks
      obtain ⟨blank, text⟩ := cut
      obtain ⟨hfirst, hlater⟩ := hpending
      rw [joinAt, listener.listen_append_of_pending _ _ hblank hfirst,
        ih (listener.listen first).1 text hrest hlater, List.map_cons,
        listener.listenAll_cons first]

theorem listen_joinAt (first : String) (cuts : List (Char × String))
    (hblanks : ∀ cut ∈ cuts, isBlank cut.1 = true) :
    let whole := listener.listen (joinAt first cuts)
    let parts := listener.listenAll (first :: cuts.map Prod.snd)
    whole.1.state = parts.1.state ∧
      whole.1.editor = parts.1.editor ∧
      cursorCalls whole.2 = cursorCalls parts.2 ∧
      (calls whole.2).count .cancel = (calls parts.2).count .cancel ∧
      (listener.StaysPending (first :: cuts.map Prod.snd) →
        whole.1.feedback = parts.1.feedback) := by
  dsimp only
  have hwords := spokenWords_joinAt first hblanks
  -- Both sides are compared with a hearing of all the words in one.
  have hwhole := listener.alike_listen (joinAt first cuts)
  have hparts := listener.alike_listenAll (first :: cuts.map Prod.snd)
  have hnavigation : navigation (listener.listen (joinAt first cuts)).2 =
      navigation (listener.listenAll (first :: cuts.map Prod.snd)).2 := by
    rw [navigation_listen, navigation_listenAll, hwords]
  rw [hwords] at hwhole
  refine ⟨hwhole.state.trans hparts.state.symm, hwhole.editor.trans hparts.editor.symm,
    ?_, ?_, ?_⟩
  · rw [cursorCalls_eq_navigation, cursorCalls_eq_navigation, hnavigation]
  · rw [count_cancel_eq_navigation, count_cancel_eq_navigation, hnavigation]
  · intro hpending
    exact congrArg Listener.feedback
      (listener.listen_joinAt_of_staysPending first hblanks hpending)

theorem listen_joinAt_goToLine :
    let viewer : Listener Viewport Tray :=
      .start (.ofVocabulary ⟨.empty, .empty, .empty⟩) ⟨20, ⟨3, 5⟩⟩ .empty
    let cuts := [(' ', "to"), ('\u3000', "line 7.")]
    (∀ cut ∈ cuts, isBlank cut.1 = true) ∧
      cursorCalls (viewer.listen (joinAt "Go" cuts)).2 = [⟨6, 0⟩] ∧
      (viewer.listen (joinAt "Go" cuts)).1.feedback =
        (viewer.listenAll ("Go" :: cuts.map Prod.snd)).1.feedback := by
  intro viewer cuts
  have hblanks : ∀ cut ∈ cuts, isBlank cut.1 = true := by decide
  obtain ⟨_, _, hcursors, _, hfeedback⟩ := listen_joinAt viewer "Go" cuts hblanks
  refine ⟨hblanks, hcursors.trans ?_, hfeedback ⟨?_, ?_, trivial⟩⟩
  · decide +kernel
  · decide +kernel
  · decide +kernel

end Listener

end VoiceCursor

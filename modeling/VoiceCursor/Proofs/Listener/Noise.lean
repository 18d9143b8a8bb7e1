import VoiceCursor.Proofs.Listener.Commands
import VoiceCursor.Proofs.Utterance.Speakable

namespace VoiceCursor

open Text

/-! Noise: words that mean nothing where they are heard. What a speech does is decided by the
words of it that are taken, so noise can be left out of a speech or put into it anywhere. -/

namespace Grammar

/-- A speech and the same speech with noise in it. Noise is judged by the state that it is
heard in. -/
inductive WithNoise (grammar : Grammar) : State → List String → List String → Prop where
  | nil {state : State} : WithNoise grammar state [] []
  | word {state : State} {words noisy : List String} (word : String)
      (hrest : WithNoise grammar (grammar.stateAfter state [word]) words noisy) :
      WithNoise grammar state (word :: words) (word :: noisy)
  | noise {state : State} {words noisy : List String} {word : String}
      (hnone : grammar.step? state word = none)
      (hrest : WithNoise grammar state words noisy) :
      WithNoise grammar state words (word :: noisy)

variable {grammar : Grammar} {state : State}

theorem WithNoise.taken_eq {words noisy : List String}
    (hnoisy : grammar.WithNoise state words noisy) :
    grammar.taken state words = grammar.taken state noisy := by
  induction hnoisy with
  | nil => rfl
  | @word state words noisy word hrest ih =>
      show grammar.taken state ([word] ++ words) = grammar.taken state ([word] ++ noisy)
      rw [taken_append, taken_append, ih]
  | @noise state words noisy word hnone hrest ih => rw [taken_cons_of_none noisy hnone, ih]

theorem WithNoise.sublist {words noisy : List String}
    (hnoisy : grammar.WithNoise state words noisy) : words.Sublist noisy := by
  induction hnoisy with
  | nil => exact .slnil
  | word word hrest ih => exact ih.cons_cons word
  | noise hnone hrest ih => exact ih.cons _

theorem withNoise_takenWords (state : State) (words : List String) :
    grammar.WithNoise state (grammar.takenWords state words) words := by
  induction words generalizing state with
  | nil => exact .nil
  | cons word words ih =>
      cases hstep : grammar.step? state word with
      | none =>
          rw [takenWords_cons_of_none words hstep]
          exact .noise hstep (ih state)
      | some step =>
          rw [takenWords_cons_of_some words hstep]
          apply WithNoise.word
          rw [stateAfter_cons_of_some [] hstep]
          exact ih step.next

theorem withNoise_self (state : State) (words : List String) :
    grammar.WithNoise state words words := by
  induction words generalizing state with
  | nil => exact .nil
  | cons word words ih => exact .word word (ih _)

theorem withNoise_insert {before noise : List String} (after : List String)
    (hnone : ∀ word ∈ noise, grammar.step? (grammar.stateAfter state before) word = none) :
    grammar.WithNoise state (before ++ after) (before ++ (noise ++ after)) := by
  -- By induction on what comes before the noise, which is judged by the state behind that.
  induction before generalizing state with
  | nil =>
      induction noise with
      | nil => exact withNoise_self state after
      | cons word noise ih =>
          obtain ⟨hword, hnoise⟩ := List.forall_mem_cons.mp hnone
          exact .noise hword (ih hnoise)
  | cons word before ih =>
      apply WithNoise.word
      apply ih
      rw [← stateAfter_append, List.singleton_append]
      exact hnone

end Grammar

namespace Listener

open Grammar

variable {E F : Type} [LineSurface E] [WordSurface F] (listener : Listener E F)

theorem hearAll_eq_foldl (words : List String) :
    (listener.hearAll words).1 =
      (listener.grammar.takenSteps listener.state words).foldl
        (fun current step => (current.carryOut step).1) listener := by
  induction words generalizing listener with
  | nil => rfl
  | cons word words ih =>
      cases hstep : listener.grammar.step? listener.state word with
      | none => rw [hearAll_cons_of_none words hstep, takenSteps_cons_of_none words hstep, ih]
      | some step =>
          rw [hearAll_cons_of_some words hstep, takenSteps_cons_of_some words hstep, ih,
            carryOut_grammar, carryOut_state, List.foldl_cons]

theorem acceptedWords_listen (text : String) :
    listener.grammar.acceptedWords (listener.listen text).2 =
      listener.grammar.takenWords listener.state (spokenWords text) := by
  rw [acceptedWords, listener.filterMap_listen rfl, ← acceptedWords, acceptedWords_hearAll]

theorem listen_of_takenSteps_eq {text other : String}
    (hsteps : listener.grammar.takenSteps listener.state (spokenWords text) =
      listener.grammar.takenSteps listener.state (spokenWords other)) :
    (listener.listen text).1 = (listener.listen other).1 ∧
      calls (listener.listen text).2 = calls (listener.listen other).2 := by
  have hheard : (listener.hearAll (spokenWords text)).1 =
      (listener.hearAll (spokenWords other)).1 := by
    rw [hearAll_eq_foldl, hsteps, ← hearAll_eq_foldl]
  have hcalls : calls (listener.hearAll (spokenWords text)).2 =
      calls (listener.hearAll (spokenWords other)).2 := by
    rw [calls_hearAll, hsteps, ← calls_hearAll]
  refine ⟨listener.listen_of_hearAll_eq hheard, ?_⟩
  rw [calls_listen, calls_listen, hheard, hcalls]

theorem listen_of_taken_eq {text other : String}
    (hsame : listener.grammar.taken listener.state (spokenWords text) =
      listener.grammar.taken listener.state (spokenWords other)) :
    (listener.listen text).1 = (listener.listen other).1 ∧
      calls (listener.listen text).2 = calls (listener.listen other).2 := by
  apply listener.listen_of_takenSteps_eq
  rw [takenSteps, hsame, takenSteps]

/-- An utterance does what it does with the noise left out, and then every word of it is
accepted; with noise put in, it does what it did without. -/
theorem listen_with_or_without_noise :
    let grammar := listener.grammar
    (∀ text,
      let accepted := grammar.acceptedWords (listener.listen text).2
      let bare := listener.listen (" ".intercalate accepted)
      spokenWords (" ".intercalate accepted) = accepted ∧
        grammar.acceptedWords bare.2 = spokenWords (" ".intercalate accepted) ∧
        calls bare.2 = calls (listener.listen text).2 ∧
        bare.1 = (listener.listen text).1) ∧
      (∀ text noisy,
        grammar.WithNoise listener.state (spokenWords text) (spokenWords noisy) →
        calls (listener.listen noisy).2 = calls (listener.listen text).2 ∧
          (listener.listen noisy).1 = (listener.listen text).1) ∧
      ∀ before noise after blank other, isBlank blank = true → isBlank other = true →
        (∀ word ∈ spokenWords noise,
          grammar.step? (listener.listen before).1.state word = none) →
        let text := before ++ String.singleton blank ++ after
        let noisy := before ++ String.singleton blank ++ noise ++ String.singleton other ++ after
        calls (listener.listen noisy).2 = calls (listener.listen text).2 ∧
          (listener.listen noisy).1 = (listener.listen text).1 := by
  intro grammar
  have hnoise : ∀ text noisy,
      grammar.WithNoise listener.state (spokenWords text) (spokenWords noisy) →
      calls (listener.listen noisy).2 = calls (listener.listen text).2 ∧
        (listener.listen noisy).1 = (listener.listen text).1 := by
    intro text noisy hnoisy
    obtain ⟨hlistener, hcalls⟩ := listener.listen_of_taken_eq hnoisy.taken_eq
    exact ⟨hcalls.symm, hlistener.symm⟩
  refine ⟨?_, hnoise, ?_⟩
  · intro text accepted bare
    have haccepted : accepted = grammar.takenWords listener.state (spokenWords text) :=
      listener.acceptedWords_listen text
    have hbare : grammar.WithNoise listener.state accepted (spokenWords text) := by
      rw [haccepted]
      exact withNoise_takenWords listener.state (spokenWords text)
    have hwhole : ∀ word ∈ accepted, spokenWords word = [word] := by
      intro word hword
      exact spokenWords_of_mem (hbare.sublist.mem hword)
    have hwords : spokenWords (" ".intercalate accepted) = accepted :=
      spokenWords_intercalate hwhole
    rw [← hwords] at hbare
    obtain ⟨hcalls, hlistener⟩ := hnoise _ text hbare
    refine ⟨hwords, ?_, hcalls.symm, hlistener.symm⟩
    rw [listener.acceptedWords_listen, takenWords, hbare.taken_eq, ← takenWords, hwords, haccepted]
  · intro before noise after blank other hblank hother hnone text noisy
    rw [(listener.alike_listen before).state, hearAll_state] at hnone
    apply hnoise
    rw [spokenWords_append_blank _ _ hother, spokenWords_append_blank _ _ hblank,
      spokenWords_append_blank _ _ hblank, List.append_assoc]
    exact withNoise_insert (spokenWords after) hnone

theorem listen_with_or_without_noise_repeated_go :
    let viewer : Listener Viewport Tray :=
      .start (.ofVocabulary ⟨.empty, .empty, .empty⟩) ⟨20, ⟨3, 5⟩⟩ .empty
    let noisy := "Go" ++ String.singleton ' ' ++ "go, um." ++ String.singleton '\t' ++ "to line 9"
    (∀ word ∈ spokenWords "go, um.",
        viewer.grammar.step? (viewer.listen "Go").1.state word = none) ∧
      viewer.grammar.WithNoise viewer.state (spokenWords "go to line 9") (spokenWords noisy) ∧
      (viewer.listen noisy).1 = (viewer.listen "go to line 9").1 ∧
      calls (viewer.listen noisy).2 =
        [.cancel, .putWords ["go"], .cancel, .putWords ["to"], .cancel, .putWords ["line"],
          .cancel, .setCursor ⟨8, 0⟩, .clearWords] := by
  intro viewer noisy
  obtain ⟨-, hwords, htexts⟩ := viewer.listen_with_or_without_noise
  have hnone : ∀ word ∈ spokenWords "go, um.",
      viewer.grammar.step? (viewer.listen "Go").1.state word = none := by decide +kernel
  have hnoisy :
      viewer.grammar.WithNoise viewer.state (spokenWords "go to line 9") (spokenWords noisy) := by
    have htaken : viewer.grammar.takenWords viewer.state (spokenWords noisy) =
        spokenWords "go to line 9" := by decide +kernel
    rw [← htaken]
    exact withNoise_takenWords viewer.state (spokenWords noisy)
  refine ⟨hnone, hnoisy, (hwords _ _ hnoisy).2, ?_⟩
  refine (htexts "Go" "go, um." "to line 9" ' ' '\t' (by decide) (by decide) hnone).1.trans ?_
  decide +kernel

end Listener

end VoiceCursor

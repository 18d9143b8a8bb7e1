import VoiceCursor.Proofs.Listener.Completion
import VoiceCursor.Proofs.Listener.Noise
import VoiceCursor.Proofs.Vocabulary.SameSpeech

namespace VoiceCursor

open Text

/-! Misheard command words. A spelling under which a command word is heard does what the word
itself does, so that a speech may be corrected at any of them. -/

/-- The word that is meant by a word in the role, if there is only one. -/
def Role.commandWord? : Role → Option String
  | .go => some "go"
  | .line => some "line"
  | .down => some "down"
  | .up => some "up"
  | .to => some "to"
  | .token | .bookmark | .number => none

theorem mem_commandWords {role : Role} {word : String}
    (hword : role.commandWord? = some word) : word ∈ commandWords := by
  cases role <;> cases hword <;> decide

theorem State.pairwise_roles (state : State) :
    state.roles.Pairwise fun first second => second.commandWord?.isSome →
      first.commandWord?.isSome ∧ first.commandWord? ≠ second.commandWord? := by
  cases state <;> decide

def Vocabulary.KeepsCommandsApart (vocabulary : Vocabulary) : Prop :=
  ∀ expected ∈ commandWords, ∀ other ∈ commandWords,
    other ∈ vocabulary.spellingsOf expected → other = expected

theorem Vocabulary.hears_eq_false {vocabulary : Vocabulary}
    (hapart : vocabulary.KeepsCommandsApart) {expected other : String}
    (hexpected : expected ∈ commandWords) (hother : other ∈ commandWords)
    (hne : expected ≠ other) : vocabulary.hears expected other = false := by
  rw [← Bool.not_eq_true, hears_iff]
  rintro (heq | hlisted)
  · exact hne heq
  · exact hne (hapart expected hexpected other hother hlisted).symm

namespace Grammar

theorem fits_of_commandWord? (grammar : Grammar) {role : Role} {expected : String}
    (hexpected : role.commandWord? = some expected) (word : String) :
    grammar.fits word role = grammar.vocabulary.hears expected word := by
  cases role <;> cases hexpected <;> rfl

theorem action?_of_commandWord? (grammar : Grammar) {role : Role} {expected : String}
    (hexpected : role.commandWord? = some expected) (word other : String) :
    grammar.action? word role = grammar.action? other role := by
  cases role <;> cases hexpected <;> rfl

/-- A speech and the same speech with some of its misheard words corrected. What a word was
meant for is judged by the state in which it is heard. -/
inductive Corrected (grammar : Grammar) : State → List String → List String → Prop where
  | nil {state : State} : Corrected grammar state [] []
  | keep {state : State} {words corrected : List String} (word : String)
      (hrest : Corrected grammar (grammar.stateAfter state [word]) words corrected) :
      Corrected grammar state (word :: words) (word :: corrected)
  | correct {state : State} {words corrected : List String} {word meant : String} {role : Role}
      (hrole : grammar.role? state word = some role) (hmeant : role.commandWord? = some meant)
      (hrest : Corrected grammar role.next words corrected) :
      Corrected grammar state (word :: words) (meant :: corrected)

variable {grammar : Grammar} {state : State} {role : Role} {word meant : String}

theorem role?_commandWord (hapart : grammar.vocabulary.KeepsCommandsApart)
    (hrole : grammar.role? state word = some role) (hmeant : role.commandWord? = some meant) :
    grammar.role? state meant = some role := by
  obtain ⟨-, before, after, hroles, -⟩ := List.find?_eq_some_iff_append.mp hrole
  have hpairs := state.pairwise_roles
  rw [hroles, List.pairwise_append] at hpairs
  rw [role?, List.find?_eq_some_iff_append]
  refine ⟨?_, before, after, hroles, ?_⟩
  · rw [grammar.fits_of_commandWord? hmeant]
    exact grammar.vocabulary.hears_self meant
  · intro earlier hearlier
    obtain ⟨hcommand, hother⟩ :=
      hpairs.2.2 earlier hearlier role List.mem_cons_self (by simp [hmeant])
    obtain ⟨expected, hexpected⟩ := Option.isSome_iff_exists.mp hcommand
    have hne : expected ≠ meant := fun heq => hother (by rw [hexpected, hmeant, heq])
    rw [grammar.fits_of_commandWord? hexpected,
      Vocabulary.hears_eq_false hapart (mem_commandWords hexpected) (mem_commandWords hmeant) hne]
    rfl

theorem step?_commandWord (hapart : grammar.vocabulary.KeepsCommandsApart)
    (hrole : grammar.role? state word = some role) (hmeant : role.commandWord? = some meant) :
    grammar.step? state meant = grammar.step? state word := by
  rw [step?_eq, step?_eq, role?_commandWord hapart hrole hmeant, hrole, Option.map_some,
    Option.map_some, stepAs, stepAs, grammar.action?_of_commandWord? hmeant meant word]

theorem Corrected.takenSteps_eq {words corrected : List String}
    (hapart : grammar.vocabulary.KeepsCommandsApart)
    (hcorrected : grammar.Corrected state words corrected) :
    grammar.takenSteps state corrected = grammar.takenSteps state words := by
  induction hcorrected with
  | nil => rfl
  | @keep state words corrected word hrest ih =>
      show grammar.takenSteps state ([word] ++ corrected) =
        grammar.takenSteps state ([word] ++ words)
      rw [takenSteps_append, takenSteps_append, ih]
  | @correct state words corrected word meant role hrole hmeant hrest ih =>
      have hstep : grammar.step? state word = some (grammar.stepAs word role) := by
        rw [step?_eq, hrole, Option.map_some]
      have hsame := step?_commandWord hapart hrole hmeant
      rw [takenSteps_cons_of_some _ hstep, takenSteps_cons_of_some _ (hsame.trans hstep)]
      exact congrArg _ ih

theorem Corrected.mem {words corrected : List String}
    (hcorrected : grammar.Corrected state words corrected) :
    ∀ word ∈ corrected, word ∈ words ∨ word ∈ commandWords := by
  induction hcorrected with
  | nil => simp
  | keep word hrest ih =>
      rw [List.forall_mem_cons]
      exact ⟨.inl List.mem_cons_self, fun other hother =>
        (ih other hother).imp_left (List.mem_cons_of_mem word)⟩
  | correct hrole hmeant hrest ih =>
      rw [List.forall_mem_cons]
      exact ⟨.inr (mem_commandWords hmeant), fun other hother =>
        (ih other hother).imp_left (List.mem_cons_of_mem _)⟩

theorem Corrected.spokenWords_intercalate {text : String} {corrected : List String}
    (hcorrected : grammar.Corrected state (spokenWords text) corrected) :
    spokenWords (" ".intercalate corrected) = corrected := by
  have hcommands : ∀ word ∈ commandWords, spokenWords word = [word] := by decide +kernel
  apply VoiceCursor.spokenWords_intercalate
  intro word hword
  cases hcorrected.mem word hword with
  | inl hspoken => exact spokenWords_of_mem hspoken
  | inr hcommand => exact hcommands word hcommand

end Grammar

namespace Listener

variable {E F : Type} [LineSurface E] [WordSurface F] (listener : Listener E F)

/-- If no command word is listed as a spelling of another, a misheard command word does what the
word does that it was taken for: a speech can be corrected at any of these words. -/
theorem listen_corrected (hapart : listener.grammar.vocabulary.KeepsCommandsApart)
    {text : String} {corrected : List String}
    (hcorrected :
      listener.grammar.Corrected listener.state (spokenWords text) corrected) :
    spokenWords (" ".intercalate corrected) = corrected ∧
      ∀ other, spokenWords other = corrected →
        (listener.listen other).1 = (listener.listen text).1 ∧
          calls (listener.listen other).2 = calls (listener.listen text).2 := by
  refine ⟨hcorrected.spokenWords_intercalate, ?_⟩
  rintro other rfl
  exact listener.listen_of_takenSteps_eq (hcorrected.takenSteps_eq hapart)

theorem listen_corrected_among_homonyms :
    let vocabulary : Vocabulary := .ofTables
      (.ofList [("go", ["goal"]), ("to", ["two", "lion"]), ("line", ["lion", "dawn"]),
        ("down", ["dawn", "dusk"])])
      (.ofList [("dawn", 30), ("lion", 2)]) (.ofList [("two", 2), ("dawn", 7)])
    let viewer : Listener Viewport Tray := .start (.ofVocabulary vocabulary) ⟨40, ⟨3, 5⟩⟩ .empty
    let text := "Goal, um, lion lion two. Dawn two dusk!"
    let corrected := ["go", "um", "to", "line", "two", "line", "two", "dusk"]
    viewer.grammar.vocabulary.KeepsCommandsApart ∧
      viewer.grammar.Corrected viewer.state (spokenWords text) corrected ∧
      spokenWords (" ".intercalate corrected) = corrected ∧
      calls (viewer.listen "GO um to line two, line two dusk").2 =
        [.cancel, .putWords ["go"], .cancel, .putWords ["to"], .cancel, .putWords ["line"],
          .cancel, .setCursor ⟨1, 0⟩, .cancel, .putWords ["line"], .cancel, .setCursor ⟨1, 0⟩,
          .cancel, .setCursor ⟨2, 0⟩, .clearWords] := by
  intro vocabulary viewer text corrected
  have hapart : viewer.grammar.vocabulary.KeepsCommandsApart := by
    unfold Vocabulary.KeepsCommandsApart
    decide +kernel
  have hspoken : spokenWords text =
      ["goal", "um", "lion", "lion", "two", "dawn", "two", "dusk"] := by decide +kernel
  have hcorrected : viewer.grammar.Corrected viewer.state (spokenWords text) corrected := by
    rw [hspoken]
    refine .correct (by decide +kernel) (show Role.commandWord? .go = _ from rfl) ?_
    refine .keep "um" (.correct (by decide +kernel) (show Role.commandWord? .to = _ from rfl) ?_)
    refine .correct (by decide +kernel) (show Role.commandWord? .line = _ from rfl) ?_
    refine .keep "two" (.correct (by decide +kernel) (show Role.commandWord? .line = _ from rfl) ?_)
    exact .keep "two" (.keep "dusk" .nil)
  obtain ⟨hstable, hothers⟩ := viewer.listen_corrected hapart hcorrected
  refine ⟨hapart, hcorrected, hstable, (hothers _ (by decide +kernel)).2.trans ?_⟩
  decide +kernel

end Listener

end VoiceCursor

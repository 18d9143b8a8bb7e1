import VoiceCursor.Grammar

namespace VoiceCursor

/-! What a word is heard as. A word may fit several roles; the state in which it is
heard knows some roles, in order, and the first that the word fits counts. -/

inductive Role where
  | go
  | line
  | down
  | up
  | to
  | token
  | bookmark
  | number
  deriving DecidableEq, Repr

namespace Role

def next : Role → State
  | .go => .afterGo
  | .to => .afterGoTo
  | .line | .token => .afterLine
  | .down | .up | .bookmark | .number => .idle

def words : Role → List String
  | .go => ["go"]
  | .line => ["line"]
  | .to => ["to"]
  | .token => ["to", "line"]
  | .down | .up | .bookmark | .number => []

def completes : Role → Bool
  | .down | .up | .bookmark | .number => true
  | .go | .line | .to | .token => false

theorem next_of_completes {role : Role} (hcompletes : role.completes = true) :
    role.next = .idle := by
  cases role <;> simp_all [completes, next]

end Role

/-- The roles that a word may have in a state, the first of which counts. -/
def State.roles : State → List Role
  | .idle => [.go, .line, .down, .up, .bookmark]
  | .afterGo => [.to, .token]
  | .afterGoTo => [.line, .bookmark]
  | .afterLine => [.number]

namespace Grammar

/-- Whether a word could have a role, whatever else it could be. -/
def fits (grammar : Grammar) (word : String) : Role → Bool
  | .go => grammar.vocabulary.hears "go" word
  | .line => grammar.vocabulary.hears "line" word
  | .down => grammar.vocabulary.hears "down" word
  | .up => grammar.vocabulary.hears "up" word
  | .to => grammar.vocabulary.hears "to" word
  | .token => word == grammar.token
  | .bookmark => (grammar.vocabulary.bookmark? word).isSome
  | .number => (grammar.lineNumber? word).isSome

def role? (grammar : Grammar) (state : State) (word : String) : Option Role :=
  state.roles.find? (grammar.fits word)

def action? (grammar : Grammar) (word : String) : Role → Option Action
  | .down => some .down
  | .up => some .up
  | .bookmark => (grammar.vocabulary.bookmark? word).map .toLine
  | .number => (grammar.lineNumber? word).map .toLine
  | .go | .line | .to | .token => none

def stepAs (grammar : Grammar) (word : String) (role : Role) : Step :=
  ⟨role.next, role.words, grammar.action? word role⟩

theorem fits_of_role? {grammar : Grammar} {state : State} {word : String} {role : Role}
    (hrole : grammar.role? state word = some role) : grammar.fits word role = true :=
  List.find?_some hrole

theorem mem_roles_of_role? {grammar : Grammar} {state : State} {word : String}
    {role : Role} (hrole : grammar.role? state word = some role) : role ∈ state.roles :=
  List.mem_of_find?_eq_some hrole

theorem action?_isSome_of_fits {grammar : Grammar} {word : String} {role : Role}
    (hfits : grammar.fits word role = true) :
    (grammar.action? word role).isSome = role.completes := by
  cases role <;> simp_all [fits, action?, Role.completes]

private def hearAs (grammar : Grammar) (word : String) (role : Role) : Option Step :=
  if grammar.fits word role then some (grammar.stepAs word role) else none

private theorem map_find?_single (grammar : Grammar) (word : String) (role : Role) :
    (List.find? (grammar.fits word) [role]).map (grammar.stepAs word) =
      grammar.hearAs word role := by
  cases hfits : grammar.fits word role <;> simp [hearAs, hfits]

private theorem map_find?_cons (grammar : Grammar) (word : String) (role second : Role)
    (roles : List Role) :
    (List.find? (grammar.fits word) (role :: second :: roles)).map
        (grammar.stepAs word) =
      (grammar.hearAs word role <|>
        (List.find? (grammar.fits word) (second :: roles)).map
          (grammar.stepAs word)) := by
  rw [List.find?_cons]
  cases hfits : grammar.fits word role <;> simp [hearAs, hfits]

private theorem bookmark_eq (grammar : Grammar) (word : String) :
    grammar.bookmark word = grammar.hearAs word .bookmark := by
  cases hline : grammar.vocabulary.bookmark? word <;>
    simp [bookmark, hearAs, fits, stepAs, action?, hline, Role.next, Role.words,
      Step.complete]

private theorem number_eq (grammar : Grammar) (word : String) :
    ((grammar.lineNumber? word).map fun line => Step.complete (.toLine line)) =
      grammar.hearAs word .number := by
  cases hline : grammar.lineNumber? word <;>
    simp [hearAs, fits, stepAs, action?, hline, Role.next, Role.words, Step.complete]

private theorem token_eq (grammar : Grammar) (word : String) :
    (if word = grammar.token then some (Step.advance .afterLine ["to", "line"])
      else none) = grammar.hearAs word .token := by
  by_cases hword : word = grammar.token <;>
    simp [hearAs, fits, stepAs, action?, hword, Role.next, Role.words, Step.advance]

theorem step?_eq (grammar : Grammar) (state : State) (word : String) :
    grammar.step? state word = (grammar.role? state word).map (grammar.stepAs word) := by
  cases state with
  | idle =>
      simp only [step?, role?, State.roles, map_find?_cons, map_find?_single, bookmark_eq]
      rfl
  | afterGo =>
      simp only [step?, role?, State.roles, map_find?_cons, map_find?_single, token_eq]
      rfl
  | afterGoTo =>
      simp only [step?, role?, State.roles, map_find?_cons, map_find?_single, bookmark_eq]
      rfl
  | afterLine =>
      simp only [step?, role?, State.roles, map_find?_single, number_eq]

end Grammar

end VoiceCursor

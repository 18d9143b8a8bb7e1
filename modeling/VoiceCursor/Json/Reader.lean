import VoiceCursor.Json.Token
import VoiceCursor.Table

namespace VoiceCursor.Json

/-! Reading a document that holds one object, all of whose values are of one kind.
The tokens are taken one by one, and the first that does not fit decides the
failure. -/

def Token.reject (token : Token) (problem : Problem) : Except Failure α :=
  .error ⟨problem, some (token.start + 1)⟩

def Token.unexpected (token : Token) (expected : Expected) : Except Failure α :=
  let mismatch (found : Found) (offset : Nat) : Except Failure α :=
    .error ⟨.invalidType found expected, some offset⟩
  match token.kind with
  | .openBrace => mismatch .map token.start
  | .openBracket => mismatch .sequence token.start
  | .null => mismatch .null token.stop
  | .boolean value => mismatch (.boolean value) token.stop
  | .number (.natural value) => mismatch (.integer value) token.stop
  | .number (.negative value) => mismatch (.integer (-(value : Int))) token.stop
  | .number (.float value) => mismatch (.float value) token.stop
  | .string value => mismatch (.string value) token.stop
  | .broken problem | .brokenString problem => .error ⟨problem, some token.stop⟩
  | .closeBrace | .closeBracket | .comma | .colon => token.reject .expectedValue

/-- A value that is complete, or the state of one that is not. -/
inductive Progress (σ α : Type) where
  | pending (state : σ)
  | done (value : α)

structure ValueReader (σ α : Type) where
  first : Token → Except Failure (Progress σ α)
  next : σ → Token → Except Failure (Progress σ α)
  ending : σ → Problem

/-- A natural number of sixty-four bits. -/
def naturals : ValueReader Empty Nat where
  first token :=
    match token.kind with
    | .number (.natural value) => .ok (.done value)
    | .number (.negative value) =>
        .error ⟨.invalidValue (.integer (-(value : Int))) .natural, some token.stop⟩
    | _ => token.unexpected .natural
  next state := nomatch state
  ending state := nomatch state

inductive ListPhase where
  | opened
  | afterComma
  | afterElement
  deriving DecidableEq

structure ListState where
  phase : ListPhase
  elements : List String

def ListState.element (state : ListState) (token : Token) :
    Except Failure (Progress ListState (List String)) :=
  match token.kind with
  | .string value => .ok (.pending ⟨.afterElement, state.elements ++ [value]⟩)
  | _ => token.unexpected .string

def stringLists : ValueReader ListState (List String) where
  first token :=
    match token.kind with
    | .openBracket => .ok (.pending ⟨.opened, []⟩)
    | _ => token.unexpected .sequence
  next state token :=
    match state.phase, token.kind with
    | .opened, .closeBracket => .ok (.done state.elements)
    | .opened, _ => state.element token
    | .afterComma, .closeBracket => token.reject .trailingComma
    | .afterComma, _ => state.element token
    | .afterElement, .closeBracket => .ok (.done state.elements)
    | .afterElement, .comma => .ok (.pending ⟨.afterComma, state.elements⟩)
    | .afterElement, _ => token.reject .expectedCommaOrBracket
  ending state :=
    match state.phase with
    | .opened | .afterElement => .endInList
    | .afterComma => .endInValue

inductive ObjectPhase (σ : Type) where
  | outside
  | opened
  | afterComma
  | afterKey (key : String)
  | afterColon (key : String)
  | inValue (key : String) (state : σ)
  | afterValue
  | closed

/-- The entries read so far; a repeated key has its last value. -/
structure ObjectState (σ α : Type) where
  phase : ObjectPhase σ
  table : Table α

namespace ObjectState

variable {σ α : Type}

def start : ObjectState σ α := ⟨.outside, .empty⟩

def key (state : ObjectState σ α) (token : Token) : Except Failure (ObjectState σ α) :=
  match token.kind with
  | .string key => .ok { state with phase := .afterKey key }
  | .brokenString problem => .error ⟨problem, some token.stop⟩
  | _ => token.reject .keyNotString

def value (state : ObjectState σ α) (key : String) :
    Progress σ α → ObjectState σ α
  | .pending inner => { state with phase := .inValue key inner }
  | .done value => ⟨.afterValue, state.table.insert key value⟩

def step (reader : ValueReader σ α) (state : ObjectState σ α) (token : Token) :
    Except Failure (ObjectState σ α) :=
  match state.phase with
  | .outside =>
      match token.kind with
      | .openBrace => .ok { state with phase := .opened }
      | _ => token.unexpected .map
  | .opened =>
      match token.kind with
      | .closeBrace => .ok { state with phase := .closed }
      | _ => state.key token
  | .afterComma =>
      match token.kind with
      | .closeBrace => token.reject .trailingComma
      | _ => state.key token
  | .afterKey key =>
      match token.kind with
      | .colon => .ok { state with phase := .afterColon key }
      | _ => token.reject .expectedColon
  | .afterColon key => (reader.first token).map (state.value key)
  | .inValue key inner => (reader.next inner token).map (state.value key)
  | .afterValue =>
      match token.kind with
      | .closeBrace => .ok { state with phase := .closed }
      | .comma => .ok { state with phase := .afterComma }
      | _ => token.reject .expectedCommaOrBrace
  | .closed => token.reject .trailingCharacters

def finish (reader : ValueReader σ α) (state : ObjectState σ α) :
    Except Failure (Table α) :=
  let ended (problem : Problem) : Except Failure (Table α) := .error ⟨problem, none⟩
  match state.phase with
  | .outside | .afterComma | .afterColon _ => ended .endInValue
  | .opened | .afterKey _ | .afterValue => ended .endInObject
  | .inValue _ inner => ended (reader.ending inner)
  | .closed => .ok state.table

end ObjectState

def readTokens (reader : ValueReader σ α) (tokens : List Token) :
    Except Failure (Table α) := do
  let state ← tokens.foldlM (ObjectState.step reader) .start
  state.finish reader

def readObject (reader : ValueReader σ α) (document : String) :
    Except Error (Table α) :=
  (readTokens reader (scan document.toList)).mapError fun failure =>
    failure.locate document.toList

end VoiceCursor.Json

namespace VoiceCursor.Toml

/-! What can be wrong with a TOML document, and where. -/

/-- The bytes that a part of the document takes up. -/
structure Span where
  start : Nat
  stop : Nat
  deriving DecidableEq, Repr

inductive Rule where
  | character
  | stringCharacter
  | commentCharacter
  | escape
  | carriageReturn
  | closedString
  | completeToken
  | value
  | givenValue
  | key
  | givenKey
  | keyLength
  | equals
  | header
  | depth
  | bracket
  | brace
  | closedArray
  | closedTable
  | uniqueKey
  deriving DecidableEq

inductive Problem where
  | broken (rule : Rule)
  /-- The document is one, but an item in it is of another kind than is expected there. -/
  | mismatch (found expected : String)

structure Failure where
  problem : Problem
  span : Span

def broken (rule : Rule) (span : Span) : Except Failure α := .error ⟨.broken rule, span⟩

end VoiceCursor.Toml

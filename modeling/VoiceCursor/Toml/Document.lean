import VoiceCursor.Toml.Line

namespace VoiceCursor.Toml

/-! A whole document, put together from its lines. -/

/-- A document under way, and the table of the last header, to which pairs belong.
Before the first header they belong to the document itself. -/
structure Draft where
  entries : Entries
  header : Option (List Key × Key)

namespace Draft

def empty : Draft := ⟨[], none⟩

/-- Makes the table of a header. It may be there only if other headers imply it, and
then it moves to the end. -/
def openTable (key : Key) (span : Span) (entries : Entries) : Except Failure Entries :=
  match entries.entry? key.name with
  | none => .ok (entries.add key span (.table .header []))
  | some (_, .table .implied inner) =>
      .ok ((entries.without key.name).add key span (.table .header inner))
  | some _ => Entries.repeated key

def openElement (key : Key) (span : Span) (entries : Entries) : Except Failure Entries :=
  match entries.entry? key.name with
  | none => .ok (entries.add key span (.tables [[]]))
  | some (before, .tables elements) =>
      .ok (entries.replace key.name ⟨before.start, span.stop⟩ (.tables (elements ++ [[]])))
  | some _ => Entries.repeated key

/-- Adds a pair to the table of a header, which then reaches to the end of the pair. -/
def extend (key : Key) (pair : Pair) (entries : Entries) : Except Failure Entries := do
  match entries.entry? key.name with
  | some (before, .table origin inner) =>
      let inner ← Entries.insertPair origin inner pair
      return entries.replace key.name ⟨before.start, pair.span.stop⟩ (.table origin inner)
  | some (before, .tables elements) =>
      let last ← Entries.insertPair .header (elements.getLast?.getD []) pair
      return entries.replace key.name ⟨before.start, pair.span.stop⟩
        (.tables (elements.dropLast ++ [last]))
  | _ => Entries.repeated key

def changeIn (draft : Draft) (path : List Key)
    (change : Entries → Except Failure Entries) : Except Failure Entries :=
  Entries.changeAt .implied (fun _ entries => change entries) .header draft.entries path

def addLine (draft : Draft) : Line → Except Failure Draft
  | .empty => .ok draft
  | .header path key isElement span => do
      let change := if isElement then openElement key span else openTable key span
      return ⟨← draft.changeIn path change, some (path, key)⟩
  | .pair pair => do
      let entries ←
        match draft.header with
        | none => Entries.insertPair .header draft.entries pair
        | some (path, key) => draft.changeIn path (extend key pair)
      return ⟨entries, draft.header⟩

end Draft

def readDocument (document : String) : Except Failure Entries := do
  let lines ← readLines (← scan document.toList)
  return (← lines.foldlM Draft.addLine .empty).entries

end VoiceCursor.Toml

import VoiceCursor.Toml.Token

namespace VoiceCursor.Toml

/-! What a TOML document holds, and how keys with dots reach into it. -/

/-- How a table came about, which decides what may be added to it: by a header of its own or as
the document itself, on the way to the table of a header, on the way to a key with dots, or
between braces. -/
inductive Origin where
  | header
  | implied
  | dotted
  | inline
  deriving DecidableEq

/-- Entries are in the order of the document, each with the part of it that its item
comes from. -/
inductive Item where
  | string (value : String)
  | integer (value : Int)
  | float (value : Float)
  | boolean (value : Bool)
  | datetime
  | array (items : List Item)
  | table (origin : Origin) (entries : List (String × Span × Item))
  /-- The tables of a header in double brackets. -/
  | tables (elements : List (List (String × Span × Item)))

abbrev Entries := List (String × Span × Item)

structure Key where
  name : String
  span : Span

/-- A key and the item that it names, within the tables that lead to it. -/
structure Pair where
  path : List Key
  key : Key
  item : Item
  span : Span

namespace Entries

def entry? (entries : Entries) (name : String) : Option (Span × Item) :=
  entries.lookup name

def add (entries : Entries) (key : Key) (span : Span) (item : Item) : Entries :=
  entries ++ [(key.name, span, item)]

def replace (entries : Entries) (name : String) (span : Span) (item : Item) : Entries :=
  entries.map fun entry => if entry.1 = name then (name, span, item) else entry

def without (entries : Entries) (name : String) : Entries :=
  entries.filter fun entry => entry.1 ≠ name

def repeated (key : Key) : Except Failure α :=
  broken .uniqueKey key.span

/-- Whether a path may lead through a table. `made` is what the path makes of tables
that are not there yet. -/
def admits (made : Origin) : Origin → Bool
  | .header => made ≠ .dotted
  | .implied | .dotted => true
  | .inline => false

/-- Changes the table at the end of a path. Tables on the path that are not there yet
are made; where there is a list of tables, the path leads to the last of them. -/
def changeAt (made : Origin) (change : Origin → Entries → Except Failure Entries)
    (origin : Origin) (entries : Entries) : List Key → Except Failure Entries
  | [] => change origin entries
  | key :: path =>
      match entries.entry? key.name with
      | none => do
          let inner ← changeAt made change made [] path
          return entries.add key key.span (.table made inner)
      | some (span, .table origin inner) =>
          if admits made origin then do
            let inner ← changeAt made change origin inner path
            return entries.replace key.name span (.table origin inner)
          else repeated key
      | some (span, .tables elements) =>
          match elements.getLast? with
          | none => repeated key
          | some last => do
              let last ← changeAt made change .header last path
              return entries.replace key.name span (.tables (elements.dropLast ++ [last]))
      | some _ => repeated key

/-- Adds a pair to a table. Only tables that come from dots can be added to with dots,
and a key is used once. -/
def insertPair (origin : Origin) (entries : Entries) (pair : Pair) :
    Except Failure Entries :=
  changeAt .dotted
    (fun origin entries =>
      if decide (origin = .dotted) == pair.path.isEmpty then repeated pair.key
      else
        match entries.entry? pair.key.name with
        | some _ => repeated pair.key
        | none => .ok (entries.add pair.key pair.span pair.item))
    origin entries pair.path

def ofPairs (pairs : List Pair) : Except Failure Entries :=
  pairs.foldlM (insertPair .inline) []

end Entries

end VoiceCursor.Toml

namespace VoiceCursor

/-! Look-up tables keyed by words. -/

/-- Entries in no particular order, at most one for each key. -/
structure Table (α : Type) where
  entries : List (String × α)
  keys_nodup : (entries.map Prod.fst).Nodup

namespace Table

variable {α : Type}

def empty : Table α := ⟨[], List.nodup_nil⟩

def lookup? (table : Table α) (key : String) : Option α :=
  table.entries.lookup key

def insert (table : Table α) (key : String) (value : α) : Table α where
  entries := (key, value) :: table.entries.filter fun entry => entry.1 ≠ key
  keys_nodup := by
    rw [List.map_cons, List.nodup_cons]
    constructor
    · simp
    · exact table.keys_nodup.sublist (List.filter_sublist.map Prod.fst)

/-- Of several entries with one key the last counts. -/
def ofList (entries : List (String × α)) : Table α :=
  entries.foldl (fun table entry => table.insert entry.1 entry.2) empty

def keys (table : Table α) : List String :=
  table.entries.map Prod.fst

def size (table : Table α) : Nat :=
  table.entries.length

/-- The table with every key and every value replaced. Where keys become the same, it is not
laid down which of their values counts; here it is the one that was set longest ago. -/
def map {β : Type} (table : Table α) (onKey : String → String) (onValue : α → β) :
    Table β :=
  ofList (table.entries.map fun entry => (onKey entry.1, onValue entry.2))

end Table

end VoiceCursor

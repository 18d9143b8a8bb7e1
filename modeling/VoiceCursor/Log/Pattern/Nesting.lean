namespace VoiceCursor.Log.Pattern

/-! How deep the parts of a pattern nest. Of what is read already only the height is
kept, which is zero for a part with no other one in it. -/

/-- The height of parts side by side. Several of them make one part, around them. -/
def height : List Nat → Nat
  | [] => 0
  | [part] => part
  | parts => parts.foldl max 0 + 1

def maxHeight : Nat := 250

structure Options where
  /-- Whether characters count, and not bytes. -/
  unicode : Bool
  /-- Whether blanks and comments between the parts of the pattern are left out. -/
  spaced : Bool
  caseless : Bool

/-- A group as far as it is read, with the heights of what is in it, last one first: the
alternatives before the last bar and the parts behind it. -/
structure Group where
  options : Options
  alternatives : List Nat
  parts : List Nat
  repeatable : Bool

namespace Group

def start (options : Options) : Group := ⟨options, [], [], false⟩

def add (group : Group) (part : Nat) : Group :=
  { group with parts := part :: group.parts, repeatable := true }

/-- Options count from here to the end of the group, and are not repeated. -/
def addOptions (group : Group) (options : Options) : Group :=
  { group.add 0 with options := options, repeatable := false }

def addBar (group : Group) : Group :=
  { group with
    alternatives := height group.parts :: group.alternatives
    parts := []
    repeatable := false }

def repeatLast? (group : Group) : Option Group :=
  match group.repeatable, group.parts with
  | true, last :: before => some { group with parts := (last + 1) :: before }
  | _, _ => none

def height (group : Group) : Nat :=
  Pattern.height (Pattern.height group.parts :: group.alternatives)

end Group

/-- A class in brackets as far as it is read, with the heights of what stands before the last
operator and of the items behind it. -/
structure Class where
  left : Option Nat
  items : List Nat

namespace Class

def start : Class := ⟨none, []⟩

def add (inner : Class) (item : Nat) : Class := { inner with items := item :: inner.items }

def height (inner : Class) : Nat :=
  Pattern.height (Pattern.height inner.items :: inner.left.toList)

def addOperator (inner : Class) : Class := ⟨some inner.height, []⟩

end Class

end VoiceCursor.Log.Pattern

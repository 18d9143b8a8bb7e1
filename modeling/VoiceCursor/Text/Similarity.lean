namespace VoiceCursor.Text

/-! How alike two short texts are, between zero and one: the mean of the share of
characters of either text that have a partner in the other, and the share of those
pairs that come in the same order. -/

/-- Pairs each character with the first free place of the same character in the other
text, not further away than `reach`. The first list starts at `place`. -/
def pairUp (other : List Char) (reach place : Nat) (taken : List Nat) :
    List Char → List (Char × Nat)
  | [] => []
  | c :: rest =>
      let candidates := List.range (min other.length (place + reach + 1))
      let partner := candidates.find? fun candidate =>
        place ≤ candidate + reach && other[candidate]? = some c && !taken.contains candidate
      match partner with
      | none => pairUp other reach (place + 1) taken rest
      | some found =>
          (c, found) :: pairUp other reach (place + 1) (found :: taken) rest

def share (part whole : Nat) : Float := part.toFloat / whole.toFloat

/-- The sum is made from left to right, since the last bit of it may decide whether a
limit is passed. -/
def similarity (text other : String) : Float :=
  let first := text.toList
  let second := other.toList
  let reach := max first.length second.length / 2 - 1
  let pairs := pairUp second reach 0 [] first
  let places := pairs.map Prod.snd
  let partners := ((List.range second.length).filter places.contains).filterMap
    fun place => second[place]?
  let crossed := ((pairs.map Prod.fst).zip partners).filter fun pair => pair.1 ≠ pair.2
  let matched := pairs.length
  let ordered := matched - crossed.length / 2
  if matched = 0 then 0
  else
    (share matched first.length + share matched second.length + share ordered matched) / 3

/-- The candidate most like a text, if one is more than `enough` like it. Of several
the last counts. -/
def mostSimilar? (enough : Float) (text : String) (candidates : List String) :
    Option String :=
  let close := candidates.filter fun candidate => enough < similarity text candidate
  close.foldl
    (fun best candidate =>
      match best with
      | none => some candidate
      | some best =>
          if similarity text candidate < similarity text best then some best
          else some candidate)
    none

end VoiceCursor.Text

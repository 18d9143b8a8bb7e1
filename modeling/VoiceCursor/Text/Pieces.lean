namespace VoiceCursor.Text

/-! Cutting a text, or another list, at separators, joining the pieces again, and
trimming. -/

/-- The stretches between separators, one more than there are separators. -/
def splitWhere (separator : α → Bool) : List α → List (List α)
  | [] => [[]]
  | c :: rest =>
      if separator c then [] :: splitWhere separator rest
      else match splitWhere separator rest with
        | [] => [[c]]
        | piece :: pieces => (c :: piece) :: pieces

theorem splitWhere_ne_nil (separator : α → Bool) (text : List α) :
    splitWhere separator text ≠ [] := by
  cases text with
  | nil => simp [splitWhere]
  | cons c rest =>
      simp only [splitWhere]
      split
      · simp
      · split <;> simp

def joinWith (separator : List α) : List (List α) → List α
  | [] => []
  | [piece] => piece
  | piece :: next :: pieces =>
      piece ++ separator ++ joinWith separator (next :: pieces)

def trimEnd (unwanted : α → Bool) (text : List α) : List α :=
  (text.reverse.dropWhile unwanted).reverse

def trim (unwanted : α → Bool) (text : List α) : List α :=
  trimEnd unwanted (text.dropWhile unwanted)

end VoiceCursor.Text

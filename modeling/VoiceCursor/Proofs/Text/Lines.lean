import VoiceCursor.Proofs.Text.Pieces
import VoiceCursor.Text.Lines

namespace VoiceCursor.Text

/-! What the lines of a text are, from its first newline on. -/

theorem cutLines_append (before after : List UInt8) :
    cutLines (before ++ 10 :: after) =
      (splitWhere (· = 10) before).map dropCarriageReturn ++ cutLines after := by
  have hpieces : splitWhere (· = 10) after ≠ [] := splitWhere_ne_nil _ after
  rw [cutLines, splitWhere_append_separator before after (by rfl),
    List.dropLast_append_of_ne_nil hpieces, List.getLast?_append, List.map_append, cutLines,
    List.getLast?_eq_some_getLast hpieces, Option.some_or]
  split
  · rfl
  · rfl
  · rw [List.append_assoc]

theorem cutLines_newline (before : List UInt8) :
    cutLines (before ++ [10]) = (splitWhere (· = 10) before).map dropCarriageReturn := by
  rw [cutLines_append]
  exact List.append_nil _

theorem exists_piece_of_mem_cutLines {bytes line : List UInt8} (hline : line ∈ cutLines bytes) :
    ∃ piece ∈ splitWhere (· = 10) bytes, line = piece ∨ line = dropCarriageReturn piece := by
  have hended : line ∈ (splitWhere (· = 10) bytes).dropLast.map dropCarriageReturn →
      ∃ piece ∈ splitWhere (· = 10) bytes, line = piece ∨ line = dropCarriageReturn piece := by
    intro hmem
    obtain ⟨piece, hpiece, rfl⟩ := List.mem_map.mp hmem
    exact ⟨piece, List.dropLast_subset _ hpiece, .inr rfl⟩
  rw [cutLines] at hline
  split at hline
  · exact hended hline
  · exact hended hline
  · rename_i rest hrest hlast
    rcases List.mem_append.mp hline with hmem | hmem
    · exact hended hmem
    · rw [List.mem_singleton] at hmem
      exact ⟨rest, List.mem_of_getLast? hlast, .inl hmem⟩

variable {line : List UInt8} (hline : 10 ∉ line)

include hline

theorem splitWhere_newline_of_notMem : splitWhere (· = 10) line = [line] := by
  apply splitWhere_of_forall_not
  intro byte hbyte
  exact decide_eq_false fun hnewline => hline (hnewline ▸ hbyte)

theorem cutLines_cons (rest : List UInt8) :
    cutLines (line ++ 10 :: rest) = dropCarriageReturn line :: cutLines rest := by
  rw [cutLines_append, splitWhere_newline_of_notMem hline]
  rfl

theorem cutLines_of_notMem : cutLines line = if line = [] then [] else [line] := by
  rw [cutLines, splitWhere_newline_of_notMem hline]
  cases line with
  | nil => rfl
  | cons byte rest => rfl

end VoiceCursor.Text

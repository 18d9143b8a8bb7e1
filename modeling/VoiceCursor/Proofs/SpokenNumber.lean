import Mathlib.Data.List.Induction
import Mathlib.Data.Nat.Digits.Defs
import VoiceCursor.SpokenNumber
import VoiceCursor.Surface

namespace VoiceCursor

/-! The value of a word of digits. Stopping at the largest number after every digit comes
to the same as stopping there once at the end. A sign is read where a value is asked for, but
a word with a sign is not taken for a number unless the table lists it. -/

/-- The number that decimal digits write, however many they are. -/
def decimalValue (digits : List Char) : Nat :=
  Nat.ofDigits 10 (digits.reverse.map digitValue)

theorem decimalValue_concat (digits : List Char) (digit : Char) :
    decimalValue (digits ++ [digit]) = 10 * decimalValue digits + digitValue digit := by
  rw [decimalValue, List.reverse_concat, List.map_cons, Nat.ofDigits_cons, Nat.add_comm,
    decimalValue]

theorem readDecimal_concat (digits : List Char) (digit : Char) :
    readDecimal (digits ++ [digit]) =
      min (10 * readDecimal digits + digitValue digit) largestNumber := by
  rw [readDecimal, List.foldl_append, readDecimal]
  rfl

theorem readDecimal_eq_min (digits : List Char) :
    readDecimal digits = min (decimalValue digits) largestNumber := by
  induction digits using List.reverseRecOn with
  | nil => rfl
  | append_singleton digits digit ih =>
      rw [readDecimal_concat, decimalValue_concat, ih]
      omega

theorem cappedValue_of_isDigitRun {word : String} (hword : isDigitRun word = true) :
    cappedValue word = min (decimalValue word.toList) largestNumber := by
  rw [isDigitRun] at hword
  rw [cappedValue, ← readDecimal_eq_min]
  split
  · rename_i rest hplus
    simp [hplus] at hword
  · simp only [hword, if_true]

theorem landingLine_min_largestNumber {lineCount : Nat} (hlines : lineCount ≤ largestNumber)
    (requested : Nat) :
    landingLine lineCount (min requested largestNumber) = landingLine lineCount requested := by
  have hone : 1 ≤ largestNumber := by decide
  simp only [landingLine]
  omega

def AreDigits (chars : List Char) : Prop :=
  chars ≠ [] ∧ ∀ c ∈ chars, '0' ≤ c ∧ c ≤ '9'

/-- Whether a word is a decimal number, which may follow a plus sign, of the given value. -/
def WritesNumber (word : String) (value : Nat) : Prop :=
  ∃ digits, AreDigits digits ∧ (word.toList = digits ∨ word.toList = '+' :: digits) ∧
    decimalValue digits = value

theorem isDigit_iff {c : Char} : c.isDigit = true ↔ '0' ≤ c ∧ c ≤ '9' := by
  rw [Char.isDigit, Bool.and_eq_true, decide_eq_true_iff, decide_eq_true_iff]
  rfl

theorem areDigits_iff {chars : List Char} :
    (!chars.isEmpty && chars.all Char.isDigit) = true ↔ AreDigits chars := by
  rw [Bool.and_eq_true, List.all_eq_true, AreDigits]
  apply and_congr
  · simp
  · simp only [isDigit_iff]

theorem isDigitRun_iff {word : String} : isDigitRun word = true ↔ AreDigits word.toList :=
  areDigits_iff

theorem AreDigits.isDigitRun {digits : List Char} (hdigits : AreDigits digits) :
    isDigitRun (.ofList digits) = true := by
  rw [isDigitRun_iff, String.toList_ofList]
  exact hdigits

theorem not_areDigits_plus (chars : List Char) : ¬ AreDigits ('+' :: chars) := by
  rintro ⟨-, hall⟩
  have hplus := hall '+' List.mem_cons_self
  revert hplus
  decide

theorem cappedValue_of_writesNumber {word : String} {value : Nat}
    (hwrites : WritesNumber word value) : cappedValue word = min value largestNumber := by
  obtain ⟨digits, hdigits, hword | hword, rfl⟩ := hwrites
  · subst hword
    exact cappedValue_of_isDigitRun (isDigitRun_iff.mpr hdigits)
  · rw [cappedValue, hword, ← readDecimal_eq_min]
    exact if_pos (areDigits_iff.mpr hdigits)

theorem cappedValue_of_forall_not_writesNumber {word : String}
    (hnone : ∀ value, ¬ WritesNumber word value) : cappedValue word = largestNumber := by
  rw [cappedValue]
  split
  · rename_i rest hplus
    apply if_neg
    rw [areDigits_iff]
    exact fun hdigits => hnone _ ⟨rest, hdigits, .inr hplus, rfl⟩
  · apply if_neg
    rw [areDigits_iff]
    exact fun hdigits => hnone _ ⟨word.toList, hdigits, .inl rfl, rfl⟩

theorem cappedValue_of_not_writesNumber_le {word : String}
    (hnone : ∀ value ≤ largestNumber, ¬ WritesNumber word value) :
    cappedValue word = largestNumber := by
  by_cases hwrites : ∃ value, WritesNumber word value
  · obtain ⟨value, hvalue⟩ := hwrites
    rw [cappedValue_of_writesNumber hvalue, Nat.min_eq_right]
    exact Nat.le_of_not_le fun hle => hnone value hle hvalue
  · exact cappedValue_of_forall_not_writesNumber (not_exists.mp hwrites)

theorem decimalValue_leading_zeros (count : Nat) (digits : List Char) :
    decimalValue (List.replicate count '0' ++ digits) = decimalValue digits := by
  rw [decimalValue, List.reverse_append, List.reverse_replicate, List.map_append,
    List.map_replicate, decimalValue]
  exact Nat.ofDigits_append_replicate_zero _

theorem AreDigits.leading_zeros {digits : List Char} (hdigits : AreDigits digits) (count : Nat) :
    AreDigits (List.replicate count '0' ++ digits) := by
  refine ⟨List.append_ne_nil_of_right_ne_nil _ hdigits.1, ?_⟩
  intro c hc
  rcases List.mem_append.mp hc with hzero | hdigit
  · rw [List.eq_of_mem_replicate hzero]
    decide
  · exact hdigits.2 c hdigit

theorem NumberTable.number?_of_areDigits (table : NumberTable) {digits : List Char}
    (hdigits : AreDigits digits) :
    table.number? (.ofList digits) = some (min (decimalValue digits) largestNumber) := by
  have hrun := hdigits.isDigitRun
  rw [number?, if_pos hrun, cappedValue_of_isDigitRun hrun, String.toList_ofList]

theorem NumberTable.number?_of_not_areDigits (table : NumberTable) {word : String}
    (hword : ¬ AreDigits word.toList) : table.number? word = table.lookup? word := by
  rw [number?, if_neg (mt isDigitRun_iff.mp hword)]

/-- A word has the value that it writes, up to the largest number, which is the value of every
other word. Only digits have a value apart from the table, and it grows with what they write. -/
theorem spoken_numbers_exact :
    (∀ word value, WritesNumber word value → value ≤ 2 ^ 64 - 1 → cappedValue word = value) ∧
    (∀ word, (∀ value ≤ 2 ^ 64 - 1, ¬ WritesNumber word value) →
      cappedValue word = 2 ^ 64 - 1) ∧
    (∀ (table : NumberTable) digits, AreDigits digits →
      table.number? (.ofList digits) = some (min (decimalValue digits) (2 ^ 64 - 1))) ∧
    (∀ (table : NumberTable) digits others, AreDigits digits → AreDigits others →
      decimalValue digits ≤ decimalValue others →
      ∃ value other, table.number? (.ofList digits) = some value ∧
        table.number? (.ofList others) = some other ∧ value ≤ other) ∧
    (∀ (table : NumberTable) count digits, AreDigits digits →
      table.number? (.ofList (List.replicate count '0' ++ digits)) =
        table.number? (.ofList digits)) ∧
    (∀ (table : NumberTable) word, ¬ AreDigits word.toList →
      table.number? word = table.lookup? word) := by
  have hlargest : largestNumber = 2 ^ 64 - 1 := rfl
  rw [← hlargest]
  refine ⟨?_, ?_, ?_, ?_, ?_, ?_⟩
  · intro word value hwrites hle
    rw [cappedValue_of_writesNumber hwrites, Nat.min_eq_left hle]
  · intro word hnone
    exact cappedValue_of_not_writesNumber_le hnone
  · intro table digits hdigits
    exact table.number?_of_areDigits hdigits
  · intro table digits others hdigits hothers hle
    refine ⟨_, _, table.number?_of_areDigits hdigits, table.number?_of_areDigits hothers, ?_⟩
    omega
  · intro table count digits hdigits
    rw [table.number?_of_areDigits (hdigits.leading_zeros count),
      decimalValue_leading_zeros, table.number?_of_areDigits hdigits]
  · intro table word hword
    exact table.number?_of_not_areDigits hword

theorem spoken_numbers_exact_signed_listed :
    let table : NumberTable := .ofList [("+007", 3), ("7", 9), ("٣", 5)]
    cappedValue "+007" = 7 ∧ cappedValue "18446744073709551616" = 18446744073709551615 ∧
      cappedValue "++7" = 18446744073709551615 ∧ table.number? "7" = some 7 ∧
      table.number? "007" = table.number? "7" ∧
      (∃ value other, table.number? "7" = some value ∧ table.number? "18" = some other ∧
        value ≤ other) ∧
      table.number? "+007" = some 3 ∧ table.number? "٣" = some 5 := by
  intro table
  obtain ⟨hexact, hcapped, hdigits, hmono, hzeros, hlisted⟩ := spoken_numbers_exact
  have hseven : AreDigits ['7'] := areDigits_iff.mp rfl
  have hsigned : WritesNumber "+007" 7 := ⟨"007".toList, areDigits_iff.mp rfl, .inr rfl, rfl⟩
  have hlarge : ∀ value ≤ 2 ^ 64 - 1, ¬ WritesNumber "18446744073709551616" value := by
    rintro value hle ⟨digits, -, rfl | hplus, rfl⟩
    · revert hle
      decide
    · nomatch hplus
  have htwice : ∀ value ≤ 2 ^ 64 - 1, ¬ WritesNumber "++7" value := by
    rintro value - ⟨digits, hall, rfl | hplus, -⟩
    · exact not_areDigits_plus _ hall
    · obtain rfl : ['+', '7'] = digits := (List.cons.inj hplus).2
      exact not_areDigits_plus _ hall
  refine ⟨hexact _ _ hsigned (by decide), hcapped _ hlarge, hcapped _ htwice,
    hdigits table _ hseven, hzeros table 2 _ hseven,
    hmono table _ ['1', '8'] hseven (areDigits_iff.mp rfl) (by decide), ?_, ?_⟩
  · have hsign : ¬ AreDigits "+007".toList := not_areDigits_plus _
    rw [hlisted table _ hsign]
    rfl
  · have harabic : ¬ AreDigits "٣".toList := by
      rw [← isDigitRun_iff]
      decide
    rw [hlisted table _ harabic]
    rfl

end VoiceCursor

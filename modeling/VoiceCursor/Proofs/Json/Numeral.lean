import Mathlib.Tactic.SplitIfs
import VoiceCursor.Proofs.Json.Scan

namespace VoiceCursor.Json

open Text

/-! Numerals. The token of a numeral is a natural number exactly if it is written as one and fits
sixty-four bits. -/

namespace Numeral

/-- The number that is written by digits behind those of another number. -/
def decimalBehind (start : Nat) (digits : List Char) : Nat :=
  digits.foldl (fun value digit => 10 * value + digitValue digit) start

theorem decimalBehind_zero (digits : List Char) : decimalBehind 0 digits = decimalValue digits := by
  induction digits using List.reverseRecOn with
  | nil => rfl
  | append_singleton digits digit ih =>
      rw [decimalValue_concat, ← ih, decimalBehind, List.foldl_append]
      rfl

theorem le_decimalBehind (digits : List Char) (start : Nat) :
    start ≤ decimalBehind start digits := by
  induction digits generalizing start with
  | nil => exact Nat.le_refl start
  | cons digit rest ih =>
      have hstart : start ≤ 10 * start + digitValue digit := by omega
      exact hstart.trans (ih _)

theorem significand_of_le {digits : List Char} {start : Nat}
    (hfits : decimalBehind start digits ≤ largestNumber) :
    significand start digits = (decimalBehind start digits, digits.length) := by
  induction digits generalizing start with
  | nil => rfl
  | cons digit rest ih =>
      have hnext : 10 * start + digitValue digit ≤ largestNumber :=
        (le_decimalBehind rest _).trans hfits
      rw [significand, if_neg (Nat.not_lt.mpr hnext), ih hfits]
      rfl

theorem count_significand_lt_of_gt {digits : List Char} {start : Nat}
    (hstart : start ≤ largestNumber) (hlarge : largestNumber < decimalBehind start digits) :
    (significand start digits).2 < digits.length := by
  induction digits generalizing start with
  | nil => exact absurd hlarge (Nat.not_lt.mpr hstart)
  | cons digit rest ih =>
      rw [significand]
      split
      · exact Nat.zero_lt_succ _
      · rename_i hnext
        exact Nat.succ_lt_succ (ih (Nat.not_lt.mp hnext) hlarge)

theorem natural?_eq_some_iff {numeral : Numeral} {value : Nat} :
    numeral.natural? = some value ↔
      numeral.negative = false ∧ numeral.hasFraction = false ∧ numeral.hasExponent = false ∧
        decimalValue numeral.whole = value ∧ value ≤ largestNumber := by
  cases hnegative : numeral.negative <;> cases hfraction : numeral.hasFraction <;>
    cases hexponent : numeral.hasExponent <;>
    simp [natural?, hnegative, hfraction, hexponent, Option.filter_eq_some_iff]

theorem natural?_eq_none_iff {numeral : Numeral} :
    numeral.natural? = none ↔
      numeral.negative = true ∨ numeral.hasFraction = true ∨ numeral.hasExponent = true ∨
        largestNumber < decimalValue numeral.whole := by
  cases hnegative : numeral.negative <;> cases hfraction : numeral.hasFraction <;>
    cases hexponent : numeral.hasExponent <;>
    simp [natural?, hnegative, hfraction, hexponent]

private theorem map_float_ne_natural (numeral : Numeral) (value : Nat) :
    numeral.float.map NumberValue.float ≠ .ok (.natural value) := by
  cases numeral.float with
  | error problem => exact nofun
  | ok value => exact nofun

theorem value_of_natural? {numeral : Numeral} {value : Nat}
    (hvalue : numeral.natural? = some value) : numeral.value = .ok (.natural value) := by
  obtain ⟨hnegative, hfraction, hexponent, rfl, hfits⟩ := natural?_eq_some_iff.mp hvalue
  rw [← decimalBehind_zero] at hfits ⊢
  simp [Numeral.value, significand_of_le hfits, hnegative, hfraction, hexponent]

theorem value_of_natural?_eq_none {numeral : Numeral} (hnone : numeral.natural? = none)
    (value : Nat) : numeral.value ≠ .ok (.natural value) := by
  intro hvalue
  rcases hread : significand 0 numeral.whole with ⟨digits, count⟩
  simp only [Numeral.value, hread] at hvalue
  split at hvalue
  · exact map_float_ne_natural numeral value hvalue
  · rename_i hwhole
    simp only [Bool.or_eq_true, decide_eq_true_eq, not_or, Bool.not_eq_true, Nat.not_lt] at hwhole
    obtain ⟨⟨hfraction, hexponent⟩, hcount⟩ := hwhole
    split at hvalue
    · rename_i hpositive
      have hfits : decimalValue numeral.whole ≤ largestNumber := by
        rw [← decimalBehind_zero]
        by_contra hlarge
        have hless := count_significand_lt_of_gt (by decide) (Nat.not_le.mp hlarge)
        rw [hread] at hless
        exact Nat.not_lt.mpr hcount hless
      have hsome := natural?_eq_some_iff.mpr
        ⟨by simpa using hpositive, hfraction, hexponent, rfl, hfits⟩
      rw [hnone] at hsome
      contradiction
    · split at hvalue <;> cases hvalue

def ofDigits (digits : List Char) : Numeral := { empty with whole := digits }

end Numeral

/-- Whether a token comes of a numeral that writes no natural number, or too large a one. -/
def Kind.IsUnnatural : Kind → Prop
  | .number (.natural _) => False
  | .number _ | .broken _ => True
  | _ => False

namespace Numeral

theorem token_of_natural? {numeral : Numeral} {value : Nat}
    (hvalue : numeral.natural? = some value) (start stop : Nat) :
    numeral.token start stop = ⟨.number (.natural value), start, stop⟩ := by
  rw [token, value_of_natural? hvalue]

theorem isUnnatural_token {numeral : Numeral} (hnone : numeral.natural? = none)
    (start stop : Nat) : (numeral.token start stop).kind.IsUnnatural := by
  rw [token]
  cases hvalue : numeral.value with
  | error problem => trivial
  | ok value =>
      cases value with
      | natural value => exact value_of_natural?_eq_none hnone value hvalue
      | negative value => trivial
      | float value => trivial

end Numeral

/-- Whether a numeral that writes no natural number goes on, or its token is complete. -/
inductive Advance.IsUnnatural (start : Nat) : Advance → Prop where
  | into {phase : Phase} {numeral : Numeral} (hphase : phase ≠ .sign)
      (hnone : numeral.natural? = none) :
      IsUnnatural start (.into (.number start phase numeral))
  | emit {token : Token} {tokens : List Token} {mode : Option Mode}
      (htoken : token.kind.IsUnnatural) : IsUnnatural start ⟨token :: tokens, mode⟩

namespace Mode

theorem isUnnatural_stepNumber {phase : Phase} {numeral : Numeral}
    (hsign : phase = .sign → numeral.negative = true) (hnone : numeral.natural? = none)
    (offset start : Nat) (c : Char) :
    (stepNumber offset start phase numeral c).IsUnnatural start := by
  have hdigit : ({ numeral with whole := numeral.whole ++ [c] } : Numeral).natural? = none := by
    rw [Numeral.natural?_eq_none_iff] at hnone ⊢
    refine hnone.imp_right (.imp_right (.imp_right fun hlarge => ?_))
    show largestNumber < decimalValue (numeral.whole ++ [c])
    rw [decimalValue_concat]
    omega
  have hpoint : ({ numeral with hasFraction := true } : Numeral).natural? = none := by
    simp [Numeral.natural?_eq_none_iff]
  have hmark : ({ numeral with hasExponent := true } : Numeral).natural? = none := by
    simp [Numeral.natural?_eq_none_iff]
  have hend : (endNumber offset start numeral c).IsUnnatural start :=
    .emit (numeral.isUnnatural_token hnone start offset)
  have hinvalid : (Advance.stop ⟨.broken .invalidNumber, start, offset + 1⟩).IsUnnatural start :=
    .emit trivial
  cases phase with
  | sign =>
      simp only [stepNumber]
      split_ifs
      · exact .into nofun (Numeral.natural?_eq_none_iff.mpr (.inl (hsign rfl)))
      · exact .into nofun hdigit
      · exact hinvalid
  | zero =>
      simp only [stepNumber]
      split_ifs
      · exact hinvalid
      · exact .into nofun hpoint
      · exact .into nofun hmark
      · exact hend
  | whole =>
      simp only [stepNumber]
      split_ifs
      · exact .into nofun hdigit
      · exact .into nofun hpoint
      · exact .into nofun hmark
      · exact hend
  | point =>
      simp only [stepNumber]
      split_ifs
      · exact .into nofun hnone
      · exact hinvalid
  | fraction =>
      simp only [stepNumber]
      split_ifs
      · exact .into nofun hnone
      · exact .into nofun hmark
      · exact hend
  | exponentMark =>
      simp only [stepNumber]
      split_ifs
      · exact .into nofun hnone
      · exact .into nofun hnone
      · exact .emit trivial
      · exact .into nofun hnone
      · exact hinvalid
  | exponentSign =>
      simp only [stepNumber]
      split_ifs
      · exact .emit trivial
      · exact .into nofun hnone
      · exact hinvalid
  | exponent =>
      simp only [stepNumber]
      split_ifs
      · exact .emit trivial
      · exact .into nofun hnone
      · exact hend

end Mode

theorem exists_unnatural_scanFrom {phase : Phase} {numeral : Numeral}
    (hsign : phase = .sign → numeral.negative = true) (hnone : numeral.natural? = none)
    (start offset : Nat) (text : List Char) :
    ∃ token tokens, scanFrom (.number start phase numeral) offset text = token :: tokens ∧
      token.kind.IsUnnatural := by
  induction text generalizing phase numeral offset with
  | nil =>
      have hends : (Mode.number start phase numeral).finish offset =
            [numeral.token start offset] ∨
          (Mode.number start phase numeral).finish offset =
            [⟨.broken .endInValue, start, offset⟩] := by
        cases phase <;> simp [Mode.finish]
      rw [scanFrom]
      rcases hends with hend | hend
      · exact ⟨_, _, hend, numeral.isUnnatural_token hnone start offset⟩
      · exact ⟨_, _, hend, trivial⟩
  | cons c rest ih =>
      have hadvance := Mode.isUnnatural_stepNumber hsign hnone offset start c
      rw [scanFrom, Mode.step]
      generalize Mode.stepNumber offset start phase numeral c = advance at hadvance
      cases hadvance with
      | into hphase hlonger => exact ih (fun heq => absurd heq hphase) hlonger _
      | @emit token tokens mode htoken =>
          cases mode with
          | none => exact ⟨token, tokens, rfl, htoken⟩
          | some next => exact ⟨token, _, rfl, htoken⟩

/-- Whether a text does not continue a numeral of digits only. -/
def EndsDigits : List Char → Prop
  | [] => True
  | c :: _ => (c.isDigit || c = '.' || c = 'e' || c = 'E') = false

namespace Mode

theorem leads_digits {digits : List Char} (hdigits : ∀ c ∈ digits, c.isDigit = true)
    (start : Nat) (read : List Char) :
    (number start .whole (.ofDigits read)).Leads digits
      (.number start .whole (.ofDigits (read ++ digits))) := by
  induction digits generalizing read with
  | nil =>
      rw [List.append_nil]
      exact .nil _
  | cons c rest ih =>
      obtain ⟨hc, hrest⟩ := List.forall_mem_cons.mp hdigits
      have hall := ih hrest (read ++ [c])
      rw [List.append_assoc] at hall
      refine .cons (fun offset rest => ?_) hall
      simp only [step, stepNumber, hc, if_true, Numeral.ofDigits]

theorem step_between_digit {c : Char} (hdigit : c.isDigit = true) (hzero : c ≠ '0')
    (offset : Nat) (rest : List Char) :
    between.step offset c rest = .into (.number offset .whole (.ofDigits [c])) := by
  have hspace : isSpace c = false := by
    rw [← Bool.not_eq_true, isSpace]
    intro hspace
    simp only [Bool.or_eq_true, decide_eq_true_eq] at hspace
    rcases hspace with ((rfl | rfl) | rfl) | rfl <;> exact absurd hdigit (by decide)
  simp only [step, stepBetween, hspace, Bool.false_eq_true, if_false]
  split
  case h_13 => rw [if_pos hdigit, Numeral.ofDigits]
  case h_12 => contradiction
  all_goals exact absurd hdigit (by decide)

end Mode

theorem exists_scanFrom_whole {numeral : Numeral} (hformed : numeral.IsWellFormed) (offset : Nat)
    (rest : List Char) :
    ∃ phase, (phase = .zero ∨ phase = .whole) ∧
      scanFrom .between offset (numeral.whole ++ rest) =
        scanFrom (.number offset phase (.ofDigits numeral.whole))
          (offset + byteLength numeral.whole) rest := by
  obtain ⟨first, digits, hwhole⟩ := List.exists_cons_of_ne_nil hformed.whole_ne_nil
  by_cases hzero : first = '0'
  · have hone : numeral.whole = ['0'] := hformed.whole_zero (by rw [hwhole, hzero, List.head?_cons])
    rw [hone]
    exact ⟨.zero, .inl rfl, rfl⟩
  · have hall := hformed.whole_digits
    rw [hwhole, List.all_cons, Bool.and_eq_true, List.all_eq_true] at hall
    obtain ⟨hfirst, hdigits⟩ := hall
    refine ⟨.whole, .inr rfl, ?_⟩
    rw [hwhole, List.cons_append,
      scanFrom_of_into (Mode.step_between_digit hfirst hzero offset _),
      Mode.leads_digits hdigits, byteLength, Nat.add_assoc, List.singleton_append]

theorem scanFrom_ofDigits {phase : Phase} (hphase : phase = .zero ∨ phase = .whole)
    (digits : List Char) (start offset : Nat) {rest : List Char} (hrest : EndsDigits rest) :
    scanFrom (.number start phase (.ofDigits digits)) offset rest =
      (Numeral.ofDigits digits).token start offset :: scanFrom .between offset rest := by
  cases rest with
  | nil => rcases hphase with rfl | rfl <;> rfl
  | cons c rest =>
      simp only [EndsDigits, Bool.or_eq_false_iff, decide_eq_false_iff_not] at hrest
      obtain ⟨⟨⟨hdigit, hpoint⟩, hsmall⟩, hcapital⟩ := hrest
      have hstep : (Mode.number start phase (.ofDigits digits)).step offset c rest =
          Mode.endNumber offset start (.ofDigits digits) c := by
        rcases hphase with rfl | rfl <;>
          simp [Mode.step, Mode.stepNumber, hdigit, hpoint, hsmall, hcapital]
      rw [scanFrom, hstep, scanFrom, Mode.endNumber, Mode.step]
      dsimp only
      cases (Mode.stepBetween offset c).mode with
      | none => rfl
      | some next => rfl

theorem Mode.step_behind_digits {phase : Phase} (hphase : phase = .zero ∨ phase = .whole) {c : Char}
    (hmark : c = '.' ∨ c = 'e' ∨ c = 'E') (digits : List Char) (start offset : Nat)
    (rest : List Char) :
    ∃ next longer, next ≠ .sign ∧ longer.natural? = none ∧
      (number start phase (.ofDigits digits)).step offset c rest =
        .into (.number start next longer) := by
  rcases hmark with rfl | hmark
  · refine ⟨.point, { Numeral.ofDigits digits with hasFraction := true }, nofun,
      Numeral.natural?_eq_none_iff.mpr (.inr (.inl rfl)), ?_⟩
    rcases hphase with rfl | rfl <;> rfl
  · refine ⟨.exponentMark, { Numeral.ofDigits digits with hasExponent := true }, nofun,
      Numeral.natural?_eq_none_iff.mpr (.inr (.inr (.inl rfl))), ?_⟩
    rcases hphase with rfl | rfl <;> rcases hmark with rfl | rfl <;> rfl

theorem Numeral.exists_exponent_mark {numeral : Numeral} (hmark : numeral.hasExponent = true)
    {exponent : List Char} (hexponent : exponent ∈ numeral.exponentParts) :
    ∃ mark tail, exponent = mark :: tail ∧ (mark = 'e' ∨ mark = 'E') := by
  rw [exponentParts, hmark, if_pos rfl, List.mem_map] at hexponent
  obtain ⟨marks, hmarks, rfl⟩ := hexponent
  rw [exponentMarks] at hmarks
  split at hmarks <;> simp only [List.mem_cons, List.not_mem_nil, or_false] at hmarks
  · rcases hmarks with rfl | rfl <;> simp
  · rcases hmarks with rfl | rfl | rfl | rfl <;> simp

theorem scanFrom_natural {numeral : Numeral} {word : List Char} (hword : numeral.Spells word)
    {value : Nat} (hvalue : numeral.natural? = some value) (offset : Nat) {rest : List Char}
    (hrest : EndsDigits rest) :
    scanFrom .between offset (word ++ rest) =
      ⟨.number (.natural value), offset, offset + byteLength word⟩ ::
        scanFrom .between (offset + byteLength word) rest := by
  obtain ⟨hformed, exponent, hexponent, rfl⟩ := hword
  obtain ⟨hnegative, hfraction, hmark, hdigits⟩ := Numeral.natural?_eq_some_iff.mp hvalue
  have hwhole : numeral.signPart ++ (numeral.whole ++ (numeral.fractionPart ++ exponent)) =
      numeral.whole := by
    simp only [Numeral.exponentParts, hmark, Bool.false_eq_true, if_false,
      List.mem_singleton] at hexponent
    simp [Numeral.signPart, Numeral.fractionPart, hnegative, hfraction, hexponent]
  have hplain : (Numeral.ofDigits numeral.whole).natural? = some value :=
    Numeral.natural?_eq_some_iff.mpr ⟨rfl, rfl, rfl, hdigits⟩
  obtain ⟨phase, hphase, hscan⟩ := exists_scanFrom_whole hformed offset rest
  rw [hwhole, hscan, scanFrom_ofDigits hphase _ _ _ hrest, Numeral.token_of_natural? hplain]

theorem exists_scanFrom_unnatural {numeral : Numeral} {word : List Char}
    (hword : numeral.Spells word) (hnone : numeral.natural? = none) (offset : Nat)
    (rest : List Char) :
    ∃ token tokens, scanFrom .between offset (word ++ rest) = token :: tokens ∧
      token.kind.IsUnnatural := by
  obtain ⟨hformed, exponent, hexponent, rfl⟩ := hword
  cases hnegative : numeral.negative with
  | true =>
      have hsign : numeral.signPart = ['-'] := by rw [Numeral.signPart, hnegative]; rfl
      rw [hsign]
      exact exists_unnatural_scanFrom (fun _ => rfl)
        (Numeral.natural?_eq_none_iff.mpr (.inl rfl)) offset _ _
  | false =>
      have hsign : numeral.signPart = [] := by rw [Numeral.signPart, hnegative]; rfl
      obtain ⟨phase, hphase, hscan⟩ := exists_scanFrom_whole hformed offset
        ((numeral.fractionPart ++ exponent) ++ rest)
      rw [hsign, List.nil_append, List.append_assoc, hscan]
      have hahead {c : Char} (hmark : c = '.' ∨ c = 'e' ∨ c = 'E') (later : Nat)
          (others : List Char) :
          ∃ token tokens, scanFrom (.number offset phase (.ofDigits numeral.whole)) later
            (c :: others) = token :: tokens ∧ token.kind.IsUnnatural := by
        obtain ⟨next, longer, hnext, hlonger, hstep⟩ :=
          Mode.step_behind_digits hphase hmark numeral.whole offset later others
        rw [scanFrom_of_into hstep]
        exact exists_unnatural_scanFrom (fun heq => absurd heq hnext) hlonger offset _ others
      cases hfraction : numeral.hasFraction with
      | true =>
          have hpart : numeral.fractionPart = '.' :: numeral.fraction := by
            rw [Numeral.fractionPart, hfraction]
            rfl
          rw [hpart]
          exact hahead (.inl rfl) _ _
      | false =>
          have hpart : numeral.fractionPart = [] := by
            rw [Numeral.fractionPart, hfraction]
            rfl
          rw [hpart, List.nil_append]
          cases hmark : numeral.hasExponent with
          | true =>
              obtain ⟨mark, tail, rfl, hmarks⟩ := Numeral.exists_exponent_mark hmark hexponent
              exact hahead (.inr hmarks) _ _
          | false =>
              have hlarge : largestNumber < decimalValue numeral.whole := by
                simpa [Numeral.natural?_eq_none_iff, hnegative, hfraction, hmark] using hnone
              have hplain : (Numeral.ofDigits numeral.whole).natural? = none :=
                Numeral.natural?_eq_none_iff.mpr (.inr (.inr (.inr hlarge)))
              refine exists_unnatural_scanFrom (fun hsign => ?_) hplain offset _ _
              rcases hphase with rfl | rfl <;> nomatch hsign

end VoiceCursor.Json

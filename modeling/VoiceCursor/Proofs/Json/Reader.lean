import VoiceCursor.Json.Reader
import VoiceCursor.Proofs.Json.Numeral

namespace VoiceCursor.Json

open Text

/-! Reading what was written. The lexemes of a document decide what is read of it, in whatever
way they are spelled. -/

namespace Lexeme

/-- The kind of the token that stands for the lexeme. Only some numbers are known exactly. -/
def kind? : Lexeme → Option Kind
  | .openBrace => some .openBrace
  | .closeBrace => some .closeBrace
  | .openBracket => some .openBracket
  | .closeBracket => some .closeBracket
  | .comma => some .comma
  | .colon => some .colon
  | .null => some .null
  | .boolean value => some (.boolean value)
  | .number numeral => numeral.natural?.map fun value => .number (.natural value)
  | .string text => some (.string text)

def isNumber : Lexeme → Bool
  | .number _ => true
  | _ => false

/-- Whether a token of the kind may be what is made of the lexeme. -/
def Means (lexeme : Lexeme) (kind : Kind) : Prop :=
  match lexeme.kind? with
  | some known => kind = known
  | none => kind.IsUnnatural

theorem exists_scanFrom {lexeme : Lexeme} {word rest : List Char} {kind : Kind}
    (hword : lexeme.Spells word) (hkind : lexeme.kind? = some kind)
    (hrest : lexeme.isNumber = true → EndsDigits rest) (offset : Nat) :
    ∃ start stop, scanFrom .between offset (word ++ rest) =
      ⟨kind, start, stop⟩ :: scanFrom .between (offset + byteLength word) rest := by
  cases lexeme with
  | number numeral =>
      obtain ⟨value, hvalue, rfl⟩ := Option.map_eq_some_iff.mp hkind
      exact ⟨_, _, scanFrom_natural hword hvalue offset (hrest rfl)⟩
  | string text =>
      cases hkind
      obtain ⟨body, hbody, rfl⟩ := hword
      exact ⟨_, _, scanFrom_string hbody offset rest⟩
  | boolean value =>
      cases hkind
      cases value with
      | true =>
          rw [show word = _ from hword]
          exact ⟨_, _, rfl⟩
      | false =>
          rw [show word = _ from hword]
          exact ⟨_, _, rfl⟩
  | _ =>
      cases hkind
      rw [show word = _ from hword]
      exact ⟨_, _, rfl⟩

theorem exists_means {lexeme : Lexeme} {word rest : List Char} (hword : lexeme.Spells word)
    (hrest : lexeme.isNumber = true → EndsDigits rest) (offset : Nat) :
    ∃ token tokens, scanFrom .between offset (word ++ rest) = token :: tokens ∧
      lexeme.Means token.kind := by
  cases hkind : lexeme.kind? with
  | some kind =>
      obtain ⟨start, stop, hscan⟩ := exists_scanFrom hword hkind hrest offset
      refine ⟨_, _, hscan, ?_⟩
      rw [Means, hkind]
  | none =>
      cases lexeme with
      | number numeral =>
          obtain ⟨token, tokens, hscan, htoken⟩ :=
            exists_scanFrom_unnatural hword (Option.map_eq_none_iff.mp hkind) offset rest
          refine ⟨token, tokens, hscan, ?_⟩
          rw [Means, hkind]
          exact htoken
      | _ => nomatch hkind

end Lexeme

def FollowsValue (lexemes : List Lexeme) : Prop :=
  ∃ first ∈ [Lexeme.closeBrace, .closeBracket, .comma], ∃ rest, lexemes = first :: rest

theorem SpellsAll.endsDigits {lexemes : List Lexeme} {text : List Char}
    (htext : SpellsAll lexemes text) (hfollows : FollowsValue lexemes) : EndsDigits text := by
  obtain ⟨first, hfirst, rest, rfl⟩ := hfollows
  cases htext with
  | space hspace htext =>
      simp only [isSpace, Bool.or_eq_true, decide_eq_true_eq] at hspace
      rcases hspace with ((rfl | rfl) | rfl) | rfl <;> rfl
  | lexeme hword htext =>
      simp only [List.mem_cons, List.not_mem_nil, or_false] at hfirst
      rcases hfirst with rfl | rfl | rfl <;> cases hword <;> rfl

/-- What is read of tokens from a state on, if it is a table. -/
def readFrom {σ α : Type} (reader : ValueReader σ α) (state : ObjectState σ α)
    (tokens : List Token) : Option (Table α) :=
  (tokens.foldlM (ObjectState.step reader) state >>= ObjectState.finish reader).toOption

/-- Whether the result is read of the lexemes from a state on, however they are written. -/
def Reads {σ α : Type} (reader : ValueReader σ α) (state : ObjectState σ α)
    (lexemes : List Lexeme) (result : Option (Table α)) : Prop :=
  ∀ offset text, SpellsAll lexemes text →
    readFrom reader state (scanFrom .between offset text) = result

section Reads

variable {σ α : Type} {reader : ValueReader σ α} {state next : ObjectState σ α}

theorem toOption_readObject (reader : ValueReader σ α) (document : String) :
    (readObject reader document).toOption = readFrom reader .start (scan document.toList) := by
  rw [readObject, readTokens, readFrom]
  cases (scan document.toList).foldlM (ObjectState.step reader) .start >>=
      ObjectState.finish reader <;> rfl

theorem readFrom_cons_of_ok {token : Token} (hstep : state.step reader token = .ok next)
    (tokens : List Token) :
    readFrom reader state (token :: tokens) = readFrom reader next tokens := by
  rw [readFrom, List.foldlM_cons, hstep]
  rfl

theorem readFrom_cons_of_error {token : Token} {failure : Failure}
    (hstep : state.step reader token = .error failure) (tokens : List Token) :
    readFrom reader state (token :: tokens) = none := by
  rw [readFrom, List.foldlM_cons, hstep]
  rfl

theorem scanFrom_space {c : Char} (hspace : isSpace c = true) (offset : Nat)
    (rest : List Char) :
    scanFrom .between offset (c :: rest) = scanFrom .between (offset + c.utf8Size) rest := by
  apply scanFrom_of_into
  simp only [Mode.step, Mode.stepBetween, hspace, if_true]

namespace Reads

variable {lexeme : Lexeme} {lexemes : List Lexeme} {result : Option (Table α)}

theorem nil (state : ObjectState σ α) :
    Reads reader state [] (state.finish reader).toOption := by
  intro offset text htext
  generalize hlexemes : [] = lexemes at htext
  induction htext generalizing offset with
  | nil => rfl
  | space hspace htext ih =>
      rw [scanFrom_space hspace]
      exact ih _ hlexemes
  | lexeme hword htext ih => nomatch hlexemes

theorem of_word (hword : ∀ offset word text, lexeme.Spells word → SpellsAll lexemes text →
      readFrom reader state (scanFrom .between offset (word ++ text)) = result) :
    Reads reader state (lexeme :: lexemes) result := by
  intro offset text htext
  generalize hall : lexeme :: lexemes = all at htext
  induction htext generalizing offset with
  | nil => nomatch hall
  | space hspace htext ih =>
      rw [scanFrom_space hspace]
      exact ih _ hall
  | lexeme hspells htext ih =>
      cases hall
      exact hword offset _ _ hspells htext

variable (hnumber : lexeme.isNumber = true → FollowsValue lexemes)

include hnumber

theorem cons {kind : Kind} (hkind : lexeme.kind? = some kind)
    (hstep : ∀ start stop, state.step reader ⟨kind, start, stop⟩ = .ok next)
    (hrest : Reads reader next lexemes result) :
    Reads reader state (lexeme :: lexemes) result := by
  refine of_word fun offset word text hword htext => ?_
  -- Digits alone do not tell where a number ends, what is behind them does.
  obtain ⟨start, stop, hscan⟩ :=
    lexeme.exists_scanFrom hword hkind (fun h => htext.endsDigits (hnumber h)) offset
  rw [hscan, readFrom_cons_of_ok (hstep start stop)]
  exact hrest _ _ htext

theorem none (hstep : ∀ token : Token, lexeme.Means token.kind →
      ∃ failure, state.step reader token = .error failure) :
    Reads reader state (lexeme :: lexemes) none := by
  refine of_word fun offset word text hword htext => ?_
  obtain ⟨token, tokens, hscan, hmeans⟩ :=
    lexeme.exists_means hword (fun h => htext.endsDigits (hnumber h)) offset
  obtain ⟨failure, hfailure⟩ := hstep token hmeans
  rw [hscan, readFrom_cons_of_error hfailure]

end Reads

end Reads

/-! Values. -/

def Value.opening : Value → Lexeme
  | .null => .null
  | .boolean value => .boolean value
  | .number numeral => .number numeral
  | .string text => .string text
  | .list _ => .openBracket
  | .object _ => .openBrace

theorem Value.exists_lexemes (value : Value) :
    ∃ rest, value.lexemes = value.opening :: rest ∧
      (value.opening.isNumber = true → rest = []) := by
  cases value with
  | list elements => cases elements <;> exact ⟨_, rfl, nofun⟩
  | object entries => cases entries <;> exact ⟨_, rfl, nofun⟩
  | _ => exact ⟨[], rfl, fun _ => rfl⟩

theorem followsValue_elementsBehind (elements : List Value) (more : List Lexeme) :
    FollowsValue (elementsBehind elements ++ more) := by
  cases elements <;> exact ⟨_, by simp, _, rfl⟩

theorem followsValue_entriesBehind (entries : List (String × Value)) :
    FollowsValue (entriesBehind entries) := by
  cases entries <;> exact ⟨_, by simp, _, rfl⟩

section Values

variable {σ α : Type} {reader : ValueReader σ α} {state : ObjectState σ α}

theorem reads_none_of_opening {value : Value} {more : List Lexeme} (hmore : FollowsValue more)
    (hstep : ∀ token : Token, value.opening.Means token.kind →
      ∃ failure, state.step reader token = .error failure) :
    Reads reader state (value.lexemes ++ more) none := by
  obtain ⟨rest, hlexemes, hnumber⟩ := value.exists_lexemes
  rw [hlexemes, List.cons_append]
  refine .none (fun h => ?_) hstep
  rw [hnumber h]
  exact hmore

/-- Whether the reader takes the values of a type, and those only. -/
def ValueReader.Takes (reader : ValueReader σ α) (typed : Value → Option α) : Prop :=
  ∀ (key : String) (table : Table α) (value : Value) (more : List Lexeme)
    (outcome : α → Option (Table α)), FollowsValue more →
    (∀ result, Reads reader ⟨.afterValue, table.insert key result⟩ more (outcome result)) →
      Reads reader ⟨.afterColon key, table⟩ (value.lexemes ++ more) ((typed value).bind outcome)

section Step

variable {key : String} {table : Table α} {token : Token}

theorem exists_step_error_of_first (hfirst : ∃ failure, reader.first token = .error failure) :
    ∃ failure, ObjectState.step reader ⟨.afterColon key, table⟩ token = .error failure := by
  obtain ⟨failure, hfailure⟩ := hfirst
  exact ⟨failure, by simp only [ObjectState.step, hfailure, Except.map]⟩

theorem exists_step_error_of_next {inner : σ}
    (hnext : ∃ failure, reader.next inner token = .error failure) :
    ∃ failure, ObjectState.step reader ⟨.inValue key inner, table⟩ token = .error failure := by
  obtain ⟨failure, hfailure⟩ := hnext
  exact ⟨failure, by simp only [ObjectState.step, hfailure, Except.map]⟩

end Step

theorem exists_unexpected_error (α : Type) (token : Token) (expected : Expected) :
    ∃ failure, (token.unexpected expected : Except Failure α) = .error failure := by
  rw [Token.unexpected]
  dsimp only
  split <;> exact ⟨_, rfl⟩

theorem exists_naturals_first_error {token : Token}
    (hkind : ∀ value, token.kind ≠ .number (.natural value)) :
    ∃ failure, naturals.first token = .error failure := by
  simp only [naturals]
  split
  · rename_i value hnatural
    exact absurd hnatural (hkind value)
  · exact ⟨_, rfl⟩
  · exact exists_unexpected_error _ token .natural

theorem exists_stringLists_first_error {token : Token} (hkind : token.kind ≠ .openBracket) :
    ∃ failure, stringLists.first token = .error failure := by
  have hunexpected : stringLists.first token = token.unexpected .sequence := by
    simp only [stringLists]
  rw [hunexpected]
  exact exists_unexpected_error _ token .sequence

theorem exists_stringLists_next_error {phase : ListPhase} (hphase : phase ≠ .afterElement)
    (read : List String) {token : Token} (hstring : ∀ text, token.kind ≠ .string text)
    (hclose : token.kind ≠ .closeBracket) :
    ∃ failure, stringLists.next ⟨phase, read⟩ token = .error failure := by
  have helement : ∃ failure, ListState.element ⟨phase, read⟩ token = .error failure := by
    rw [ListState.element]
    split
    · rename_i text htext
      exact absurd htext (hstring text)
    · exact exists_unexpected_error _ token .string
  simp only [stringLists]
  split <;> first | contradiction | exact helement

theorem Value.not_means_natural {value : Value} (hnone : value.natural? = none) {kind : Kind}
    (hmeans : value.opening.Means kind) (natural : Nat) : kind ≠ .number (.natural natural) := by
  rintro rfl
  cases value with
  | number numeral =>
      have hnone : (Lexeme.number numeral).kind? = none :=
        Option.map_eq_none_iff.mpr hnone
      rw [opening, Lexeme.Means, hnone] at hmeans
      exact hmeans
  | _ => nomatch hmeans

theorem takes_naturals : naturals.Takes Value.natural? := by
  intro key table value more outcome hmore houtcome
  cases hvalue : value.natural? with
  | some natural =>
      cases value with
      | number numeral =>
          have hkind : (Lexeme.number numeral).kind? = some (.number (.natural natural)) :=
            Option.map_eq_some_iff.mpr ⟨natural, hvalue, rfl⟩
          exact .cons (fun _ => hmore) hkind (fun start stop => rfl) (houtcome natural)
      | _ => nomatch hvalue
  | none =>
      refine reads_none_of_opening hmore fun token hmeans => exists_step_error_of_first ?_
      exact exists_naturals_first_error (value.not_means_natural hvalue hmeans)

theorem Lexeme.means_number {numeral : Numeral} {kind : Kind}
    (hmeans : (Lexeme.number numeral).Means kind) :
    (∃ value, kind = .number value) ∨ ∃ problem, kind = .broken problem := by
  rw [Means] at hmeans
  split at hmeans
  · rename_i known hknown
    obtain ⟨natural, -, rfl⟩ := Option.map_eq_some_iff.mp hknown
    exact .inl ⟨_, hmeans⟩
  · cases kind with
    | number value => exact .inl ⟨value, rfl⟩
    | broken problem => exact .inr ⟨problem, rfl⟩
    | _ => exact hmeans.elim

theorem Value.not_means_string {value : Value} (hnone : value.string? = none) {kind : Kind}
    (hmeans : value.opening.Means kind) :
    (∀ text, kind ≠ .string text) ∧ kind ≠ .closeBracket := by
  cases value with
  | number numeral =>
      rcases Lexeme.means_number hmeans with ⟨number, rfl⟩ | ⟨problem, rfl⟩ <;>
        exact ⟨nofun, nofun⟩
  | string text => nomatch hnone
  | _ =>
      simp only [opening, Lexeme.Means, Lexeme.kind?] at hmeans
      subst hmeans
      exact ⟨nofun, nofun⟩

theorem Value.not_means_openBracket {value : Value} (hlist : ∀ elements, value ≠ .list elements)
    {kind : Kind} (hmeans : value.opening.Means kind) : kind ≠ .openBracket := by
  cases value with
  | number numeral =>
      rcases Lexeme.means_number hmeans with ⟨number, rfl⟩ | ⟨problem, rfl⟩ <;> exact nofun
  | list elements => exact absurd rfl (hlist elements)
  | _ =>
      simp only [opening, Lexeme.Means, Lexeme.kind?] at hmeans
      subst hmeans
      exact nofun

theorem reads_element {phase : ListPhase} (hphase : phase ≠ .afterElement) {key : String}
    {table : Table (List String)} {read : List String} (value : Value) {more : List Lexeme}
    {outcome : String → Option (Table (List String))} (hmore : FollowsValue more)
    (houtcome : ∀ text, Reads stringLists ⟨.inValue key ⟨.afterElement, read ++ [text]⟩, table⟩ more
      (outcome text)) :
    Reads stringLists ⟨.inValue key ⟨phase, read⟩, table⟩ (value.lexemes ++ more)
      (value.string?.bind outcome) := by
  cases hvalue : value.string? with
  | some text =>
      cases value with
      | string given =>
          cases hvalue
          refine .cons nofun rfl (fun start stop => ?_) (houtcome text)
          cases phase with
          | afterElement => contradiction
          | _ => rfl
      | _ => nomatch hvalue
  | none =>
      refine reads_none_of_opening hmore fun token hmeans => exists_step_error_of_next ?_
      obtain ⟨hstring, hclose⟩ := value.not_means_string hvalue hmeans
      exact exists_stringLists_next_error hphase read hstring hclose

theorem reads_elementsBehind (elements : List Value) {key : String}
    {table : Table (List String)} {read : List String} {more : List Lexeme}
    {outcome : List String → Option (Table (List String))}
    (houtcome : ∀ words, Reads stringLists ⟨.afterValue, table.insert key words⟩ more
      (outcome words)) :
    Reads stringLists ⟨.inValue key ⟨.afterElement, read⟩, table⟩ (elementsBehind elements ++ more)
      ((elements.mapM Value.string?).bind fun words => outcome (read ++ words)) := by
  induction elements generalizing read with
  | nil =>
      have hresult : (([] : List Value).mapM Value.string?).bind (fun words =>
          outcome (read ++ words)) = outcome read := by simp
      rw [hresult]
      exact .cons nofun rfl (fun start stop => rfl) (houtcome read)
  | cons value elements ih =>
      have hresult : (((value :: elements).mapM Value.string?).bind fun words =>
            outcome (read ++ words)) =
          value.string?.bind fun text =>
            (elements.mapM Value.string?).bind fun words => outcome (read ++ [text] ++ words) := by
        simp [List.mapM_cons, Option.bind_assoc]
      have hphase : ListPhase.afterComma ≠ .afterElement := nofun
      rw [hresult, elementsBehind, List.cons_append, List.append_assoc]
      exact .cons nofun rfl (fun start stop => rfl)
        (reads_element hphase value (followsValue_elementsBehind elements more) fun text => ih)

theorem takes_stringLists : stringLists.Takes Value.strings? := by
  intro key table value more outcome hmore houtcome
  cases value with
  | list elements =>
      cases elements with
      | nil =>
          exact .cons nofun rfl (fun start stop => rfl)
            (.cons nofun rfl (fun start stop => rfl) (houtcome []))
      | cons first rest =>
          have hphase : ListPhase.opened ≠ .afterElement := nofun
          have hresult : (Value.list (first :: rest)).strings?.bind outcome =
              first.string?.bind fun text =>
                (rest.mapM Value.string?).bind fun words => outcome ([] ++ [text] ++ words) := by
            simp [Value.strings?, List.mapM_cons, Option.bind_assoc]
          rw [hresult, Value.lexemes, List.cons_append, List.append_assoc]
          exact .cons nofun rfl (fun start stop => rfl)
            (reads_element hphase first (followsValue_elementsBehind rest more) fun text =>
              reads_elementsBehind rest houtcome)
  | _ =>
      refine reads_none_of_opening hmore fun token hmeans => exists_step_error_of_first ?_
      exact exists_stringLists_first_error (Value.not_means_openBracket (by exact nofun) hmeans)

/-! Objects. -/

/-- The table with entries set one after the other, if their values are of the type. -/
def setEntries (typed : Value → Option α) (table : Table α) (entries : List (String × Value)) :
    Option (Table α) :=
  entries.foldlM (fun table entry => (typed entry.2).map (table.insert entry.1)) table

theorem setEntries_eq (typed : Value → Option α) (table : Table α)
    (entries : List (String × Value)) :
    setEntries typed table entries = (typedEntries? typed entries).map fun listed =>
      listed.foldl (fun table entry => table.insert entry.1 entry.2) table := by
  induction entries generalizing table with
  | nil => rfl
  | cons entry entries ih =>
      rw [setEntries, List.foldlM_cons, typedEntries?, List.mapM_cons]
      cases typed entry.2 with
      | none => rfl
      | some value =>
          refine (ih (table.insert entry.1 value)).trans ?_
          rw [typedEntries?]
          cases entries.mapM fun entry => (typed entry.2).map (Prod.mk entry.1) <;> rfl

theorem reads_entry {typed : Value → Option α} (hreader : reader.Takes typed) {key : String}
    {value : Value} {entries : List (String × Value)} {table : Table α}
    (hentries : ∀ table, Reads reader ⟨.afterValue, table⟩ (entriesBehind entries)
      (setEntries typed table entries)) :
    Reads reader ⟨.afterKey key, table⟩ (.colon :: (value.lexemes ++ entriesBehind entries))
      (setEntries typed table ((key, value) :: entries)) := by
  have hresult : setEntries typed table ((key, value) :: entries) =
      (typed value).bind fun result => setEntries typed (table.insert key result) entries := by
    rw [setEntries, List.foldlM_cons]
    cases typed value <;> rfl
  rw [hresult]
  exact .cons nofun rfl (fun start stop => rfl)
    (hreader key table value _ _ (followsValue_entriesBehind entries) fun result => hentries _)

theorem reads_entriesBehind {typed : Value → Option α} (hreader : reader.Takes typed)
    (entries : List (String × Value)) (table : Table α) :
    Reads reader ⟨.afterValue, table⟩ (entriesBehind entries) (setEntries typed table entries) := by
  induction entries generalizing table with
  | nil => exact .cons nofun rfl (fun start stop => rfl) (.nil ⟨.closed, table⟩)
  | cons entry entries ih =>
      obtain ⟨key, value⟩ := entry
      exact .cons nofun rfl (fun start stop => rfl)
        (.cons nofun rfl (fun start stop => rfl) (reads_entry hreader ih))

section Document

variable {typed : Value → Option α} (hreader : reader.Takes typed)
  {entries : List (String × Value)} {document : String} (hwritten : Written entries document)

include hreader hwritten

/-- An object is read exactly if all of its values are of the type that is taken. -/
theorem toOption_readObject_of_written :
    (readObject reader document).toOption = (typedEntries? typed entries).map .ofList := by
  have hreads : Reads reader .start (Value.object entries).lexemes
      (setEntries typed .empty entries) := by
    cases entries with
    | nil =>
        exact .cons nofun rfl (fun start stop => rfl)
          (.cons nofun rfl (fun start stop => rfl) (.nil ⟨.closed, .empty⟩))
    | cons entry entries =>
        obtain ⟨key, value⟩ := entry
        exact .cons nofun rfl (fun start stop => rfl) (.cons nofun rfl (fun start stop => rfl)
          (reads_entry hreader (reads_entriesBehind hreader entries)))
  rw [toOption_readObject]
  exact (hreads 0 document.toList hwritten).trans (setEntries_eq typed .empty entries)

theorem readObject_of_typedEntries? {listed : List (String × α)}
    (hlisted : typedEntries? typed entries = some listed) :
    readObject reader document = .ok (.ofList listed) := by
  have hread := toOption_readObject_of_written hreader hwritten
  rw [hlisted, Option.map_some] at hread
  cases hdocument : readObject reader document with
  | error error =>
      rw [hdocument] at hread
      nomatch hread
  | ok table =>
      rw [hdocument] at hread
      cases hread
      rfl

theorem exists_table_of_written (htyped : ∀ entry ∈ entries, typed entry.2 ≠ none) :
    ∃ table, readObject reader document = .ok table := by
  cases hlisted : typedEntries? typed entries with
  | none =>
      obtain ⟨entry, hentry, hnone⟩ := typedEntries?_eq_none_iff.mp hlisted
      exact absurd hnone (htyped entry hentry)
  | some listed => exact ⟨_, readObject_of_typedEntries? hreader hwritten hlisted⟩

theorem exists_error_of_written (hmistyped : ∃ entry ∈ entries, typed entry.2 = none) :
    ∃ error, readObject reader document = .error error := by
  have hread := toOption_readObject_of_written hreader hwritten
  rw [typedEntries?_eq_none_iff.mpr hmistyped, Option.map_none] at hread
  cases hdocument : readObject reader document with
  | error error => exact ⟨error, rfl⟩
  | ok table =>
      rw [hdocument] at hread
      nomatch hread

end Document

end Values

end VoiceCursor.Json

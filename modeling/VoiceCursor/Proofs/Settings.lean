import VoiceCursor.Proofs.Files.Path
import VoiceCursor.Proofs.Toml.Entries
import VoiceCursor.Settings

namespace VoiceCursor

/-! The settings that a document asks for. Each is the value under its own key, or the
default where the key is absent; other keys do not matter. -/

structure Choices where
  dictionaries : Option String
  token : Option String
  allowsZero : Option Bool
  logFilter : Option String

namespace Toml.Entries

def item? (entries : Entries) (name : String) : Option Item :=
  entries.entry? name |>.map Prod.snd

theorem item?_cons (entry : String × Span × Item) (rest : Entries) (name : String) :
    item? (entry :: rest) name = if name = entry.1 then some entry.2.2 else item? rest name := by
  rw [item?, entry?, List.lookup_cons]
  by_cases heq : name = entry.1
  · rw [if_pos heq, beq_iff_eq.mpr heq]
    rfl
  · rw [if_neg heq, beq_eq_false_iff_ne.mpr heq]
    rfl

theorem item?_eq_none {entries : Entries} {name : String} (hname : name ∉ entries.names) :
    entries.item? name = none := by
  rw [item?, (entries.entry?_eq_none_iff name).mpr hname, Option.map_none]

section Kind

variable {α : Type} {name key : String} {span : Span} {item : Item} {rest : Entries}
  {chosen : Option α} {kind : α → Item}

theorem item?_tail (hname : name ∉ rest.names)
    (hchosen : item? ((name, span, item) :: rest) key = chosen.map kind) :
    rest.item? key = (if name = key then none else chosen).map kind := by
  rw [item?_cons] at hchosen
  split
  · rename_i heq
    subst heq
    exact item?_eq_none hname
  · rename_i hne
    rw [if_neg (Ne.symm hne)] at hchosen
    exact hchosen

theorem exists_of_item?_head
    (hchosen : item? ((name, span, item) :: rest) name = chosen.map kind) :
    ∃ value, chosen = some value ∧ item = kind value := by
  rw [item?_cons, if_pos rfl] at hchosen
  obtain ⟨value, hvalue, heq⟩ := Option.map_eq_some_iff.mp hchosen.symm
  exact ⟨value, hvalue, heq.symm⟩

end Kind

end Toml.Entries

namespace Choices

def none : Choices := ⟨.none, .none, .none, .none⟩

/-- What is chosen counts for more than what is there. -/
def applyTo (choices : Choices) (settings : Settings) : Settings where
  dictionaries := choices.dictionaries <|> settings.dictionaries
  token := choices.token.getD settings.token
  allowsZero := choices.allowsZero.getD settings.allowsZero
  logFilter := choices.logFilter.getD settings.logFilter

theorem dictionaries_applyTo_default (choices : Choices) :
    (choices.applyTo .default).dictionaries = choices.dictionaries := by
  rw [applyTo]
  cases choices.dictionaries <;> rfl

def without (choices : Choices) (name : String) : Choices where
  dictionaries := if name = "dictionaries" then .none else choices.dictionaries
  token := if name = "to_line_token" then .none else choices.token
  allowsZero := if name = "accept_spoken_zero" then .none else choices.allowsZero
  logFilter := if name = "log_filter" then .none else choices.logFilter

end Choices

/-- What stands under the keys is of the kinds that they need. -/
structure Chooses (entries : Toml.Entries) (choices : Choices) : Prop where
  dictionaries : entries.item? "dictionaries" = choices.dictionaries.map .string
  token : entries.item? "to_line_token" = choices.token.map .string
  allowsZero : entries.item? "accept_spoken_zero" = choices.allowsZero.map .boolean
  logFilter : entries.item? "log_filter" = choices.logFilter.map .string

/-- A document that can be read, and what it chooses. -/
def Gives (document : String) (choices : Choices) : Prop :=
  ∃ entries, Toml.readDocument document = .ok entries ∧ Chooses entries choices

namespace Chooses

open Toml

variable {name : String} {span : Span} {item : Item} {rest : Entries} {choices : Choices}

theorem tail (hchooses : Chooses ((name, span, item) :: rest) choices)
    (hname : name ∉ rest.names) : Chooses rest (choices.without name) :=
  ⟨Entries.item?_tail hname hchooses.dictionaries,
    Entries.item?_tail hname hchooses.token, Entries.item?_tail hname hchooses.allowsZero,
    Entries.item?_tail hname hchooses.logFilter⟩

theorem eq_none (hchooses : Chooses [] choices) : choices = .none := by
  obtain ⟨dictionaries, token, allowsZero, logFilter⟩ := choices
  have hdictionaries := Option.map_eq_none_iff.mp hchooses.dictionaries.symm
  have htoken := Option.map_eq_none_iff.mp hchooses.token.symm
  have hallowsZero := Option.map_eq_none_iff.mp hchooses.allowsZero.symm
  have hlogFilter := Option.map_eq_none_iff.mp hchooses.logFilter.symm
  dsimp only at hdictionaries htoken hallowsZero hlogFilter
  rw [hdictionaries, htoken, hallowsZero, hlogFilter]
  rfl

end Chooses

namespace Settings

open Toml

theorem exists_string_of_readText {item : Item} {span : Span} {expected : String}
    {next : String → Except Failure Settings} {result : Settings}
    (hresult : readText item span expected >>= next = .ok result) :
    ∃ value, item = .string value := by
  cases item with
  | string value => exact ⟨value, rfl⟩
  | _ => nomatch hresult

theorem exists_boolean_of_readFlag {item : Item} {span : Span}
    {next : Bool → Except Failure Settings} {result : Settings}
    (hresult : readFlag item span >>= next = .ok result) : ∃ value, item = .boolean value := by
  cases item with
  | boolean value => exact ⟨value, rfl⟩
  | _ => nomatch hresult

theorem addEntry_of_chooses {name : String} {span : Span} {item : Item} {rest : Entries}
    {choices : Choices} (hchooses : Chooses ((name, span, item) :: rest) choices)
    (settings : Settings) :
    ∃ next, addEntry settings (name, span, item) = .ok next ∧
      (choices.without name).applyTo next = choices.applyTo settings := by
  unfold addEntry
  dsimp only
  split
  · obtain ⟨value, hvalue, rfl⟩ := Entries.exists_of_item?_head hchooses.dictionaries
    exact ⟨_, rfl, by simp [Choices.applyTo, Choices.without, hvalue]⟩
  · obtain ⟨value, hvalue, rfl⟩ := Entries.exists_of_item?_head hchooses.token
    exact ⟨_, rfl, by simp [Choices.applyTo, Choices.without, hvalue]⟩
  · obtain ⟨value, hvalue, rfl⟩ := Entries.exists_of_item?_head hchooses.allowsZero
    exact ⟨_, rfl, by simp [Choices.applyTo, Choices.without, hvalue]⟩
  · obtain ⟨value, hvalue, rfl⟩ := Entries.exists_of_item?_head hchooses.logFilter
    exact ⟨_, rfl, by simp [Choices.applyTo, Choices.without, hvalue]⟩
  · rename_i hdictionaries htoken hallowsZero hlogFilter
    refine ⟨_, rfl, ?_⟩
    rw [Choices.without, if_neg hdictionaries, if_neg htoken, if_neg hallowsZero,
      if_neg hlogFilter]

theorem foldlM_addEntry {entries : Entries} (hdistinct : entries.Distinct)
    {choices : Choices} (hchooses : Chooses entries choices) (settings : Settings) :
    entries.foldlM addEntry settings = .ok (choices.applyTo settings) := by
  induction entries generalizing choices settings with
  | nil =>
      have hnone := hchooses.eq_none
      rw [hnone]
      rfl
  | cons entry rest ih =>
      obtain ⟨name, span, item⟩ := entry
      obtain ⟨hname, hrest⟩ := List.nodup_cons.mp hdistinct
      obtain ⟨next, hnext, happlied⟩ := addEntry_of_chooses hchooses settings
      rw [List.foldlM_cons, hnext, ← happlied]
      exact ih hrest (hchooses.tail hname) next

theorem exists_addEntry_of_mem {entries : Entries} {settings last : Settings}
    (hlast : entries.foldlM addEntry settings = .ok last)
    {entry : String × Span × Item} (hentry : entry ∈ entries) :
    ∃ settings next, addEntry settings entry = .ok next := by
  induction entries generalizing settings with
  | nil => nomatch hentry
  | cons first rest ih =>
      rw [List.foldlM_cons] at hlast
      obtain ⟨next, hnext, hrest⟩ := exists_of_bind_eq_ok hlast
      rcases List.mem_cons.mp hentry with rfl | hentry
      · exact ⟨settings, next, hnext⟩
      · exact ih hrest hentry

theorem exists_item_of_foldlM {entries : Entries} {settings last : Settings}
    (hlast : entries.foldlM addEntry settings = .ok last) {α : Type} (name : String)
    {kind : α → Item}
    (hkind : ∀ {settings next span item}, addEntry settings (name, span, item) = .ok next →
      ∃ value, item = kind value) :
    ∃ chosen : Option α, entries.item? name = chosen.map kind := by
  cases hitem : entries.item? name with
  | none => exact ⟨none, rfl⟩
  | some item =>
      obtain ⟨⟨span, other⟩, hentry, rfl⟩ := Option.map_eq_some_iff.mp hitem
      obtain ⟨before, after, hentries, -⟩ := List.lookup_eq_some_iff.mp hentry
      obtain ⟨settings, next, hnext⟩ := exists_addEntry_of_mem hlast
        (hentries ▸ List.mem_append_right before List.mem_cons_self)
      obtain ⟨value, hvalue⟩ := hkind hnext
      exact ⟨some value, congrArg some hvalue⟩

theorem exists_chooses {entries : Entries} {settings last : Settings}
    (hlast : entries.foldlM addEntry settings = .ok last) :
    ∃ choices, Chooses entries choices := by
  obtain ⟨dictionaries, hdictionaries⟩ := exists_item_of_foldlM hlast "dictionaries"
    fun hnext => exists_string_of_readText hnext
  obtain ⟨token, htoken⟩ := exists_item_of_foldlM hlast "to_line_token"
    fun hnext => exists_string_of_readText hnext
  obtain ⟨allowsZero, hallowsZero⟩ := exists_item_of_foldlM hlast "accept_spoken_zero"
    fun hnext => exists_boolean_of_readFlag hnext
  obtain ⟨logFilter, hlogFilter⟩ := exists_item_of_foldlM hlast "log_filter"
    fun hnext => exists_string_of_readText hnext
  exact ⟨⟨dictionaries, token, allowsZero, logFilter⟩, hdictionaries, htoken, hallowsZero,
    hlogFilter⟩

theorem ofDocument_of_gives {document : String} {choices : Choices}
    (hgives : Gives document choices) : ofDocument document = .ok (choices.applyTo default) := by
  obtain ⟨entries, hentries, hchooses⟩ := hgives
  rw [ofDocument, hentries]
  exact foldlM_addEntry (distinct_of_readDocument hentries) hchooses default

/-- The documents that can be loaded are those that give choices, so nothing is lost by
speaking of the latter. -/
theorem ofDocument_eq_ok_iff {document : String} {settings : Settings} :
    ofDocument document = .ok settings ↔
      ∃ choices, Gives document choices ∧ choices.applyTo default = settings := by
  constructor
  · intro hsettings
    obtain ⟨entries, hentries, hfold⟩ := exists_of_bind_eq_ok hsettings
    obtain ⟨choices, hchooses⟩ := exists_chooses hfold
    have hgives : Gives document choices := ⟨entries, hentries, hchooses⟩
    exact ⟨choices, hgives, Except.ok.inj ((ofDocument_of_gives hgives).symm.trans hsettings)⟩
  · rintro ⟨choices, hgives, rfl⟩
    exact ofDocument_of_gives hgives

section Besides

variable (settings : Settings) {path base directory : String}

theorem besides_of_parent (hparent : Path.parent? path = some base) :
    settings.besides path =
      { settings with dictionaries := settings.dictionaries.map (Path.join base) } := by
  rw [besides, hparent]

theorem besides_eq_with (path : String) :
    ∃ dictionaries, settings.besides path = { settings with dictionaries := dictionaries } := by
  cases hparent : Path.parent? path with
  | none =>
      rw [besides, hparent]
      exact ⟨settings.dictionaries, rfl⟩
  | some base => exact ⟨_, settings.besides_of_parent hparent⟩

variable {settings}

theorem besides_of_none (hnone : settings.dictionaries = none) (path : String) :
    settings.besides path = settings := by
  cases hparent : Path.parent? path with
  | none => rw [besides, hparent]
  | some base =>
      rw [settings.besides_of_parent hparent, hnone, Option.map_none, ← hnone]

theorem besides_of_isAbsolute (hdirectory : settings.dictionaries = some directory)
    (habsolute : Path.isAbsolute directory = true) (path : String) :
    settings.besides path = settings := by
  cases hparent : Path.parent? path with
  | none => rw [besides, hparent]
  | some base =>
      rw [settings.besides_of_parent hparent, hdirectory, Option.map_some,
        Path.join_of_isAbsolute base habsolute, ← hdirectory]

end Besides

theorem load_of_gives {files : Files} {path document : String} {choices : Choices}
    (hread : files.read path = .ok document) (hgives : Gives document choices) :
    load files path = .ok ((choices.applyTo default).besides path) := by
  rw [load, hread]
  dsimp only
  rw [ofDocument_of_gives hgives]

theorem load_of_not_isFound {files : Files} {path : String} {cause : ReadError}
    (hread : files.read path = .error cause) (hcause : cause.isFound = false) :
    load files path = .ok default := by
  rw [load, hread]
  dsimp only
  rw [hcause]
  rfl

end Settings

end VoiceCursor

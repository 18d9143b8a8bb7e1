import VoiceCursor.Proofs.Run
import VoiceCursor.Proofs.Settings
import VoiceCursor.Proofs.Vocabulary.Directory

namespace VoiceCursor

/-! The files that a run consults. They are its settings, the tables of the directory that
its arguments or else its settings name, and its document. Nothing else that is kept in
files can matter to it. -/

def Files.AgreeAt (files others : Files) (paths : List String) : Prop :=
  ∀ path ∈ paths, files.read path = others.read path

namespace Files.AgreeAt

variable {files others : Files} {first second : List String}

theorem left (hagree : files.AgreeAt others (first ++ second)) : files.AgreeAt others first :=
  fun path hpath => hagree path (List.mem_append_left second hpath)

theorem right (hagree : files.AgreeAt others (first ++ second)) :
    files.AgreeAt others second :=
  fun path hpath => hagree path (List.mem_append_right first hpath)

end Files.AgreeAt

section Agree

variable {files others : Files}

theorem Vocabulary.mem_paths (directory : String) (table : TableName) :
    tablePath directory table ∈ paths directory := by
  cases table <;> simp [paths]

theorem Vocabulary.load_congr {directory : String}
    (hagree : files.AgreeAt others (paths directory)) :
    load files directory = load others directory := by
  have htable : readTable files directory = readTable others directory := by
    funext table builtin
    rw [readTable, hagree _ (mem_paths directory table), readTable]
  rw [load, readTables, htable, load, readTables]

namespace Settings

variable (settings : Settings)

theorem vocabularyPaths_eq :
    settings.vocabularyPaths = settings.dictionaries.elim [] Vocabulary.paths := by
  rw [vocabularyPaths]
  cases settings.dictionaries <;> rfl

theorem loadVocabulary_eq (files : Files) :
    settings.loadVocabulary files =
      settings.dictionaries.elim ([], .ok .builtin) (Vocabulary.load files) := by
  rw [loadVocabulary]
  cases settings.dictionaries <;> rfl

variable {settings}

theorem loadVocabulary_congr (hagree : files.AgreeAt others settings.vocabularyPaths) :
    settings.loadVocabulary files = settings.loadVocabulary others := by
  rw [vocabularyPaths_eq] at hagree
  rw [loadVocabulary_eq, loadVocabulary_eq]
  cases hdirectory : settings.dictionaries with
  | none => rfl
  | some directory =>
      rw [hdirectory] at hagree
      exact Vocabulary.load_congr hagree

end Settings

namespace Run

theorem openDocument_congr {file : Option String}
    (hagree : files.AgreeAt others file.toList) :
    openDocument files file = openDocument others file := by
  cases file with
  | none => rfl
  | some path =>
      rw [openDocument, hagree path (List.mem_singleton.mpr rfl)]
      rfl

theorem startWith_congr {settings : Settings} {file : Option String}
    (hagree : files.AgreeAt others (settings.vocabularyPaths ++ file.toList)) :
    startWith settings file files = startWith settings file others := by
  rw [startWith, Settings.loadVocabulary_congr hagree.left, openDocument_congr hagree.right]
  rfl

theorem paths_of_load {options : Arguments} {settings : Settings}
    (hload : Settings.load files options.config = .ok settings) :
    paths options files =
      (settings.override options).vocabularyPaths ++ options.file.toList := by
  rw [paths, hload]

end Run

theorem outcome_congr [Toml.Wording] {arguments : List String} {options : Arguments}
    (haccepted : CommandLine.read arguments = .ok options)
    (hstart : Run.start options files = Run.start options others) (input : List UInt8) :
    outcome arguments files input = outcome arguments others input := by
  rw [outcome, outcome, haccepted]
  dsimp only
  rw [Run.execute, hstart, Run.execute]

end Agree

/-- The directory with the tables of a run, by its arguments and by what the file with its
settings chooses. Where there is none, the tables are the built-in ones. -/
inductive TablesIn (options : Arguments) (choices : Choices) : Option String → Prop where
  | argument {directory : String} (hgiven : options.dictionaries = some directory) :
      TablesIn options choices (some directory)
  | absolute {directory : String} (hnone : options.dictionaries = none)
      (hchosen : choices.dictionaries = some directory)
      (habsolute : Path.isAbsolute directory = true) :
      TablesIn options choices (some directory)
  | relative {base directory : String} (hnone : options.dictionaries = none)
      (hchosen : choices.dictionaries = some directory)
      (hrelative : Path.isAbsolute directory = false)
      (hparent : Path.parent? options.config = some base) :
      TablesIn options choices (some (Path.join base directory))
  | builtin (hnone : options.dictionaries = none) (hnothing : choices.dictionaries = none) :
      TablesIn options choices none

namespace Settings

variable {options : Arguments} (settings : Settings)

theorem override_dictionaries_of_none (hnone : options.dictionaries = none) :
    (settings.override options).dictionaries = settings.dictionaries := by
  rw [override, hnone]
  rfl

theorem override_with_of_given {directory : String}
    (hgiven : options.dictionaries = some directory) (dictionaries : Option String) :
    ({ settings with dictionaries := dictionaries }).override options =
      settings.override options := by
  rw [override, override, hgiven]
  rfl

theorem override_besides_of_given {directory : String}
    (hgiven : options.dictionaries = some directory) (path : String) :
    (settings.besides path).override options = settings.override options := by
  obtain ⟨dictionaries, hbesides⟩ := settings.besides_eq_with path
  rw [hbesides, override_with_of_given settings hgiven]

end Settings

theorem Vocabulary.tablePath_join (base : String) {directory : String}
    (hrelative : Path.isAbsolute directory = false) (table : TableName) :
    tablePath (Path.join base directory) table =
      Path.join base (Path.join directory (table.text ++ ".json")) :=
  Path.join_join base hrelative (by cases table <;> rfl)

section Consulted

variable {arguments : List String} {options : Arguments} {files : Files} {document : String}
  {choices : Choices}

theorem TablesIn.dictionaries_eq {directory : Option String}
    (htables : TablesIn options choices directory) :
    (((choices.applyTo .default).besides options.config).override options).dictionaries =
      directory := by
  cases htables with
  | argument hgiven =>
      rw [Settings.override, hgiven]
      rfl
  | absolute hnone hchosen habsolute =>
      rw [Settings.override_dictionaries_of_none _ hnone,
        Settings.besides_of_isAbsolute (choices.dictionaries_applyTo_default.trans hchosen)
          habsolute, Choices.dictionaries_applyTo_default, hchosen]
  | relative hnone hchosen hrelative hparent =>
      rw [Settings.override_dictionaries_of_none _ hnone,
        Settings.besides_of_parent _ hparent, Choices.dictionaries_applyTo_default, hchosen]
      rfl
  | builtin hnone hnothing =>
      rw [Settings.override_dictionaries_of_none _ hnone,
        Settings.besides_of_none (choices.dictionaries_applyTo_default.trans hnothing),
        Choices.dictionaries_applyTo_default, hnothing]

/-- A file that can be read has a parent, so there is nothing that `TablesIn` leaves out. -/
theorem exists_tablesIn {tree : Tree} (hread : tree.files.read options.config = .ok document)
    (choices : Choices) : ∃ directory, TablesIn options choices directory := by
  cases hgiven : options.dictionaries with
  | some directory => exact ⟨_, .argument hgiven⟩
  | none =>
      cases hchosen : choices.dictionaries with
      | none => exact ⟨_, .builtin hgiven hchosen⟩
      | some directory =>
          cases hform : Path.isAbsolute directory with
          | true => exact ⟨_, .absolute hgiven hchosen hform⟩
          | false =>
              obtain ⟨base, hparent⟩ := tree.exists_parent_of_read hread
              exact ⟨_, .relative hgiven hchosen hform hparent⟩

/-- What is so of the settings that a run has loaded from a document with the choices. Its
tables are in the directory that `TablesIn` tells, seen from the file if need be. Where an
argument names the directory, what the document says of it changes nothing. -/
structure LoadedAs [Toml.Wording] (arguments : List String) (options : Arguments)
    (files : Files) (document : String) (choices : Choices) (loaded : Settings) : Prop where
  token_eq : loaded.token = choices.token.getD Grammar.defaultToken
  allowsZero_eq : loaded.allowsZero = choices.allowsZero.getD false
  logFilter_eq : loaded.logFilter = choices.logFilter.getD "warn"
  default_of_none : choices = .none → loaded = .default
  default_of_not_found : ∀ (others : Files) cause,
    others.read options.config = .error cause → cause.isFound = false →
      Settings.load others options.config = .ok .default
  paths_eq : ∀ directory, TablesIn options choices directory →
    Run.paths options files = directory.elim [] Vocabulary.paths ++ options.file.toList
  vocabulary_eq : ∀ directory, TablesIn options choices directory → ∀ others,
    (loaded.override options).loadVocabulary others =
      directory.elim ([], .ok .builtin) (Vocabulary.load others)
  holds_iff : ∀ directory, TablesIn options choices (some directory) →
    ∀ (others : Files) vocabulary,
      ((loaded.override options).loadVocabulary others).2 = .ok vocabulary ↔
        ∀ table, ∃ text, Vocabulary.Finds others directory table text ∧
          vocabulary.Holds table text
  outcome_eq : ∀ directory, TablesIn options choices directory →
    ∀ others : Files, others.read options.config = .ok document →
      files.AgreeAt others (Run.paths options files) →
      ∀ input, outcome arguments files input = outcome arguments others input
  tablePath_join : ∀ base directory table, Path.isAbsolute directory = false →
    Vocabulary.tablePath (Path.join base directory) table =
      Path.join base (Path.join directory (table.text ++ ".json"))
  exists_tablesIn : ∀ tree : Tree, files = tree.files →
    ∃ directory, TablesIn options choices directory
  start_eq_of_given : ∀ directory, options.dictionaries = some directory →
    ∀ (others : Files) other dictionaries, others.read options.config = .ok other →
      Gives other { choices with dictionaries := dictionaries } →
        Run.start options others =
          Run.startWith (loaded.override options) options.file others
  outcome_eq_of_given : ∀ directory, options.dictionaries = some directory →
    ∀ (others : Files) other dictionaries, others.read options.config = .ok other →
      Gives other { choices with dictionaries := dictionaries } →
        files.AgreeAt others (Vocabulary.paths directory ++ options.file.toList) →
        ∀ input, outcome arguments files input = outcome arguments others input

theorem start_of_given (hread : files.read options.config = .ok document)
    {dictionaries : Option String}
    (hgives : Gives document { choices with dictionaries := dictionaries })
    {directory : String} (hgiven : options.dictionaries = some directory) :
    Run.start options files = Run.startWith
      (((choices.applyTo .default).besides options.config).override options) options.file
      files := by
  have hsettings : ({ choices with dictionaries := dictionaries }.applyTo .default).override
      options = (choices.applyTo .default).override options :=
    Settings.override_with_of_given (choices.applyTo .default) hgiven
      ({ choices with dictionaries := dictionaries }.applyTo .default).dictionaries
  rw [Run.start_of_load (Settings.load_of_gives hread hgives),
    Settings.override_besides_of_given _ hgiven, hsettings,
    Settings.override_besides_of_given _ hgiven]

theorem paths_of_tablesIn (hread : files.read options.config = .ok document)
    (hgives : Gives document choices) {directory : Option String}
    (htables : TablesIn options choices directory) :
    Run.paths options files =
      directory.elim [] Vocabulary.paths ++ options.file.toList := by
  rw [Run.paths_of_load (Settings.load_of_gives hread hgives), Settings.vocabularyPaths_eq,
    htables.dictionaries_eq]

theorem loadVocabulary_of_tablesIn {directory : Option String}
    (htables : TablesIn options choices directory) (files : Files) :
    (((choices.applyTo .default).besides options.config).override options).loadVocabulary
      files = directory.elim ([], .ok .builtin) (Vocabulary.load files) := by
  rw [Settings.loadVocabulary_eq, htables.dictionaries_eq]

theorem tables_and_settings_of_run [Toml.Wording]
    (haccepted : CommandLine.read arguments = .ok options)
    (hread : files.read options.config = .ok document) (hgives : Gives document choices) :
    ∃ loaded, Settings.load files options.config = .ok loaded ∧
      LoadedAs arguments options files document choices loaded := by
  have hload := Settings.load_of_gives hread hgives
  obtain ⟨dictionaries, hbesides⟩ := (choices.applyTo .default).besides_eq_with options.config
  refine ⟨_, hload, ?_⟩
  constructor
  case token_eq => rw [hbesides]; rfl
  case allowsZero_eq => rw [hbesides]; rfl
  case logFilter_eq => rw [hbesides]; rfl
  case default_of_none =>
      rintro rfl
      exact Settings.besides_of_none rfl options.config
  case default_of_not_found =>
      intro others cause hmissing hcause
      exact Settings.load_of_not_isFound hmissing hcause
  case paths_eq =>
      intro directory htables
      exact paths_of_tablesIn hread hgives htables
  case vocabulary_eq =>
      intro directory htables others
      exact loadVocabulary_of_tablesIn htables others
  case holds_iff =>
      intro directory htables others vocabulary
      rw [loadVocabulary_of_tablesIn htables]
      exact Vocabulary.load_eq_ok_iff
  case outcome_eq =>
      intro directory htables others hother hagree
      apply outcome_congr haccepted
      rw [Run.start_of_load hload, Run.start_of_load (Settings.load_of_gives hother hgives)]
      apply Run.startWith_congr
      rw [← Run.paths_of_load hload]
      exact hagree
  case tablePath_join =>
      intro base directory table hrelative
      exact Vocabulary.tablePath_join base hrelative table
  case exists_tablesIn =>
      rintro tree rfl
      exact exists_tablesIn hread choices
  case start_eq_of_given =>
      intro directory hgiven others other dictionaries hother hothers
      exact start_of_given hother hothers hgiven
  case outcome_eq_of_given =>
      intro directory hgiven others other dictionaries hother hothers hagree
      apply outcome_congr haccepted
      rw [Run.start_of_load hload, start_of_given hother hothers hgiven]
      apply Run.startWith_congr
      rw [Settings.vocabularyPaths_eq, (TablesIn.argument hgiven).dictionaries_eq]
      exact hagree

end Consulted

theorem tables_and_settings_of_run_in_another_directory :
    let arguments := ["--config", "conf/nav.toml"]
    let options : Arguments := ⟨none, "conf/nav.toml", none, false⟩
    let near : Tree := .ofList [("conf/nav.toml",
      .file "dictionaries = \"./x/\"\nlog_filter = \"error\"\n".toUTF8)]
    let far : Tree := .ofList [("conf/nav.toml",
      .file "log_filter = \"error\"\ndictionaries = \"/y\"\n".toUTF8)]
    let strange : Tree := .ofList [("conf/nav.toml",
      .file "[table]\nlog_filter = 1\n".toUTF8)]
    CommandLine.read arguments = .ok options ∧
      Run.paths options near.files =
        ["conf/./x/like-words.json", "conf/./x/line-jumps.json", "conf/./x/number.json"] ∧
      Run.paths options far.files =
        ["/y/like-words.json", "/y/line-jumps.json", "/y/number.json"] ∧
      Run.paths options strange.files = [] ∧
      Settings.load strange.files "conf/nav.toml" = .ok .default ∧
      ∀ input, outcome (arguments ++ ["--dictionaries", "d"]) near.files input =
        outcome (arguments ++ ["--dictionaries", "d"]) far.files input := by
  intro arguments options near far strange
  have haccepted : CommandLine.read arguments = .ok options := rfl
  have hgiven : CommandLine.read (arguments ++ ["--dictionaries", "d"]) =
      .ok { options with dictionaries := some "d" } := rfl
  have hnear : Gives "dictionaries = \"./x/\"\nlog_filter = \"error\"\n"
      ⟨some "./x/", none, none, some "error"⟩ := by
    refine ⟨_, rfl, ?_⟩
    exact ⟨rfl, rfl, rfl, rfl⟩
  have hfar : Gives "log_filter = \"error\"\ndictionaries = \"/y\"\n"
      ⟨some "/y", none, none, some "error"⟩ := by
    refine ⟨_, rfl, ?_⟩
    exact ⟨rfl, rfl, rfl, rfl⟩
  have hstrange : Gives "[table]\nlog_filter = 1\n" .none := by
    refine ⟨_, rfl, ?_⟩
    exact ⟨rfl, rfl, rfl, rfl⟩
  have hnearRead : near.files.read "conf/nav.toml" = .ok
    "dictionaries = \"./x/\"\nlog_filter = \"error\"\n" := rfl
  have hfarRead : far.files.read "conf/nav.toml" = .ok
    "log_filter = \"error\"\ndictionaries = \"/y\"\n" := rfl
  have hstrangeRead : strange.files.read "conf/nav.toml" = .ok
    "[table]\nlog_filter = 1\n" := rfl
  obtain ⟨_, -, hnearLoaded⟩ := tables_and_settings_of_run haccepted hnearRead hnear
  obtain ⟨_, -, hfarLoaded⟩ := tables_and_settings_of_run haccepted hfarRead hfar
  obtain ⟨loaded, hloaded, hstrangeLoaded⟩ :=
    tables_and_settings_of_run haccepted hstrangeRead hstrange
  obtain ⟨_, -, hgivenLoaded⟩ := tables_and_settings_of_run hgiven hnearRead hnear
  refine ⟨haccepted, ?_, ?_, ?_, ?_, ?_⟩
  · have hparent : Path.parent? "conf/nav.toml" = some "conf" := rfl
    exact hnearLoaded.paths_eq _ (.relative rfl rfl rfl hparent)
  · exact hfarLoaded.paths_eq _ (.absolute rfl rfl rfl)
  · exact hstrangeLoaded.paths_eq _ (.builtin rfl rfl)
  · rw [← hstrangeLoaded.default_of_none rfl]
    exact hloaded
  · apply hgivenLoaded.outcome_eq_of_given "d" rfl far.files _ (some "/y") hfarRead hfar
    have hmissing : ∀ path ∈ Vocabulary.paths "d",
        near.files.read path = .error .missing ∧ far.files.read path = .error .missing := by
      rw [Vocabulary.paths, List.forall_mem_map]
      rintro (_ | _ | _) - <;> exact ⟨rfl, rfl⟩
    intro path hpath
    obtain ⟨hnearPath, hfarPath⟩ := hmissing path hpath
    rw [hnearPath, hfarPath]

end VoiceCursor

import VoiceCursor.Files.Tree
import VoiceCursor.Vocabulary.Directory

namespace VoiceCursor

/-! Vocabularies that are loaded from a directory. Each table comes from the document in its own
file, or from the built-in one where there is no file. A file that cannot be read counts for
more than a document that cannot be understood. -/

namespace TableName

def earlier : TableName → List TableName
  | .spellings => []
  | .bookmarks => [.spellings]
  | .numbers => [.spellings, .bookmarks]

def builtin : TableName → String
  | .spellings => Documents.builtinSpellings
  | .bookmarks => Documents.builtinBookmarks
  | .numbers => Documents.builtinNumbers

end TableName

def Documents.text (documents : Documents) : TableName → String
  | .spellings => documents.spellings
  | .bookmarks => documents.bookmarks
  | .numbers => documents.numbers

namespace Vocabulary

inductive Finds (files : Files) (directory : String) (table : TableName) : String → Prop where
  | file {text : String} (hread : files.read (tablePath directory table) = .ok text) :
      Finds files directory table text
  | builtin (hmissing : files.read (tablePath directory table) = .error .missing) :
      Finds files directory table table.builtin

/-- There is something in the place of a file, but it cannot be read. -/
structure Unreadable (files : Files) (directory : String) (table : TableName)
    (cause : ReadError) : Prop where
  read_eq : files.read (tablePath directory table) = .error cause
  ne_missing : cause ≠ .missing

/-- Whether the table of a vocabulary is the one that a document holds. -/
def Holds (vocabulary : Vocabulary) : TableName → String → Prop
  | .spellings, text => ∃ listed, Json.readObject Json.stringLists text = .ok listed ∧
      vocabulary.spellings = listed.map Text.lowercase fun words => words.map Text.lowercase
  | .bookmarks, text => ∃ listed, Json.readObject Json.naturals text = .ok listed ∧
      vocabulary.bookmarks = listed.map Text.lowercase id
  | .numbers, text => ∃ listed, Json.readObject Json.naturals text = .ok listed ∧
      vocabulary.numbers = listed.map Text.lowercase id

def SameTable (vocabulary other : Vocabulary) : TableName → Prop
  | .spellings => vocabulary.spellings = other.spellings
  | .bookmarks => vocabulary.bookmarks = other.bookmarks
  | .numbers => vocabulary.numbers = other.numbers

section Read

variable {files : Files} {directory : String} {table : TableName}

theorem finds_or_unreadable (files : Files) (directory : String) (table : TableName) :
    (∃ text, Finds files directory table text) ∨
      ∃ cause, Unreadable files directory table cause := by
  cases hread : files.read (tablePath directory table) with
  | ok text => exact .inl ⟨text, .file hread⟩
  | error cause =>
      by_cases hmissing : cause = .missing
      · subst hmissing
        exact .inl ⟨_, .builtin hread⟩
      · exact .inr ⟨cause, hread, hmissing⟩

theorem Finds.unique {text other : String} (hfinds : Finds files directory table text)
    (hother : Finds files directory table other) : text = other := by
  cases hfinds with
  | file hread =>
      cases hother with
      | file hother => exact Except.ok.inj (hread.symm.trans hother)
      | builtin hmissing => nomatch hread.symm.trans hmissing
  | builtin hmissing =>
      cases hother with
      | file hother => nomatch hmissing.symm.trans hother
      | builtin => rfl

theorem Finds.not_unreadable {text : String} {cause : ReadError}
    (hfinds : Finds files directory table text) :
    ¬ Unreadable files directory table cause := by
  rintro ⟨hread, hmissing⟩
  cases hfinds with
  | file hfile => nomatch hread.symm.trans hfile
  | builtin hnone =>
      cases hread.symm.trans hnone
      contradiction

theorem Finds.of_read_eq {others : Files} {otherDirectory text : String}
    (hsame : files.read (tablePath directory table) =
      others.read (tablePath otherDirectory table))
    (hfinds : Finds files directory table text) :
    Finds others otherDirectory table text := by
  cases hfinds with
  | file hread => exact .file (hsame.symm.trans hread)
  | builtin hmissing => exact .builtin (hsame.symm.trans hmissing)

theorem readTable_of_finds {text : String} (hfinds : Finds files directory table text) :
    ∃ events, readTable files directory table table.builtin = .ok (text, events) := by
  rw [readTable]
  cases hfinds with
  | file hread =>
      rw [hread]
      exact ⟨_, rfl⟩
  | builtin hmissing =>
      rw [hmissing]
      exact ⟨_, rfl⟩

theorem readTable_of_unreadable {cause : ReadError}
    (hunreadable : Unreadable files directory table cause) :
    readTable files directory table table.builtin =
      .error (.unreadable table (tablePath directory table) cause) := by
  have hread := hunreadable.read_eq
  rw [readTable]
  split
  · rename_i hfile
    nomatch hread.symm.trans hfile
  · rename_i hmissing
    cases hread.symm.trans hmissing
    exact absurd rfl hunreadable.ne_missing
  · rename_i other hother
    cases hread.symm.trans hother
    rfl

theorem readTables_eq (files : Files) (directory : String) :
    (readTables files directory).2 =
      (readTable files directory .spellings TableName.spellings.builtin).bind fun spellings =>
        (readTable files directory .bookmarks TableName.bookmarks.builtin).bind fun bookmarks =>
          (readTable files directory .numbers TableName.numbers.builtin).bind fun numbers =>
            .ok ⟨spellings.1, bookmarks.1, numbers.1⟩ := by
  simp only [readTables, TableName.builtin]
  cases readTable files directory .spellings Documents.builtinSpellings with
  | error error => rfl
  | ok spellings =>
      cases readTable files directory .bookmarks Documents.builtinBookmarks with
      | error error => rfl
      | ok bookmarks =>
          cases readTable files directory .numbers Documents.builtinNumbers with
          | error error => rfl
          | ok numbers => rfl

theorem readTables_of_finds {documents : Documents}
    (hfinds : ∀ table, Finds files directory table (documents.text table)) :
    (readTables files directory).2 = .ok documents := by
  obtain ⟨first, hspellings⟩ := readTable_of_finds (hfinds .spellings)
  obtain ⟨second, hbookmarks⟩ := readTable_of_finds (hfinds .bookmarks)
  obtain ⟨third, hnumbers⟩ := readTable_of_finds (hfinds .numbers)
  rw [readTables_eq, hspellings, hbookmarks, hnumbers]
  rfl

theorem readTables_of_unreadable {cause : ReadError}
    (hunreadable : Unreadable files directory table cause)
    (hearlier : ∀ other ∈ table.earlier, ∃ text, Finds files directory other text) :
    (readTables files directory).2 =
      .error (.unreadable table (tablePath directory table) cause) := by
  have hfails := readTable_of_unreadable hunreadable
  have hreads : ∀ other ∈ table.earlier, ∃ read,
      readTable files directory other other.builtin = .ok read := by
    intro other hother
    obtain ⟨text, hfinds⟩ := hearlier other hother
    obtain ⟨events, hread⟩ := readTable_of_finds hfinds
    exact ⟨_, hread⟩
  rw [readTables_eq]
  cases table with
  | spellings =>
      rw [hfails]
      rfl
  | bookmarks =>
      obtain ⟨first, hspellings⟩ := hreads .spellings (.head _)
      rw [hspellings, hfails]
      rfl
  | numbers =>
      obtain ⟨first, hspellings⟩ := hreads .spellings (.head _)
      obtain ⟨second, hbookmarks⟩ := hreads .bookmarks (.tail _ (.head _))
      rw [hspellings, hbookmarks, hfails]
      rfl

theorem load_eq (files : Files) (directory : String) :
    (load files directory).2 = (readTables files directory).2.bind fun documents =>
      (ofDocuments documents).mapError .invalid := by
  rw [load]
  split
  · rename_i hread
    rw [hread]
    rfl
  · rename_i hread
    rw [hread]
    dsimp only [Except.bind]
    split
    · rename_i hdocuments
      rw [hdocuments]
      rfl
    · rename_i hdocuments
      rw [hdocuments]
      rfl

theorem unreadable_or_finds (files : Files) (directory : String) :
    (∃ table cause, Unreadable files directory table cause ∧
        ∀ other ∈ table.earlier, ∃ text, Finds files directory other text) ∨
      ∃ documents : Documents, ∀ table, Finds files directory table (documents.text table) := by
  rcases finds_or_unreadable files directory .spellings with ⟨spellings, hspellings⟩ | hfails
  · rcases finds_or_unreadable files directory .bookmarks with ⟨bookmarks, hbookmarks⟩ | hfails
    · rcases finds_or_unreadable files directory .numbers with ⟨numbers, hnumbers⟩ | hfails
      · refine .inr ⟨⟨spellings, bookmarks, numbers⟩, ?_⟩
        rintro (_ | _ | _)
        · exact hspellings
        · exact hbookmarks
        · exact hnumbers
      · obtain ⟨cause, hcause⟩ := hfails
        refine .inl ⟨.numbers, cause, hcause, ?_⟩
        rw [TableName.earlier, List.forall_mem_cons, List.forall_mem_singleton]
        exact ⟨⟨_, hspellings⟩, ⟨_, hbookmarks⟩⟩
    · obtain ⟨cause, hcause⟩ := hfails
      refine .inl ⟨.bookmarks, cause, hcause, ?_⟩
      rw [TableName.earlier, List.forall_mem_singleton]
      exact ⟨_, hspellings⟩
  · obtain ⟨cause, hcause⟩ := hfails
    exact .inl ⟨.spellings, cause, hcause, nofun⟩

end Read

theorem ofDocuments_eq_ok_iff {documents : Documents} {vocabulary : Vocabulary} :
    ofDocuments documents = .ok vocabulary ↔
      ∀ table, vocabulary.Holds table (documents.text table) := by
  constructor
  · intro hread
    rw [ofDocuments] at hread
    cases hspellings : Json.readObject Json.stringLists documents.spellings with
    | error error =>
        rw [hspellings] at hread
        contradiction
    | ok spellings =>
        cases hbookmarks : Json.readObject Json.naturals documents.bookmarks with
        | error error =>
            rw [hspellings, hbookmarks] at hread
            contradiction
        | ok bookmarks =>
            cases hnumbers : Json.readObject Json.naturals documents.numbers with
            | error error =>
                rw [hspellings, hbookmarks, hnumbers] at hread
                contradiction
            | ok numbers =>
                rw [hspellings, hbookmarks, hnumbers] at hread
                obtain rfl : ofTables spellings bookmarks numbers = vocabulary :=
                  Except.ok.inj hread
                intro table
                cases table with
                | spellings => exact ⟨spellings, hspellings, rfl⟩
                | bookmarks => exact ⟨bookmarks, hbookmarks, rfl⟩
                | numbers => exact ⟨numbers, hnumbers, rfl⟩
  · intro hholds
    obtain ⟨spellings, hreadSpellings, hspellings⟩ := hholds .spellings
    obtain ⟨bookmarks, hreadBookmarks, hbookmarks⟩ := hholds .bookmarks
    obtain ⟨numbers, hreadNumbers, hnumbers⟩ := hholds .numbers
    simp only [Documents.text] at hreadSpellings hreadBookmarks hreadNumbers
    have hvocabulary : ofTables spellings bookmarks numbers = vocabulary := by
      rw [ofTables, ← hspellings, ← hbookmarks, ← hnumbers]
    rw [ofDocuments, hreadSpellings, hreadBookmarks, hreadNumbers, ← hvocabulary]
    rfl

theorem Holds.sameTable {vocabulary other : Vocabulary} {table : TableName} {text : String}
    (hholds : vocabulary.Holds table text) (hother : other.Holds table text) :
    vocabulary.SameTable other table := by
  cases table with
  | spellings =>
      obtain ⟨listed, hread, hlisted⟩ := hholds
      obtain ⟨others, hreadOther, hothers⟩ := hother
      cases hread.symm.trans hreadOther
      exact hlisted.trans hothers.symm
  | bookmarks =>
      obtain ⟨listed, hread, hlisted⟩ := hholds
      obtain ⟨others, hreadOther, hothers⟩ := hother
      cases hread.symm.trans hreadOther
      exact hlisted.trans hothers.symm
  | numbers =>
      obtain ⟨listed, hread, hlisted⟩ := hholds
      obtain ⟨others, hreadOther, hothers⟩ := hother
      cases hread.symm.trans hreadOther
      exact hlisted.trans hothers.symm

section Builtin

variable {σ α : Type} {reader : Json.ValueReader σ α} {document : String}

theorem exists_readObject_of_isSome
    (hread : (Json.readObject reader document).toOption.isSome = true) :
    ∃ table, Json.readObject reader document = .ok table := by
  cases hcases : Json.readObject reader document with
  | ok table => exact ⟨table, rfl⟩
  | error error =>
      rw [hcases] at hread
      contradiction

-- A text is taken apart into its lines before it is read, which saves decoding all of it again
-- for each of them.

theorem exists_builtinSpellings :
    ∃ table, Json.readObject Json.stringLists Documents.builtinSpellings = .ok table := by
  apply exists_readObject_of_isSome
  unfold Json.readObject Documents.builtinSpellings
  simp only [String.toList_append]
  decide +kernel

theorem exists_builtinBookmarks :
    ∃ table, Json.readObject Json.naturals Documents.builtinBookmarks = .ok table := by
  apply exists_readObject_of_isSome
  decide +kernel

theorem exists_builtinNumbers :
    ∃ table, Json.readObject Json.naturals Documents.builtinNumbers = .ok table := by
  apply exists_readObject_of_isSome
  unfold Json.readObject Documents.builtinNumbers
  simp only [String.toList_append]
  decide +kernel

end Builtin

theorem ofDocuments_builtin : ofDocuments .builtin = .ok builtin := by
  obtain ⟨spellings, hspellings⟩ := exists_builtinSpellings
  obtain ⟨bookmarks, hbookmarks⟩ := exists_builtinBookmarks
  obtain ⟨numbers, hnumbers⟩ := exists_builtinNumbers
  have hread : ofDocuments .builtin = .ok (ofTables spellings bookmarks numbers) := by
    rw [ofDocuments_eq_ok_iff]
    rintro (_ | _ | _)
    · exact ⟨spellings, hspellings, rfl⟩
    · exact ⟨bookmarks, hbookmarks, rfl⟩
    · exact ⟨numbers, hnumbers, rfl⟩
  rw [builtin, hread]
  rfl

section Load

variable {files : Files} {directory : String}

theorem load_of_unreadable {table : TableName} {cause : ReadError}
    (hunreadable : Unreadable files directory table cause)
    (hearlier : ∀ other ∈ table.earlier, ∃ text, Finds files directory other text) :
    (load files directory).2 = .error (.unreadable table (tablePath directory table) cause) := by
  rw [load_eq, readTables_of_unreadable hunreadable hearlier]
  rfl

theorem load_of_finds {documents : Documents}
    (hfinds : ∀ table, Finds files directory table (documents.text table)) :
    (load files directory).2 = (ofDocuments documents).mapError .invalid := by
  rw [load_eq, readTables_of_finds hfinds]
  rfl

theorem load_eq_ok_iff {vocabulary : Vocabulary} :
    (load files directory).2 = .ok vocabulary ↔
      ∀ table, ∃ text, Finds files directory table text ∧ vocabulary.Holds table text := by
  rcases unreadable_or_finds files directory with
    ⟨table, cause, hunreadable, hearlier⟩ | ⟨documents, hfinds⟩
  · rw [load_of_unreadable hunreadable hearlier]
    constructor
    · exact nofun
    · intro hall
      obtain ⟨text, hfinds, -⟩ := hall table
      exact absurd hunreadable hfinds.not_unreadable
  · have hread : (ofDocuments documents).mapError VocabularyError.invalid = .ok vocabulary ↔
        ofDocuments documents = .ok vocabulary := by
      cases ofDocuments documents with
      | error error => exact iff_of_false nofun nofun
      | ok other => exact ⟨fun heq => congrArg _ (Except.ok.inj heq),
          fun heq => congrArg _ (Except.ok.inj heq)⟩
    rw [load_of_finds hfinds, hread, ofDocuments_eq_ok_iff]
    constructor
    · intro hholds table
      exact ⟨_, hfinds table, hholds table⟩
    · intro hall table
      obtain ⟨text, htext, hholds⟩ := hall table
      rw [(hfinds table).unique htext]
      exact hholds

end Load

/-- What is loaded from a directory. A file that cannot be read decides, the first if there are
several; otherwise the documents do, and each table comes from its own. -/
theorem load_directory_table_by_table (files : Files) (directory : String) :
    (∀ table cause, Unreadable files directory table cause →
      (∀ other ∈ table.earlier, ∃ text, Finds files directory other text) →
      (load files directory).2 =
        .error (.unreadable table (tablePath directory table) cause)) ∧
    (∀ documents : Documents,
      (∀ table, Finds files directory table (documents.text table)) →
      (load files directory).2 = (ofDocuments documents).mapError .invalid) ∧
    ((∃ table cause, Unreadable files directory table cause ∧
        ∀ other ∈ table.earlier, ∃ text, Finds files directory other text) ∨
      ∃ documents : Documents,
        ∀ table, Finds files directory table (documents.text table)) ∧
    (∀ vocabulary, (load files directory).2 = .ok vocabulary ↔
      ∀ table, ∃ text, Finds files directory table text ∧ vocabulary.Holds table text) ∧
    (∀ others otherDirectory vocabulary other,
      (load files directory).2 = .ok vocabulary →
      (load others otherDirectory).2 = .ok other →
      ∀ table, files.read (tablePath directory table) =
          others.read (tablePath otherDirectory table) →
        vocabulary.SameTable other table) ∧
    ((∀ table, files.read (tablePath directory table) = .error .missing) →
      (load files directory).2 = .ok builtin) := by
  refine ⟨?_, ?_, unreadable_or_finds files directory, ?_, ?_, ?_⟩
  · intro table cause hunreadable hearlier
    exact load_of_unreadable hunreadable hearlier
  · intro documents hfinds
    exact load_of_finds hfinds
  · intro vocabulary
    exact load_eq_ok_iff
  · intro others otherDirectory vocabulary other hload hother table hsame
    obtain ⟨text, hfinds, hholds⟩ := load_eq_ok_iff.mp hload table
    obtain ⟨otherText, hotherFinds, hotherHolds⟩ := load_eq_ok_iff.mp hother table
    rw [← (hfinds.of_read_eq hsame).unique hotherFinds] at hotherHolds
    exact hholds.sameTable hotherHolds
  · intro hmissing
    have hfinds : ∀ table, Finds files directory table (Documents.builtin.text table) := by
      rintro (_ | _ | _)
      · exact .builtin (hmissing .spellings)
      · exact .builtin (hmissing .bookmarks)
      · exact .builtin (hmissing .numbers)
    rw [load_of_finds hfinds, ofDocuments_builtin]
    rfl

theorem load_directory_table_by_table_unreadable_behind_malformed :
    let tree : Tree := .ofList [("d/like-words.json", .file "oops".toUTF8),
      ("d/line-jumps.json", .directory), ("e/line-jumps.json", .file "\x7B\x7D".toUTF8),
      ("f/line-jumps.json", .file "\x7B\x7D".toUTF8), ("f/number.json", .file "\x7B \x7D".toUTF8)]
    (load tree.files "d").2 =
        .error (.unreadable .bookmarks "d/line-jumps.json" .isDirectory) ∧
      (load tree.files "e").2 = (ofDocuments ⟨Documents.builtinSpellings, "\x7B\x7D",
        Documents.builtinNumbers⟩).mapError .invalid ∧
      (∃ vocabulary other, (load tree.files "e").2 = .ok vocabulary ∧
        (load tree.files "f").2 = .ok other ∧ vocabulary.bookmarks = other.bookmarks) ∧
      (load tree.files "g").2 = .ok builtin := by
  intro tree
  have hmalformed : Finds tree.files "d" .spellings "oops" := .file rfl
  have hdirectory : Unreadable tree.files "d" .bookmarks .isDirectory := ⟨rfl, nofun⟩
  have hdocument : Finds tree.files "e" .bookmarks "\x7B\x7D" := .file rfl
  have hother : Finds tree.files "f" .bookmarks "\x7B\x7D" := .file rfl
  obtain ⟨spellings, hspellings⟩ := exists_builtinSpellings
  obtain ⟨numbers, hnumbers⟩ := exists_builtinNumbers
  obtain ⟨hunreadable, -⟩ := load_directory_table_by_table tree.files "d"
  obtain ⟨-, hdocuments, -, hloadE, hsame, -⟩ := load_directory_table_by_table tree.files "e"
  obtain ⟨-, -, -, hloadF, -, -⟩ := load_directory_table_by_table tree.files "f"
  obtain ⟨-, -, -, -, -, hmissing⟩ := load_directory_table_by_table tree.files "g"
  have hfirst : (load tree.files "e").2 = .ok (ofTables spellings .empty numbers) := by
    rw [hloadE]
    rintro (_ | _ | _)
    · exact ⟨_, .builtin rfl, spellings, hspellings, rfl⟩
    · exact ⟨_, hdocument, .empty, rfl, rfl⟩
    · exact ⟨_, .builtin rfl, numbers, hnumbers, rfl⟩
  have hsecond : (load tree.files "f").2 = .ok (ofTables spellings .empty .empty) := by
    rw [hloadF]
    rintro (_ | _ | _)
    · exact ⟨_, .builtin rfl, spellings, hspellings, rfl⟩
    · exact ⟨_, hother, .empty, rfl, rfl⟩
    · exact ⟨"\x7B \x7D", .file rfl, .empty, rfl, rfl⟩
  refine ⟨hunreadable .bookmarks _ hdirectory ?_, hdocuments _ ?_,
    ⟨_, _, hfirst, hsecond, hsame _ _ _ _ hfirst hsecond .bookmarks rfl⟩, hmissing ?_⟩
  · rw [TableName.earlier, List.forall_mem_singleton]
    exact ⟨_, hmalformed⟩
  · rintro (_ | _ | _)
    · exact .builtin rfl
    · exact hdocument
    · exact .builtin rfl
  · rintro (_ | _ | _) <;> rfl

end Vocabulary

end VoiceCursor

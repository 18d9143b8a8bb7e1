import Mathlib.Data.List.TakeWhile
import VoiceCursor.Proofs.Run
import VoiceCursor.Proofs.Text.Lines

namespace VoiceCursor

open Text

/-! What a run leaves behind, by what it could load and by its input up to the line that
asks to quit. -/

/-- Whether a line is a slash and, in any case, the name of the command that ends a run. -/
def asksToQuit (line : String) : Bool :=
  match trim isBlank line.toList with
  | '/' :: name => lowercase (.ofList name) = "quit" ∨ lowercase (.ofList name) = "exit"
  | _ => false

/-- The lines up to the first that asks to quit, which is the last of them. -/
def upToQuit : List (Option String) → List (Option String)
  | [] => []
  | line :: lines => line :: if line.any asksToQuit then [] else upToQuit lines

structure Loads (options : Arguments) (files : Files) (settings : Settings)
    (vocabulary : Vocabulary) (buffer : Buffer) : Prop where
  settings_eq : Settings.load files options.config = .ok settings
  vocabulary_eq : ((settings.override options).loadVocabulary files).2 = .ok vocabulary
  buffer_eq : Run.openDocument files options.file = .ok buffer

/-- The first of what a run starts from cannot be loaded. -/
inductive LoadFails (options : Arguments) (files : Files) : RunError → Prop where
  | settings {error : SettingsError}
      (hsettings : Settings.load files options.config = .error error) :
      LoadFails options files (.settings error)
  | vocabulary {settings : Settings} {error : VocabularyError}
      (hsettings : Settings.load files options.config = .ok settings)
      (hvocabulary : ((settings.override options).loadVocabulary files).2 = .error error) :
      LoadFails options files (.vocabulary error)
  | document {settings : Settings} {vocabulary : Vocabulary} {path : String} {cause : ReadError}
      (hsettings : Settings.load files options.config = .ok settings)
      (hvocabulary : ((settings.override options).loadVocabulary files).2 = .ok vocabulary)
      (hfile : options.file = some path) (hdocument : files.read path = .error cause) :
      LoadFails options files (.document path cause)

/-- The words that tell what cannot be loaded, and from where. -/
def RunError.heading : RunError → String
  | .settings (.unreadable path _) => "Failed to read config '" ++ path ++ "'"
  | .settings (.invalid path _ _) => "Invalid config '" ++ path ++ "'"
  | .vocabulary (.unreadable table path _) =>
      "Failed to read dictionary '" ++ table.text ++ "' from '" ++ path ++ "': "
  | .vocabulary (.invalid refused) => "Invalid dictionary '" ++ refused.table.text ++ "': "
  | .document path _ => "Failed to open " ++ path
  | .input => "Failed to read stdin"

section Message

variable [Toml.Wording]

theorem RunError.exists_message_eq (error : RunError) :
    ∃ rest, error.message = error.heading ++ rest := by
  cases error with
  | settings error =>
      have hheading : error.summary = (settings error).heading := by
        cases error <;> rfl
      refine ⟨": " ++ error.cause, ?_⟩
      rw [message, SettingsError.message, hheading, String.append_assoc]
  | vocabulary error => cases error <;> exact ⟨_, rfl⟩
  | document path cause => exact ⟨"", String.append_empty.symm⟩
  | input => exact ⟨"", String.append_empty.symm⟩

end Message

theorem Session.quits_obey_iff (session : Session) (command : Command) :
    (session.obey command).quits = true ↔ command = .quit := by
  cases command <;> simp [obey]

theorem Session.quits_takeLine (session : Session) (line : String) :
    (session.takeLine line).quits = asksToQuit line := by
  rw [asksToQuit]
  cases hspoken : isSpoken line with
  | true =>
      rw [session.takeLine_eq_of_isSpoken hspoken]
      rw [isSpoken] at hspoken
      split
      · rename_i hslash
        rw [hslash] at hspoken
        contradiction
      · rfl
  | false =>
      rcases isSpoken_eq_false_iff.mp hspoken with hblank | ⟨name, hslash⟩
      · rw [session.takeLine_of_blank hblank, hblank]
      · rw [session.takeLine_of_slash hslash, hslash, Bool.eq_iff_iff, quits_obey_iff,
          Command.ofName_eq_quit_iff]
        exact decide_eq_true_iff.symm

section UpToQuit

variable {line : String} (lines : List (Option String))

theorem upToQuit_cons_of_quits (hquits : asksToQuit line = true) :
    upToQuit (some line :: lines) = [some line] := by
  rw [upToQuit, Option.any_some, if_pos hquits]

theorem upToQuit_cons_of_goes (hgoes : asksToQuit line = false) :
    upToQuit (some line :: lines) = some line :: upToQuit lines := by
  rw [upToQuit, Option.any_some, hgoes]
  rfl

theorem upToQuit_append {first : List (Option String)} (hline : some line ∈ first)
    (hquits : asksToQuit line = true) (second : List (Option String)) :
    upToQuit (first ++ second) = upToQuit first := by
  induction first with
  | nil => nomatch hline
  | cons head tail ih =>
      rw [List.cons_append, upToQuit, upToQuit]
      by_cases hhead : head.any asksToQuit = true
      · rw [if_pos hhead, if_pos hhead]
      · rcases List.mem_cons.mp hline with rfl | htail
        · contradiction
        · rw [if_neg hhead, if_neg hhead, ih htail]

end UpToQuit

namespace Run

theorem linesOf_cons {line : List UInt8} (hline : 10 ∉ line) (rest : List UInt8) :
    linesOf (line ++ 10 :: rest) = decodeLine? (dropCarriageReturn line) :: linesOf rest := by
  rw [linesOf, cutLines_cons hline, List.map_cons, linesOf]

theorem linesOf_of_notMem {line : List UInt8} (hline : 10 ∉ line) :
    linesOf line = if line = [] then [] else [decodeLine? line] := by
  rw [linesOf, cutLines_of_notMem hline]
  split <;> rfl

theorem linesOf_newline (before after : List UInt8) :
    linesOf (before ++ 10 :: after) = linesOf (before ++ [10]) ++ linesOf after := by
  rw [linesOf, cutLines_append, List.map_append, linesOf, cutLines_newline, linesOf]

theorem quits_takeLine (run : Run) (line : String) :
    (run.takeLine line).2.2 = asksToQuit line :=
  run.session.quits_takeLine line

section TakeAll

variable (run : Run) (lines : List (Option String))

theorem takeAll_upToQuit : run.takeAll (upToQuit lines) = run.takeAll lines := by
  induction lines generalizing run with
  | nil => rfl
  | cons line lines ih =>
      cases line with
      | none => rfl
      | some line =>
          cases hquits : asksToQuit line with
          | true =>
              rw [upToQuit_cons_of_quits lines hquits]
              simp only [takeAll, quits_takeLine, hquits, if_true]
          | false =>
              rw [upToQuit_cons_of_goes lines hquits]
              simp only [takeAll, ih]

theorem map_some_handled :
    (run.handled lines).map some = (upToQuit lines).takeWhile Option.isSome := by
  induction lines generalizing run with
  | nil => rfl
  | cons line lines ih =>
      cases line with
      | none => rfl
      | some line =>
          rw [handled, quits_takeLine, List.map_cons]
          cases hquits : asksToQuit line with
          | true =>
              rw [upToQuit_cons_of_quits lines hquits]
              rfl
          | false =>
              rw [upToQuit_cons_of_goes lines hquits, List.takeWhile_cons_of_pos rfl, ← ih]
              rfl

theorem takeAll_of_none_mem (hnone : none ∈ upToQuit lines) :
    (run.takeAll lines).2 = .error .input := by
  induction lines generalizing run with
  | nil => nomatch hnone
  | cons line lines ih =>
      cases line with
      | none => rfl
      | some line =>
          rw [takeAll_cons_some, quits_takeLine]
          cases hquits : asksToQuit line with
          | true =>
              rw [upToQuit_cons_of_quits lines hquits] at hnone
              simp at hnone
          | false =>
              rw [upToQuit_cons_of_goes lines hquits] at hnone
              exact ih _ ((List.mem_cons.mp hnone).resolve_left nofun)

theorem takeAll_of_upToQuit_eq {texts : List String} (htexts : upToQuit lines = texts.map some) :
    ∃ last, (run.takeAll lines).2 = .ok last ∧ last.session = run.session.takeLines texts := by
  have hreadable : ∀ line ∈ upToQuit lines, line.isSome = true := by
    rw [htexts, List.forall_mem_map]
    exact fun _ _ => rfl
  obtain ⟨last, hlast⟩ := run.exists_takeAll hreadable
  rw [takeAll_upToQuit] at hlast
  have hhandled : run.handled lines = texts := by
    have hmap := run.map_some_handled lines
    rw [List.takeWhile_eq_self_iff.mpr hreadable, htexts] at hmap
    exact (List.map_inj_right fun _ _ => Option.some.inj).mp hmap
  refine ⟨last, hlast, ?_⟩
  rw [session_of_takeAll hlast, hhandled]

end TakeAll

theorem openDocument_eq_error_iff {files : Files} {file : Option String} {error : RunError} :
    openDocument files file = .error error ↔
      ∃ path cause, file = some path ∧ files.read path = .error cause ∧
        error = .document path cause := by
  cases file with
  | none => simp [openDocument]
  | some path =>
      rw [openDocument]
      cases hread : files.read path with
      | ok text => simp [hread]
      | error cause => simp [hread, eq_comm]

theorem start_of_loadFails {options : Arguments} {files : Files} {error : RunError}
    (hfails : LoadFails options files error) : (start options files).2 = .error error := by
  cases hfails with
  | settings hsettings => rw [start, hsettings]
  | vocabulary hsettings hvocabulary =>
      rw [start_of_load hsettings, startWith_of_vocabulary_error hvocabulary]
  | document hsettings hvocabulary hfile hdocument =>
      rw [start_of_load hsettings, startWith_of_vocabulary hvocabulary,
        openDocument_eq_error_iff.mpr ⟨_, _, hfile, hdocument, rfl⟩]
      rfl

theorem loads_or_fails (options : Arguments) (files : Files) :
    (∃ settings vocabulary buffer, Loads options files settings vocabulary buffer) ∨
      ∃ error, LoadFails options files error := by
  cases hsettings : Settings.load files options.config with
  | error error => exact .inr ⟨_, .settings hsettings⟩
  | ok settings =>
      cases hvocabulary : ((settings.override options).loadVocabulary files).2 with
      | error error => exact .inr ⟨_, .vocabulary hsettings hvocabulary⟩
      | ok vocabulary =>
          cases hdocument : openDocument files options.file with
          | error error =>
              obtain ⟨path, cause, hfile, hread, rfl⟩ := openDocument_eq_error_iff.mp hdocument
              exact .inr ⟨_, .document hsettings hvocabulary hfile hread⟩
          | ok buffer =>
              exact .inl ⟨settings, vocabulary, buffer, hsettings, hvocabulary, hdocument⟩

end Run

section Outcome

variable [Toml.Wording] {arguments : List String} {options : Arguments} {files : Files}
  (haccepted : CommandLine.read arguments = .ok options)

include haccepted

theorem outcome_eq_of_upToQuit_eq {input other : List UInt8}
    (hsame : upToQuit (Run.linesOf input) = upToQuit (Run.linesOf other)) :
    outcome arguments files input = outcome arguments files other := by
  cases hstart : (Run.start options files).2 with
  | error error =>
      rw [outcome_of_start_error haccepted hstart, outcome_of_start_error haccepted hstart]
  | ok first =>
      rw [outcome_of_start_ok haccepted hstart, outcome_of_start_ok haccepted hstart,
        ← first.takeAll_upToQuit, hsame, first.takeAll_upToQuit]

/-- The document of a run is written when it has all that it starts from and can read its
input up to the line that asks to quit; nothing is written otherwise, and nothing after
that line matters. -/
theorem outcome_of_accepted (files : Files) :
    (∀ line rest, 10 ∉ line →
        Run.linesOf (line ++ 10 :: rest) =
          decodeLine? (dropCarriageReturn line) :: Run.linesOf rest) ∧
      (∀ line, 10 ∉ line →
        Run.linesOf line = if line = [] then [] else [decodeLine? line]) ∧
      ((∃ settings vocabulary buffer, Loads options files settings vocabulary buffer) ∨
        ∃ error, LoadFails options files error) ∧
      (∀ settings vocabulary buffer, Loads options files settings vocabulary buffer →
        ∀ input,
          (∀ lines, upToQuit (Run.linesOf input) = lines.map some →
            let first := Session.start ((settings.override options).grammar vocabulary) buffer
            (outcome arguments files input).code = 0 ∧
              (outcome arguments files input).stdout =
                (first.takeLines lines).editor.text ++ "\n") ∧
          (none ∈ upToQuit (Run.linesOf input) →
            (outcome arguments files input).code = 1 ∧
              (outcome arguments files input).stdout = "")) ∧
      (∀ error, LoadFails options files error →
        (Run.start options files).2 = .error error ∧
          (∃ rest, error.message = error.heading ++ rest) ∧
          ∀ input, outcome arguments files input =
            ⟨1, "", (Run.start options files).1 ++ ("Error: " ++ error.message ++
              "\n\nCaused by:\n" ++ RunError.setIn error.cause ++ "\n")⟩) ∧
      (∀ before line after other, some line ∈ Run.linesOf (before ++ [10]) →
        asksToQuit line = true →
        outcome arguments files (before ++ 10 :: after) =
          outcome arguments files (before ++ 10 :: other)) := by
  refine ⟨fun _ rest hline => Run.linesOf_cons hline rest,
    fun _ hline => Run.linesOf_of_notMem hline, Run.loads_or_fails options files, ?_, ?_, ?_⟩
  · intro settings vocabulary buffer hloads input
    obtain ⟨first, hfirst, hsession⟩ :=
      Run.exists_start hloads.settings_eq hloads.vocabulary_eq hloads.buffer_eq
    rw [outcome_of_start_ok haccepted hfirst]
    constructor
    · intro lines hlines
      obtain ⟨last, hlast, hfolded⟩ := first.takeAll_of_upToQuit_eq _ hlines
      rw [hlast, ← hsession]
      dsimp only
      rw [← hfolded]
      exact ⟨rfl, rfl⟩
    · intro hnone
      rw [first.takeAll_of_none_mem _ hnone]
      exact ⟨rfl, rfl⟩
  · intro error hfails
    have hstart := Run.start_of_loadFails hfails
    exact ⟨hstart, error.exists_message_eq, outcome_of_start_error haccepted hstart⟩
  · intro before line after other hline hquits
    apply outcome_eq_of_upToQuit_eq haccepted
    rw [Run.linesOf_newline, Run.linesOf_newline before other, upToQuit_append hline hquits,
      upToQuit_append hline hquits]

end Outcome

theorem outcome_of_accepted_exit_before_bad_bytes :
    let files : Files := ⟨fun path =>
      if path = "doc.txt" then .ok "one\ntwo"
      else if path = "silly-nav.toml" then .error .missing
      else .ok "\x7B\x7D"⟩
    let unreadable : Files := ⟨fun path =>
      if path = "silly-nav.toml" then .error .missing else .error .isDirectory⟩
    let arguments := ["--dictionaries", "d", "doc.txt"]
    let options : Arguments := ⟨some "doc.txt", "silly-nav.toml", some "d", false⟩
    let spoken : List UInt8 := [76, 105, 110, 101, 32, 50, 46, 13, 10, 104, 105, 10]
    let exit : List UInt8 := [32, 47, 69, 88, 73, 84]
    CommandLine.read arguments = .ok options ∧
      (∀ rest, (outcome arguments files (spoken ++ exit ++ 10 :: rest)).code = 0 ∧
        (outcome arguments files (spoken ++ exit ++ 10 :: rest)).stdout = "one\nhi two\n") ∧
      (outcome arguments files (spoken ++ 255 :: 10 :: exit)).code = 1 ∧
      (outcome arguments files (spoken ++ 255 :: 10 :: exit)).stdout = "" ∧
      ∀ input, outcome arguments unreadable input = ⟨1, "", "Error: " ++
        "Failed to read dictionary 'like-words' from 'd/like-words.json': " ++
        "Is a directory (os error 21)\n\nCaused by:\n    Is a directory (os error 21)\n"⟩ := by
  intro files unreadable arguments options spoken exit
  have haccepted : CommandLine.read arguments = .ok options := rfl
  obtain ⟨-, -, -, hloaded, -, hafter⟩ := outcome_of_accepted haccepted files
  obtain ⟨-, -, -, -, hfails, -⟩ := outcome_of_accepted haccepted unreadable
  have hloads : Loads options files .default (.ofTables .empty .empty .empty)
      (.ofText "one\ntwo") := ⟨rfl, rfl, rfl⟩
  have hinput := hloaded _ _ _ hloads
  have hlines : upToQuit (Run.linesOf (spoken ++ exit ++ 10 :: [])) =
      ["Line 2.", "hi", " /EXIT"].map some := by decide +kernel
  refine ⟨haccepted, ?_, ?_, ?_, ?_⟩
  · intro rest
    rw [hafter _ " /EXIT" rest [] (by decide +kernel) (by decide +kernel)]
    have houtcome := (hinput _).1 _ hlines
    exact ⟨houtcome.1, houtcome.2.trans (by decide +kernel)⟩
  · exact ((hinput _).2 (by decide +kernel)).1
  · exact ((hinput _).2 (by decide +kernel)).2
  · intro input
    obtain ⟨-, -, hreported⟩ := hfails (.vocabulary
      (.unreadable .spellings (Vocabulary.tablePath "d" .spellings) .isDirectory))
      (.vocabulary rfl rfl)
    rw [hreported]
    decide +kernel

end VoiceCursor

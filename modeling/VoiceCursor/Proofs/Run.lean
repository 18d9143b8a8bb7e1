import VoiceCursor.Proofs.Buffer.Saved
import VoiceCursor.Proofs.Session.Dictation
import VoiceCursor.Proofs.Session.Document
import VoiceCursor.Run

namespace VoiceCursor

open Text

/-! A run from the document that it opens to the one that it leaves behind. What is
dictated is all that tells them apart, and what is left behind can be opened again. -/

namespace Session

theorem rows_takeLine {session : Session} {line : String}
    (hnone : session.dictation? line = none) :
    (session.takeLine line).session.editor.rows = session.editor.rows := by
  cases hspoken : isSpoken line with
  | false =>
      rcases session.takeLine_of_not_isSpoken hspoken with hsame | habandon
      · rw [hsame]
      · rw [habandon]
        rfl
  | true =>
      rw [session.takeLine_of_isSpoken hspoken]
      by_cases htaken : session.takenFrom (.ofList (trim isBlank line.toList)) = []
      · rw [dictation?, if_pos ⟨hspoken, htaken⟩] at hnone
        contradiction
      · rw [(session.takeUtterance_command _ htaken).1, rows_listen]

theorem rows_takeLines {session : Session} {lines : List String}
    (hnone : session.dictations lines = []) :
    (session.takeLines lines).editor.rows = session.editor.rows := by
  induction lines generalizing session with
  | nil => rfl
  | cons line lines ih =>
      rw [dictations, List.append_eq_nil_iff, Option.toList_eq_nil_iff] at hnone
      exact (ih hnone.2).trans (rows_takeLine hnone.1)

end Session

namespace Run

def linesOf (input : List UInt8) : List (Option String) := (cutLines input).map decodeLine?

/-- The lines that a run handles, the last of which may end it. -/
def handled (run : Run) : List (Option String) → List String
  | [] | none :: _ => []
  | some line :: lines =>
      line :: if (run.takeLine line).2.2 then [] else (run.takeLine line).1.handled lines

theorem takeAll_cons_some (run : Run) (line : String) (lines : List (Option String)) :
    (run.takeAll (some line :: lines)).2 =
      if (run.takeLine line).2.2 then .ok (run.takeLine line).1
      else ((run.takeLine line).1.takeAll lines).2 := by
  simp only [takeAll]
  split <;> rfl

theorem session_of_takeAll {run last : Run} {lines : List (Option String)}
    (hlast : (run.takeAll lines).2 = .ok last) :
    last.session = run.session.takeLines (run.handled lines) := by
  induction lines generalizing run with
  | nil =>
      cases hlast
      rfl
  | cons line lines ih =>
      cases line with
      | none => nomatch hlast
      | some line =>
          rw [takeAll_cons_some] at hlast
          rw [handled]
          split at hlast
          · rename_i hquits
            rw [if_pos hquits]
            cases hlast
            rfl
          · rename_i hgoes
            rw [if_neg hgoes]
            exact ih hlast

theorem exists_takeAll (run : Run) {lines : List (Option String)}
    (hreadable : ∀ line ∈ lines, line.isSome = true) :
    ∃ last, (run.takeAll lines).2 = .ok last := by
  induction lines generalizing run with
  | nil => exact ⟨run, rfl⟩
  | cons line lines ih =>
      obtain ⟨hline, hrest⟩ := List.forall_mem_cons.mp hreadable
      obtain ⟨line, rfl⟩ := Option.isSome_iff_exists.mp hline
      rw [takeAll_cons_some]
      split
      · exact ⟨_, rfl⟩
      · exact ih _ hrest

section Start

variable {options : Arguments} {files : Files} {settings : Settings}

theorem start_of_load (hload : Settings.load files options.config = .ok settings) :
    start options files = startWith (settings.override options) options.file files := by
  rw [start, hload]

theorem startWith_of_vocabulary_error {error : VocabularyError}
    (hvocabulary : (settings.loadVocabulary files).2 = .error error) (file : Option String) :
    (startWith settings file files).2 = .error (.vocabulary error) := by
  rw [startWith]
  dsimp only
  rw [hvocabulary]

theorem startWith_of_vocabulary {vocabulary : Vocabulary}
    (hvocabulary : (settings.loadVocabulary files).2 = .ok vocabulary) (file : Option String) :
    (startWith settings file files).2 = (openDocument files file).map fun buffer =>
      ⟨(Log.Filter.ofText settings.logFilter).1,
        Session.start (settings.grammar vocabulary) buffer⟩ := by
  rw [startWith]
  dsimp only
  rw [hvocabulary]
  cases openDocument files file <;> rfl

theorem session_of_start {first : Run} (hfirst : (start options files).2 = .ok first) :
    ∃ grammar buffer, openDocument files options.file = .ok buffer ∧
      first.session = Session.start grammar buffer := by
  rw [start] at hfirst
  split at hfirst
  · contradiction
  · rw [startWith] at hfirst
    dsimp only at hfirst
    split at hfirst
    · contradiction
    · split at hfirst
      · contradiction
      · rename_i buffer hbuffer
        cases hfirst
        exact ⟨_, buffer, hbuffer, rfl⟩

theorem exists_start {vocabulary : Vocabulary} {buffer : Buffer}
    (hsettings : Settings.load files options.config = .ok settings)
    (hvocabulary : ((settings.override options).loadVocabulary files).2 = .ok vocabulary)
    (hbuffer : openDocument files options.file = .ok buffer) :
    ∃ first, (start options files).2 = .ok first ∧
      first.session = Session.start ((settings.override options).grammar vocabulary) buffer := by
  rw [start_of_load hsettings, startWith_of_vocabulary hvocabulary, hbuffer]
  exact ⟨_, rfl, rfl⟩

end Start

end Run

section Outcome

variable [Toml.Wording] {arguments : List String} {options : Arguments} {files : Files}
  (haccepted : CommandLine.read arguments = .ok options)

include haccepted

theorem outcome_of_start_error {error : RunError}
    (hstart : (Run.start options files).2 = .error error) (input : List UInt8) :
    outcome arguments files input = ⟨1, "", (Run.start options files).1 ++ error.report⟩ := by
  rw [outcome, haccepted]
  dsimp only
  rw [Run.execute]
  split
  · rename_i told other hother
    rw [hother] at hstart ⊢
    cases hstart
    rfl
  · rename_i told first hfirst
    rw [hfirst] at hstart
    contradiction

theorem outcome_of_start_ok {first : Run}
    (hstart : (Run.start options files).2 = .ok first) (input : List UInt8) :
    outcome arguments files input =
      Run.finish ((Run.start options files).1 ++ (first.takeAll (Run.linesOf input)).1)
        (first.takeAll (Run.linesOf input)).2 := by
  rw [outcome, haccepted]
  dsimp only
  rw [Run.execute]
  split
  · rename_i told error hfailed
    rw [hfailed] at hstart
    contradiction
  · rename_i told other hother
    rw [hother] at hstart ⊢
    cases hstart
    rfl

end Outcome

/-- A run that accepts its arguments, starts, and gets through its input. -/
structure Passage (arguments : List String) (files : Files) (input : List UInt8) where
  options : Arguments
  first : Run
  last : Run
  accepted : CommandLine.read arguments = .ok options
  started : (Run.start options files).2 = .ok first
  ended : (first.takeAll (Run.linesOf input)).2 = .ok last

namespace Passage

variable {arguments : List String} {files : Files} {input : List UInt8}

def dictations (passage : Passage arguments files input) : List (List Char) :=
  passage.first.session.dictations (passage.first.handled (Run.linesOf input))

def Opens (passage : Passage arguments files input) (text : String) : Prop :=
  ∃ path, passage.options.file = some path ∧ files.read path = .ok text

variable [Toml.Wording]

theorem outcome_eq (passage : Passage arguments files input) :
    (outcome arguments files input).code = 0 ∧
      (outcome arguments files input).stdout = passage.last.document := by
  rw [outcome_of_start_ok passage.accepted passage.started, passage.ended]
  exact ⟨rfl, rfl⟩

theorem stdout_of_dictations_eq_nil (passage : Passage arguments files input)
    {text : String} (hopens : passage.Opens text) (hsilent : passage.dictations = []) :
    (outcome arguments files input).stdout =
      if text.toList.getLast? = some '\n' then text else text ++ "\n" := by
  obtain ⟨path, hpath, hread⟩ := hopens
  obtain ⟨grammar, buffer, hbuffer, hfirst⟩ := Run.session_of_start passage.started
  have hopened : buffer = .ofText text := by
    rw [hpath, Run.openDocument, hread] at hbuffer
    exact (Except.ok.inj hbuffer).symm
  have hrows : passage.last.session.editor.rows = (Buffer.ofText text).rows := by
    rw [Run.session_of_takeAll passage.ended, Session.rows_takeLines hsilent, hfirst, hopened]
    rfl
  rw [passage.outcome_eq.2, Run.document, Buffer.text, hrows]
  exact Buffer.text_ofText text

theorem getLast?_stdout (passage : Passage arguments files input) :
    (outcome arguments files input).stdout.toList.getLast? = some '\n' := by
  rw [passage.outcome_eq.2, Run.document, String.toList_append]
  exact List.getLast?_concat

end Passage

theorem exists_passage {arguments : List String} {files : Files} {input : List UInt8}
    {options : Arguments} {settings : Settings} {vocabulary : Vocabulary} {buffer : Buffer}
    (haccepted : CommandLine.read arguments = .ok options)
    (hsettings : Settings.load files options.config = .ok settings)
    (hvocabulary : ((settings.override options).loadVocabulary files).2 = .ok vocabulary)
    (hbuffer : Run.openDocument files options.file = .ok buffer)
    (hreadable : ∀ line ∈ Run.linesOf input, line.isSome = true) :
    Nonempty (Passage arguments files input) := by
  obtain ⟨first, hfirst, -⟩ := Run.exists_start hsettings hvocabulary hbuffer
  obtain ⟨last, hlast⟩ := first.exists_takeAll hreadable
  exact ⟨⟨options, first, last, haccepted, hfirst, hlast⟩⟩

/-- A document that is written and opened again has the rows it had, and a text that is
opened and written again is the text it was, but for a newline at its end. So a run that
dictates nothing leaves behind what it opened. -/
theorem written_document_reopens [Toml.Wording] :
    (∀ (grammar : Grammar) (text : Option String) (operations : List Operation),
      let buffer := ((Session.start grammar (.opened text)).afterAll operations).editor
      Buffer.ofText (buffer.text ++ "\n") = ⟨buffer.rows, ⟨0, 0⟩⟩) ∧
    (∀ text : String, (Buffer.ofText text).text ++ "\n" =
      if text.toList.getLast? = some '\n' then text else text ++ "\n") ∧
    (∀ arguments files input (passage : Passage arguments files input) (text : String),
      passage.Opens text → passage.dictations = [] → text.toList.getLast? = some '\n' →
        (outcome arguments files input).code = 0 ∧
          (outcome arguments files input).stdout = text) ∧
    (∀ arguments files input, Passage arguments files input →
      ∀ arguments' files' input' (again : Passage arguments' files' input'),
        again.Opens (outcome arguments files input).stdout → again.dictations = [] →
          (outcome arguments' files' input').stdout =
            (outcome arguments files input).stdout) ∧
    (∀ arguments files input options settings vocabulary buffer,
      CommandLine.read arguments = .ok options →
      Settings.load files options.config = .ok settings →
      ((settings.override options).loadVocabulary files).2 = .ok vocabulary →
      Run.openDocument files options.file = .ok buffer →
      (∀ line ∈ Run.linesOf input, line.isSome = true) →
        Nonempty (Passage arguments files input)) := by
  refine ⟨?_, Buffer.text_ofText, ?_, ?_, ?_⟩
  · intro grammar text operations
    exact (Session.wellFormed_afterAll grammar text operations).ofText_text
  · intro arguments files input passage text hopens hsilent hends
    refine ⟨passage.outcome_eq.1, ?_⟩
    rw [passage.stdout_of_dictations_eq_nil hopens hsilent, if_pos hends]
  · intro arguments files input passage arguments' files' input' again hopens hsilent
    rw [again.stdout_of_dictations_eq_nil hopens hsilent, if_pos passage.getLast?_stdout]
  · intro arguments files input options settings vocabulary buffer haccepted hsettings
      hvocabulary hbuffer hreadable
    exact exists_passage haccepted hsettings hvocabulary hbuffer hreadable

theorem written_document_reopens_after_down_quit :
    let files : Files := ⟨fun path =>
      if path = "doc.txt" then .ok "one\n\ntwo\n"
      else if path = "silly-nav.toml" then .error .missing
      else .ok "\x7B\x7D"⟩
    let arguments := ["--dictionaries", "d", "doc.txt"]
    let input : List UInt8 := [68, 111, 119, 110, 46, 10, 47, 113, 117, 105, 116, 10]
    ∃ passage : Passage arguments files input,
      passage.Opens "one\n\ntwo\n" ∧ passage.dictations = [] ∧
        (outcome arguments files input).stdout = "one\n\ntwo\n" ∧
        passage.Opens (outcome arguments files input).stdout := by
  intro files arguments input
  let first : Run := ⟨(Log.Filter.ofText "warn").1,
    Session.start (Settings.default.grammar (.ofTables .empty .empty .empty))
      (.ofText "one\n\ntwo\n")⟩
  have hlines : Run.linesOf input = [some "Down.", some "/quit"] := by decide +kernel
  obtain ⟨last, hlast⟩ : ∃ last, (first.takeAll (Run.linesOf input)).2 = .ok last := by
    apply first.exists_takeAll
    rw [hlines]
    simp
  let passage : Passage arguments files input :=
    ⟨⟨some "doc.txt", "silly-nav.toml", some "d", false⟩, first, last, rfl, rfl, hlast⟩
  have hopens : passage.Opens "one\n\ntwo\n" := ⟨"doc.txt", rfl, rfl⟩
  have hsilent : passage.dictations = [] := by
    show first.session.dictations (first.handled (Run.linesOf input)) = []
    rw [hlines]
    decide +kernel
  obtain ⟨-, -, hidentity, -⟩ := written_document_reopens
  have hsame := (hidentity arguments files input passage _ hopens hsilent (by decide)).2
  refine ⟨passage, hopens, hsilent, hsame, ?_⟩
  rw [hsame]
  exact hopens

end VoiceCursor

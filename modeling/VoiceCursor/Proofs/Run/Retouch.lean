import VoiceCursor.Proofs.Run.Outcome
import VoiceCursor.Proofs.Session.Retouch
import VoiceCursor.Proofs.Text.Utf8

namespace VoiceCursor

open Text

/-! A run over retouched input. It tells other things on the way, but it writes the same
document and ends in the same way. -/

namespace Run

variable (run : Run)

theorem takeLine_around (margins : Margins) (line : String) :
    run.takeLine (margins.around line) = run.takeLine line := by
  rw [takeLine, Session.takeLine_around, takeLine]

theorem takeAll_inert (line : InertLine) (lines : List (Option String)) :
    (run.takeAll (some line.text :: lines)).2 = (run.takeAll lines).2 := by
  obtain ⟨hsession, hgoes⟩ := run.session.takeLine_inert line
  have hsame : (run.takeLine line.text).1 = run := by
    rw [takeLine]
    exact congrArg (Run.mk run.filter) hsession
  have hquits : ¬ (run.takeLine line.text).2.2 = true := by
    rw [takeLine]
    exact Bool.eq_false_iff.mp hgoes
  rw [takeAll_cons_some, if_neg hquits, hsame]

theorem takeAll_retouched (retouches : List Retouch) :
    (run.takeAll ((linesAfter retouches).map some)).2 =
      (run.takeAll ((linesBefore retouches).map some)).2 := by
  induction retouches generalizing run with
  | nil => rfl
  | cons retouch retouches ih =>
      cases retouch with
      | keep line before after =>
          show (run.takeAll (some (after.around line) :: (linesAfter retouches).map some)).2 =
            (run.takeAll (some (before.around line) :: (linesBefore retouches).map some)).2
          rw [takeAll_cons_some, takeAll_cons_some, takeLine_around, takeLine_around, ih]
      | insert line => exact (run.takeAll_inert line _).trans (ih run)
      | delete line => exact (ih run).trans (run.takeAll_inert line _).symm

theorem finish_code_stdout [Toml.Wording] (told other : String) (last : Except RunError Run) :
    (finish told last).code = (finish other last).code ∧
      (finish told last).stdout = (finish other last).stdout := by
  cases last with
  | error error => exact ⟨rfl, rfl⟩
  | ok run => exact ⟨rfl, rfl⟩

theorem exists_linesOf_eq {input : List UInt8} (hinput : (decodeLine? input).isSome = true) :
    ∃ lines : List String, linesOf input = lines.map some := by
  have hreadable : ∀ line ∈ cutLines input, (decodeLine? line).isSome = true :=
    fun line hline => isSome_decodeLine?_of_mem_cutLines hinput hline
  rw [linesOf]
  generalize cutLines input = lines at hreadable
  induction lines with
  | nil => exact ⟨[], rfl⟩
  | cons line lines ih =>
      obtain ⟨hline, hrest⟩ := List.forall_mem_cons.mp hreadable
      obtain ⟨text, htext⟩ := Option.isSome_iff_exists.mp hline
      obtain ⟨texts, htexts⟩ := ih hrest
      exact ⟨text :: texts, by rw [List.map_cons, List.map_cons, htext, htexts]⟩

end Run

theorem outcome_retouched [Toml.Wording] (arguments : List String) (files : Files)
    {input other : List UInt8} {retouches : List Retouch}
    (hinput : Run.linesOf input = (linesBefore retouches).map some)
    (hother : Run.linesOf other = (linesAfter retouches).map some) :
    (outcome arguments files other).code = (outcome arguments files input).code ∧
      (outcome arguments files other).stdout = (outcome arguments files input).stdout := by
  cases haccepted : CommandLine.read arguments with
  | error refusal =>
      rw [outcome, outcome, haccepted]
      exact ⟨rfl, rfl⟩
  | ok options =>
      cases hstart : (Run.start options files).2 with
      | error error =>
          rw [outcome_of_start_error haccepted hstart, outcome_of_start_error haccepted hstart]
          exact ⟨rfl, rfl⟩
      | ok first =>
          rw [outcome_of_start_ok haccepted hstart, outcome_of_start_ok haccepted hstart, hinput,
            hother, first.takeAll_retouched]
          exact Run.finish_code_stdout _ _ _

/-- Blank lines, commands that ask to see something and white space around lines come to
nothing: the other lines find the sessions and get the replies that they would have without,
and the run leaves the same behind. -/
theorem retouched_input_same_outcome [Toml.Wording] :
    (∀ (session : Session) (retouches : List Retouch),
      session.keptReplies Retouch.after? retouches =
          session.keptReplies Retouch.before? retouches ∧
        session.takeLines (linesAfter retouches) =
          session.takeLines (linesBefore retouches)) ∧
      (∀ (session : Session) (line : InertLine),
        (session.takeLine line.text).session = session ∧
          (session.takeLine line.text).quits = false) ∧
      (∀ (session : Session) line name, trim isBlank line.toList = '/' :: name →
        (lowercase (.ofList name) = "reset" →
          session.takeLine line =
            ⟨{ session with state := .idle, feedback := .empty }, [.message "[reset]"], false⟩) ∧
        (lowercase (.ofList name) = "quit" ∨ lowercase (.ofList name) = "exit" →
          session.takeLine line = ⟨session, [], true⟩) ∧
        (session.takeLine line).session.editor = session.editor ∧
        session.dictation? line = none ∧
        ∀ notice ∈ (session.takeLine line).notices, ∃ text, notice = .message text) ∧
      (∀ arguments files input other retouches,
        Run.linesOf input = (linesBefore retouches).map some →
        Run.linesOf other = (linesAfter retouches).map some →
        (outcome arguments files other).code = (outcome arguments files input).code ∧
          (outcome arguments files other).stdout = (outcome arguments files input).stdout) ∧
      ∀ input, (decodeLine? input).isSome = true →
        ∃ lines : List String, Run.linesOf input = lines.map some := by
  refine ⟨?_, Session.takeLine_inert, ?_, ?_, fun input => Run.exists_linesOf_eq⟩
  · intro session retouches
    exact ⟨session.keptReplies_retouched retouches, session.takeLines_retouched retouches⟩
  · intro session line name hslash
    refine ⟨session.takeLine_reset hslash, session.takeLine_quit hslash, ?_⟩
    exact session.takeLine_slash hslash
  · intro arguments files input other retouches hinput hother
    exact outcome_retouched arguments files hinput hother

theorem retouched_input_same_outcome_line_two :
    let files : Files := ⟨fun path =>
      if path = "doc.txt" then .ok "one\ntwo"
      else if path = "silly-nav.toml" then .error .missing
      else .ok "\x7B\x7D"⟩
    let arguments := ["--dictionaries", "d", "doc.txt"]
    let bare : Margins := ⟨"", "", rfl, rfl⟩
    let spaced : Margins := ⟨"\t", " \r", by decide, by decide⟩
    let retouches : List Retouch := [
      .insert ⟨" \u3000", by decide +kernel⟩, .keep "Line 2." spaced bare,
      .insert ⟨"/Print", by decide +kernel⟩, .delete ⟨"/quits", by decide +kernel⟩,
      .keep "hi" bare spaced]
    let input := utf8 "\tLine 2. \r\r\n/quits\nhi".toList
    let other := utf8 " \u3000\nLine 2.\r\n/Print\n\thi \r\r\n".toList
    Run.linesOf input = (linesBefore retouches).map some ∧
      Run.linesOf other = (linesAfter retouches).map some ∧
      (outcome arguments files other).code = 0 ∧
      (outcome arguments files other).stdout = "one\nhi two\n" := by
  intro files arguments bare spaced retouches input other
  have hinput : Run.linesOf input = (linesBefore retouches).map some := by decide +kernel
  have hother : Run.linesOf other = (linesAfter retouches).map some := by decide +kernel
  obtain ⟨-, -, -, hrun, -⟩ := retouched_input_same_outcome
  obtain ⟨hcode, hstdout⟩ := hrun arguments files input other retouches hinput hother
  refine ⟨hinput, hother, hcode.trans ?_, hstdout.trans ?_⟩
  · decide +kernel
  · decide +kernel

end VoiceCursor

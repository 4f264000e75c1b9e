import HexPattern.Proofs.VisibleText
import HexPattern.Session.Outcome

/-! Records and reports on standard error. A report of a failure begins with a
mark; a record begins with the name of its level and fills one line, since its
message is visible throughout. So records never pass for reports, with colour
or without. -/
namespace HexPattern.ReportLines
open Session Terminal
open VisibleText (AllVisible Visible)

/-- What a report begins with. -/
def reportMark (colour : Bool) : String := if colour then "\x1b[31m[!]\x1b[0m" else "[!]"

/-- A report of a failure as it stands on standard error. -/
def reportText (colour : Bool) (message : String) : String :=
  reportMark colour ++ " " ++ message ++ "\n"

/-- Whole lines, none of which begins as a report does. -/
def HoldsNoReport (text : String) : Prop :=
  ∃ lines : List String, text = String.join (lines.map (· ++ "\n")) ∧
    ∀ line ∈ lines, '\n' ∉ line.toList ∧
      ∀ colour, ¬ (reportMark colour).toList <+: line.toList

theorem reportMark_eq (colour : Bool) :
    reportMark colour = (Span.styled .bad "[!]").render colour := by
  cases colour <;> decide

theorem reportText_eq (colour : Bool) (message : String) :
    reportText colour message = render colour [failureLine message] := by
  rw [reportText, reportMark_eq]
  simp [render, failureLine, Line.render, Span.render, String.append_assoc]

/-- The name of the level, as it stands at the beginning of a record's line. -/
def opening (colour : Bool) (level : Log.Level) : String :=
  (Span.styled (levelStyle level) level.label).render colour

theorem record_render (colour : Bool) (record : Log.Record) :
    (recordLine record).render colour =
      opening colour record.level ++ " " ++
        (Span.styled .dimmed ("[" ++ record.source.name ++ "]")).render colour ++
          (" " ++ record.message) := by
  simp [recordLine, Line.render, opening, Span.render, String.append_assoc]

theorem no_feed_in_record {record : Log.Record} (colour : Bool) (visible : Visible record.message) :
    '\n' ∉ ((recordLine record).render colour).toList := by
  have level : '\n' ∉ (opening colour record.level).toList := by
    cases colour <;> cases record.level <;> decide
  have source :
      '\n' ∉ ((Span.styled .dimmed ("[" ++ record.source.name ++ "]")).render colour).toList := by
    cases colour <;> cases record.source <;> decide
  have message : '\n' ∉ record.message.toList := by
    intro member
    exact absurd (visible '\n' member) (by decide)
  simp [record_render, level, source, message]

/-- The third character at the latest tells a record from a report. -/
theorem record_no_report (colour marked : Bool) (record : Log.Record) :
    ¬ (reportMark marked).toList <+: ((recordLine record).render colour).toList := by
  rintro ⟨rest, same⟩
  have three := congrArg (List.take 3) same
  have long : 3 ≤ (opening colour record.level).toList.length := by
    cases colour <;> cases record.level <;> decide
  have marks : 3 ≤ (reportMark marked).toList.length := by
    cases marked <;> decide
  rw [record_render, String.toList_append, String.toList_append, String.toList_append,
    List.append_assoc, List.append_assoc, List.take_append_of_le_length marks,
    List.take_append_of_le_length long] at three
  revert three
  cases colour <;> cases marked <;> cases record.level <;> decide

theorem records_hold_no_report (colour : Bool) {records : List Log.Record}
    (visible : AllVisible records) : HoldsNoReport (render colour (records.map recordLine)) := by
  refine ⟨records.map fun record => (recordLine record).render colour, ?_, ?_⟩
  · simp [render, Function.comp_def]
  · intro line member
    obtain ⟨record, here, rfl⟩ := List.mem_map.mp member
    exact ⟨no_feed_in_record colour (visible record here), fun marked =>
      record_no_report colour marked record⟩

theorem allVisible_shown (environment : Environment) (threshold : Log.Level)
    {records : List Log.Record} (visible : AllVisible records) :
    AllVisible (shownRecords environment threshold records) := by
  intro record member
  unfold shownRecords at member
  split at member
  · cases member
  · exact visible record (Log.mem_kept_iff.mp member).1

/-- What is written on standard error is the log and then the report. -/
theorem stderr_eq (environment : Environment) (settings : Settings) (run : Run Bool) :
    (conclude environment settings run).stderr =
      render (environment.forceColour && settings.useColor)
          ((shownRecords environment settings.threshold run.records).map recordLine) ++
        render (environment.forceColour && settings.useColor) (failureLines run.result) := by
  simp [conclude, render]

end HexPattern.ReportLines

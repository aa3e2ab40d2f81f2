import AlertDetail.Calendar.Display
import AlertDetail.Run.Operation

/-!
# Reporting

Sending the report of a missed anomaly. A form is kept while its report is under way and emptied if
the report comes to nothing; nothing is sent for a form that is incomplete or while no slice is
selected.
-/

namespace AlertDetail.LiveView

/-- The report came to nothing. -/
def refuseReport (live : LiveView) (cause : ChartError) : LiveView × Next :=
  (live.update fun session =>
      { session with
        report := { session.report with form := {}, isFailure := true, isSuccess := false } },
    .finish (.refused cause))

/-- The report was accepted. -/
def acceptReport (live : LiveView) (report : Report) : LiveView × Next :=
  let stretch := live.zone.stretchText report.startTime report.endTime
  let live := live.update fun session =>
    { session with
      report := { session.report with
        isSuccess := true, isFailure := false, reportedRange := some stretch } }
  (live.notify ⟨false, "Anomaly reported", stretch⟩, .finish .done)

/-- Check a form and send its report. -/
def submit (live : LiveView) (form : ReportForm) : LiveView × Next :=
  let live := live.update fun session =>
    { session with report := { session.report with form := form } }
  match form.check, live.session.metricUrn with
  | .ok report, some urn => (live, .ask (.report live.session.alertId urn report) (.report report))
  | .ok _, none => live.refuseReport (.validation "no metric slice selected")
  | .error cause, _ => live.refuseReport cause

/-- The answer to a report. -/
def takeReport (live : LiveView) (report : Report) (answer : Answer) : LiveView × Next :=
  match answer.accepted with
  | .ok _ => live.acceptReport report
  | .error cause => live.refuseReport cause

end AlertDetail.LiveView

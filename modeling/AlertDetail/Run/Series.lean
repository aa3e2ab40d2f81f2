import AlertDetail.Run.Operation

/-!
# Requests for series

How the series of the selected slice are requested and what happens when they arrive. Where rules
are visible the measured series is the one of the selected rule's prediction, and only the baseline
is called for, unless it is that prediction as well. Where they are hidden both series are called
for. Every request has a number; only the series of the latest one are installed.
-/

namespace AlertDetail.LiveView

/-- The operation of a request fails: the view is errored and the user is told. -/
def failSeries (live : LiveView) (purpose : Purpose) (cause : ChartError) : LiveView × Next :=
  (live.fail cause, .finish (purpose.failure cause))

/-- The series of a request are there. -/
def finishSeries (live : LiveView) (request : SeriesRequest)
    (measured baseline : Option TimeSeries) : LiveView × Next :=
  (live.install request.ticket measured baseline, .finish request.purpose.success)

/-- The next request, on a slice. -/
def nextRequest (live : LiveView) (purpose : Purpose) (urn : String) : SeriesRequest where
  ticket := live.ticket + 1
  urn := urn
  range := live.session.range
  offset := live.session.baselineOffset
  timezone := live.zone.name
  purpose := purpose

/-- Go on with a request that was just issued. -/
def issue (live : LiveView) (request : SeriesRequest) : LiveView × Next :=
  if live.session.rulesVisible then
    match Prediction.find? live.session.predictions live.session.rule request.urn with
    | none => live.finishSeries request none none
    | some prediction =>
      if request.offset = .predicted then
        live.finishSeries request (some prediction.series) (some prediction.series)
      else (live, .ask request.baselineCall (.baselineOnly request prediction.series))
  else (live, .ask request.measuredCall (.measured request))

/-- Request the series of the selected slice. The request gets its number even if no slice is
selected. -/
def requestSeries (live : LiveView) (purpose : Purpose) : LiveView × Next :=
  match live.session.metricUrn with
  | none => { live with ticket := live.ticket + 1 }.failSeries purpose .missingSlice
  | some urn =>
    let request := live.nextRequest purpose urn
    let live := live.update fun session => { session with isLoadingSeries := true }
    { live with ticket := request.ticket }.issue request

/-- The answer to the call for the measured series. `asked` tells whether the baseline was called
for already. -/
def takeMeasured (live : LiveView) (request : SeriesRequest) (asked : Bool) (answer : Answer) :
    LiveView × Next :=
  match answer.series with
  | .error cause => live.failSeries request.purpose cause
  | .ok measured =>
    let stage := Stage.baselineOnly request measured
    (live, if asked then .wait stage else .ask request.baselineCall stage)

/-- The answer to the call for the baseline, before that for the measured series. -/
def takeBaseline (live : LiveView) (request : SeriesRequest) (answer : Answer) :
    LiveView × Next :=
  match answer.series with
  | .error cause => live.failSeries request.purpose cause
  | .ok baseline => (live, .wait (.measuredOnly request baseline))

/-- The last answer to a request, of which `complete` makes the two series. -/
def takeLast (live : LiveView) (request : SeriesRequest) (answer : Answer)
    (complete : TimeSeries → TimeSeries × TimeSeries) : LiveView × Next :=
  match answer.series with
  | .error cause => live.failSeries request.purpose cause
  | .ok series =>
    let (measured, baseline) := complete series
    live.finishSeries request (some measured) (some baseline)

end AlertDetail.LiveView

import AlertDetail.Backend.Call
import AlertDetail.Http.Message
import AlertDetail.Json.Reader
import AlertDetail.Payload.Anomaly
import AlertDetail.Payload.Evaluation
import AlertDetail.Url.Parse

/-!
# Calls over the web

A backend that is reached over the web: the request that a call becomes, and the answer that a reply
becomes. Everything that a call names besides numbers in the path travels as a pair of the query, so
no text in it can be taken for another part of the address.
-/

namespace AlertDetail.Http

/-- An address below a base, with pairs in its query. Slashes at the end of the base do not
count. -/
def address (base path : String) (pairs : List (String × String)) : Except ChartError Url :=
  let base : String := .ofList (base.toList.reverse.dropWhile (· = '/')).reverse
  match Url.parse (base ++ path) with
  | .ok url => .ok (url.withPairs pairs)
  | .error cause => .error (.fetch ("invalid url for " ++ path ++ ": " ++ cause.message))

/-- The bounds of a window as pairs. -/
def windowPairs (window : AnalysisRange) : List (String × String) :=
  [("start", toString window.start), ("end", toString window.stop)]

/-- The path of a call. -/
def path : Call → String
  | .anomalies alertId _ => "/detection/" ++ toString alertId ++ "/anomalies"
  | .preview .. => "/yaml/preview"
  | .bounds alertId _ => "/detection/preview/" ++ toString alertId
  | .timeseries .. => "/rootcause/metric/timeseries"
  | .report alertId .. => "/detection/report-anomaly/" ++ toString alertId

/-- The pairs of a call. -/
def pairs : Call → List (String × String)
  | .anomalies _ window => windowPairs window
  | .preview _ alertId window =>
    windowPairs window ++
      [("tuningStart", "0"), ("tuningEnd", "0"), ("alertId", toString alertId)]
  | .bounds _ window => windowPairs window ++ [("diagnostics", "true")]
  | .timeseries urn window offset timezone =>
    ("urn", urn) :: windowPairs window ++ [("offset", offset.name), ("timezone", timezone)]
  | .report _ urn report => ("metricUrn", urn) :: report.pairs

/-- What a call does. -/
def method : Call → Method
  | .anomalies .. | .timeseries .. => .get
  | .preview .. | .bounds .. | .report .. => .post

/-- The text that a call hands in, if any; for the saved configuration it is empty. -/
def handedIn : Call → Option String
  | .preview yaml .. => some yaml
  | .bounds .. => some ""
  | _ => none

/-- The request of a call. -/
def request (base : String) (call : Call) : Except ChartError Request := do
  let url ← address base (path call) (pairs call)
  return {
    method := method call
    url := url.withoutCredentials
    contentType := (handedIn call).map fun _ => "text/plain"
    body := (handedIn call).getD "" }

/-- The payload of a reply to a call, none if it is not what the call asks for. -/
def payload? (call : Call) (text : String) : Option AlertDetail.Reply :=
  match call with
  | .anomalies .. => .anomalies <$> ((Json.parse? text).bind (Json.list? Anomaly.ofJson?))
  | .preview .. | .bounds .. => .evaluation <$> ((Json.parse? text).bind Evaluation.ofJson?)
  | .timeseries .. => .series <$> ((Json.parse? text).bind TimeSeries.ofJson?)
  | .report .. => some .accepted

/-- What is told of a reply without success. The text of the reply is told unless the call was a
report. -/
def refusal (call : Call) (url : Url) (reply : Reply) : ChartError :=
  let status := url.pathText ++ " returned " ++ reply.statusText
  match call with
  | .report .. => .fetch status
  | _ => .fetch (status ++ " " ++ Text.trim reply.content)

/-- The answer that a reply becomes. -/
def answer (call : Call) (url : Url) (reply : Reply) : Answer :=
  if reply.isSuccess then
    match payload? call reply.content with
    | some payload => .ok payload
    | none => .error (.fetch (url.pathText ++ " payload: error decoding response body"))
  else .error (refusal call url reply)

/-- The answer to a call, given how requests are sent: nobody may be there to reply. -/
def perform {m : Type → Type} [Monad m] (send : Request → m (Option Reply)) (base : String)
    (call : Call) : m Answer :=
  match request base call with
  | .error cause => pure (.error cause)
  | .ok request =>
    let shown := " for url (" ++ request.url.text ++ ")"
    if request.sendable then do
      match ← send request with
      | some reply => return answer call request.url reply
      | none => return .error (.fetch ("error sending request" ++ shown))
    else pure (.error (.fetch ("builder error" ++ shown)))

end AlertDetail.Http

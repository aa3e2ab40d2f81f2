/-!
# Causes of failure

What can go wrong while an alert's details are loaded or changed, and the text shown for it.
-/

namespace AlertDetail

/-- A cause of failure. -/
inductive ChartError where
  /-- The backend refused a request or answered with something unreadable. -/
  | fetch (cause : String)
  /-- The answers name no metric slice. -/
  | missingSlice
  /-- Something the user or the caller gave is unusable. -/
  | validation (problem : String)
  /-- A range of time that does not start before it ends. -/
  | invalidRange (start stop : Int)
  deriving DecidableEq, Repr, Inhabited

/-- The text shown for a failure. -/
def ChartError.message : ChartError → String
  | .fetch cause => "fetch failed: " ++ cause
  | .missingSlice => "unable to resolve a metric urn slice from the response"
  | .validation problem => "validation failed: " ++ problem
  | .invalidRange start stop =>
    "invalid analysis range: start " ++ toString start ++ " must be before end " ++ toString stop

end AlertDetail

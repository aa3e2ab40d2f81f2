import AlertDetail.Json.Reader
import AlertDetail.Payload.Fields

/-!
# Set-up files

A set-up file states defaults for what the environment leaves open. It is a record; each field may
be missing. A file that is not such a record states nothing.
-/

namespace AlertDetail

/-- What a set-up file states. -/
structure ConfigOverrides where
  /-- Address of the backend. -/
  baseUrl : Option String := none
  /-- Name of the zone. -/
  timezone : Option String := none
  /-- Seconds to wait for a reply. -/
  timeout : Option Nat := none
  /-- Length in milliseconds of the window that views open with. -/
  window : Option Int := none
  deriving DecidableEq, Repr, Inhabited

namespace ConfigOverrides

/-- The fields, in their order. -/
def fieldNames : List String := ["base_url", "timezone", "request_timeout_secs", "time_window_ms"]

/-- What a record states. -/
def ofJson? (value : Json) : Option ConfigOverrides := do
  let fields ← Json.record? fieldNames value
  return {
    baseUrl := ← fields.optional "base_url" Json.text?
    timezone := ← fields.optional "timezone" Json.text?
    timeout := ← fields.optional "request_timeout_secs" Json.word?
    window := ← fields.optional "time_window_ms" Json.integer? }

/-- What a file states. -/
def ofText (text : String) : ConfigOverrides :=
  ((Json.parse? text).bind ofJson?).getD {}

end ConfigOverrides

end AlertDetail

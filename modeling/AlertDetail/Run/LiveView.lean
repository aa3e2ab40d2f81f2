import AlertDetail.DerivedViews
import AlertDetail.Notice

/-!
# Live views

A session together with what the operations on it share: the zone and the clock, the number of the
latest request for series, the notices, and the derived views.
-/

namespace AlertDetail

/-- A session that operations act on. -/
structure LiveView where
  /-- The zone that days begin in. -/
  zone : Zone
  /-- The present in epoch milliseconds. -/
  now : Int
  /-- The session. -/
  session : Session
  /-- The number of the latest request for series. -/
  ticket : Nat := 0
  /-- The notices. -/
  notices : NoticeBoard := .empty
  /-- What was derived from the session. -/
  views : DerivedViews := {}
  deriving Inhabited

namespace LiveView

/-- A view that opens now. The configured window counts where the options state none; a view that
does not evaluate a draft shows its details at once. -/
def open? (options : ViewOptions) (configuredWindow : Int) (now : Int) (zone : Zone)
    (notices : NoticeBoard) : Except ChartError LiveView := do
  let options := { options with window := options.window.or (some configuredWindow) }
  let session ← Session.new? options now zone
  let shown := !session.preview
  return {
    zone := zone
    now := now
    session := { session with showDetails := shown, isCurrent := shown }
    notices := notices }

/-- The view with its session changed. -/
def update (live : LiveView) (change : Session → Session) : LiveView :=
  { live with session := change live.session }

/-- Put a notice up. -/
def notify (live : LiveView) (notice : Notice) : LiveView :=
  { live with notices := live.notices.post notice }

/-- The view after a failed load, with the notice of its cause. -/
def fail (live : LiveView) (cause : ChartError) : LiveView :=
  (live.update Session.failed).notify ⟨true, "Error", cause.message⟩

/-- Install the series of a request, unless a later request was issued. -/
def install (live : LiveView) (ticket : Nat) (timeseries baseline : Option TimeSeries) :
    LiveView :=
  if live.ticket = ticket then
    live.update fun session =>
      { session.setSeries timeseries baseline with isLoadingSeries := false }
  else live

end LiveView

end AlertDetail

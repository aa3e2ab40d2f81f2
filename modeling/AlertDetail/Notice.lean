/-!
# Notices

Short messages to the user. They are either kept until somebody collects them or not kept at all.
-/

namespace AlertDetail

/-- A message to the user. -/
structure Notice where
  /-- Whether it tells of a failure. -/
  isError : Bool
  /-- The heading. -/
  title : String
  /-- The text. -/
  message : String
  deriving DecidableEq, Repr, Inhabited

/-- Where notices go. -/
inductive NoticeBoard where
  /-- Nobody collects them. -/
  | discarded
  /-- They are kept, the oldest first. -/
  | kept (notices : List Notice)
  deriving DecidableEq, Repr, Inhabited

namespace NoticeBoard

/-- A board without notices. -/
def empty : NoticeBoard := .kept []

/-- Put a notice up. -/
def post (notice : Notice) : NoticeBoard → NoticeBoard
  | discarded => discarded
  | kept notices => kept (notices ++ [notice])

/-- The notices kept. -/
def notices : NoticeBoard → List Notice
  | discarded => []
  | kept notices => notices

/-- Collect the notices: what was kept, and the board without it. -/
def drain : NoticeBoard → List Notice × NoticeBoard
  | discarded => ([], discarded)
  | kept notices => (notices, empty)

@[simp] theorem notices_post_kept (notice : Notice) (notices : List Notice) :
    ((kept notices).post notice).notices = notices ++ [notice] := rfl

end NoticeBoard

end AlertDetail

/-!
# Time series

Samples on a grid of timestamps, in named channels. A channel that an answer did not carry is
empty; a sample that is missing from a channel is none.
-/

namespace AlertDetail

/-- The samples of one channel, in the order of the grid. -/
abbrev Channel := List (Option Float)

/-- A grid of timestamps with its channels. -/
structure TimeSeries where
  /-- The grid in epoch milliseconds. -/
  timestamp : List Int := []
  /-- Measured or expected values. -/
  value : Channel := []
  /-- Measured values of a detector evaluation. -/
  current : Channel := []
  /-- Upper bound of the expectation. -/
  upperBound : Channel := []
  /-- Lower bound of the expectation. -/
  lowerBound : Channel := []
  deriving DecidableEq, Inhabited

end AlertDetail

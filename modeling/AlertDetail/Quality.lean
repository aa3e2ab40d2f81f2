import AlertDetail.Anomaly
import AlertDetail.Decimal.Fixed

/-!
# Quality of detection

How many of the anomalies were reviewed and with what verdict, the rates that follow, and the cards
that show them. A rate whose denominator is zero is not defined. Verdicts outside the three counted
ones count as reviews only.
-/

namespace AlertDetail

/-- The verdict of an anomaly that nobody reviewed. -/
def unreviewed : String := "NONE"

/-- Counts of anomalies by verdict. -/
structure QualityCounts where
  /-- All anomalies. -/
  total : Nat := 0
  /-- Those that were reviewed. -/
  responded : Nat := 0
  /-- Confirmed ones. -/
  truePositives : Nat := 0
  /-- Refuted ones. -/
  falsePositives : Nat := 0
  /-- Missed ones. -/
  falseNegatives : Nat := 0
  deriving DecidableEq, Repr, Inhabited

namespace QualityCounts

/-- The verdict of an anomaly, if it was reviewed. -/
def verdict? (anomaly : Anomaly) : Option String :=
  anomaly.statusClassification.filter (· ≠ unreviewed)

/-- The counts of a set of anomalies. -/
def tally (anomalies : List Anomaly) : QualityCounts :=
  let verdicts := anomalies.filterMap verdict?
  { total := anomalies.length
    responded := verdicts.length
    truePositives := verdicts.count "TRUE_POSITIVE"
    falsePositives := verdicts.count "FALSE_POSITIVE"
    falseNegatives := verdicts.count "FALSE_NEGATIVE" }

/-- A fraction of two counts. -/
structure Rate where
  /-- The part. -/
  part : Nat
  /-- The whole. -/
  whole : Nat
  deriving DecidableEq, Repr, Inhabited

/-- The value of a fraction, none if the whole is zero. -/
def Rate.value? (rate : Rate) : Option Float :=
  if 0 < rate.whole then some (Float.ofNat rate.part / Float.ofNat rate.whole) else none

/-- Reviewed anomalies among all. -/
def responseRate (counts : QualityCounts) : Rate := ⟨counts.responded, counts.total⟩

/-- Confirmed anomalies among all that were detected and reviewed. -/
def precision (counts : QualityCounts) : Rate :=
  ⟨counts.truePositives, counts.truePositives + counts.falsePositives⟩

/-- Confirmed anomalies among all that should have been detected. -/
def detectedShare (counts : QualityCounts) : Rate :=
  ⟨counts.truePositives, counts.truePositives + counts.falseNegatives⟩

end QualityCounts

/-- What a card shows. -/
inductive StatKind where
  | digit
  | percent
  deriving DecidableEq, Repr, Inhabited

/-- A card with one statistic. -/
structure StatCard where
  /-- The heading. -/
  title : String
  /-- What the statistic is. -/
  description : String
  /-- The value, none if it is not defined. -/
  value : Option Float
  /-- The value as text. -/
  display : String
  /-- Count or rate. -/
  kind : StatKind
  deriving DecidableEq, Inhabited

namespace StatCard

/-- A rate in percent with one decimal. -/
def percentText : Option Float → String
  | some rate => Decimal.fixed 1 (rate * 100) ++ "%"
  | none => "N/A"

/-- A card with a count. -/
def count (title description : String) (n : Nat) : StatCard :=
  ⟨title, description, some (Float.ofNat n), toString n, .digit⟩

/-- A card with a rate. -/
def rate (title description : String) (rate : QualityCounts.Rate) : StatCard :=
  ⟨title, description, rate.value?, percentText rate.value?, .percent⟩

/-- The cards of a set of anomalies. The draft of a new alert has no reviews yet, so only the count
is shown. -/
def ofAnomalies (anomalies : List Anomaly) (preview edit : Bool) : List StatCard :=
  let counts := QualityCounts.tally anomalies
  count "Anomalies" "Total number of anomalies that occured over a period of time" counts.total ::
    if !preview || edit then
      [rate "Response Rate" "% of anomalies that are reviewed" counts.responseRate,
        rate "Precision" "% of all anomalies detected by the system that are true" counts.precision,
        rate "Recall" "% of all anomalies detected by the system" counts.detectedShare]
    else []

end StatCard

end AlertDetail

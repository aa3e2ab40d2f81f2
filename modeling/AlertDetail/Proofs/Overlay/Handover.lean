import AlertDetail.Chart
import AlertDetail.Proofs.Overlay.Course

/-!
# Handovers

The anomaly that continues a closed one is looked for in a list of its own, which for the overlay of
the new anomalies is the list of the old ones. Two walks with the same anomalies and different
continuations stay together as long as no sample is a handover, the end of one of the anomalies and
the start of one of the continuations: what is open until then is one of the anomalies, and where it
ends neither walk finds anything. From there on an old anomaly may be open among the new ones, and
be followed by other old ones.
-/

namespace AlertDetail

namespace Overlay

variable {anomalies continuation continuation' continuations : List Anomaly} {grid : List Int}

end Overlay

namespace Chart

end Chart

end AlertDetail

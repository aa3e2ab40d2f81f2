import AlertDetail.Proofs.Calendar.Presets
import AlertDetail.Proofs.Calendar.Windows
import AlertDetail.Proofs.Payload.RoundTrip

/-!
# Where ranges come from

A range is handed out for bounds that are given, for a preset, for the window of an alert, or as it
was read from a text. The first three check its bounds. Reading does not: any two signed whole
numbers are read as the bounds of a range.
-/

namespace AlertDetail.AnalysisRange

open Json (Signed decode?)

/-- What a range is asked for with. -/
inductive Origin where
  /-- Two bounds. -/
  | bounds (start stop : Int)
  /-- The length of a preset that ends at an instant. -/
  | preset (length : RangePreset) (now : Int) (zone : Zone)
  /-- The length of a window that ends at an instant. -/
  | window (length : Int) (now : Int) (zone : Zone)
  /-- The text of a payload. -/
  | text (payload : String)
  deriving Repr

/-- Whether a range is handed out for it. -/
def Origin.HandsOut (range : AnalysisRange) : Origin → Prop
  | bounds start stop => new start stop = .ok range
  | preset length now zone => length.range? now zone = some range
  | window length now zone => ofWindow now length zone = .ok range
  | text payload => decode? ofJson? payload = some range

/-- Both bounds of a range that is read are signed whole numbers of 64 bits. -/
theorem gives_ofJson? :
    Json.Gives (fun range => Signed range.start ∧ Signed range.stop) ofJson? := by
  intro value range hvalue h
  simp only [ofJson?, bind, pure, Option.bind_eq_some_iff, Option.some.injEq] at h
  obtain ⟨fields, hrecord, start, hstart, stop, hstop, rfl⟩ := h
  have hfields := Json.numbers_of_record? hrecord hvalue
  exact ⟨Json.Fields.property_of_required Json.gives_integer? hfields hstart,
    Json.Fields.property_of_required Json.gives_integer? hfields hstop⟩

/-- A range is read from what is written for it, whatever the order of its bounds. -/
theorem ofJson?_toJson {range : AnalysisRange} (hstart : Signed range.start)
    (hstop : Signed range.stop) : ofJson? range.toJson = some range := by
  unfold ofJson? toJson
  rw [Json.record?_obj (by decide) (by exact .refl _), Option.bind_eq_bind, Option.bind_some,
    Json.Fields.required_of_lookup rfl, Json.integer?_int hstart,
    Json.Fields.required_of_lookup rfl, Json.integer?_int hstop]
  rfl

/-- The text of a range with signed bounds is read as the range. -/
theorem decode?_render_toJson {range : AnalysisRange} (hstart : Signed range.start)
    (hstop : Signed range.stop) : decode? ofJson? range.toJson.render = some range := by
  have hplain : range.toJson.Plain := ⟨hstart, hstop, trivial⟩
  rw [Json.decode?_render hplain.sound ⟨trivial, trivial, trivial⟩ rfl]
  exact ofJson?_toJson hstart hstop

/-- A range that is not read from a text starts before it ends. A text is read as any range whose
bounds are signed whole numbers of 64 bits, in whatever order, and as no other. -/
theorem handsOut (range : AnalysisRange) :
    (∀ origin : Origin, origin.HandsOut range →
      range.start < range.stop ∨ ∃ payload, origin = .text payload) ∧
    ((∃ payload, (Origin.text payload).HandsOut range) ↔
      Signed range.start ∧ Signed range.stop) := by
  refine ⟨fun origin h => ?_, ⟨fun ⟨payload, h⟩ => ?_, fun ⟨hstart, hstop⟩ => ?_⟩⟩
  · cases origin with
    | bounds start stop => exact .inl (lt_of_new h)
    | preset length now zone => exact .inl (RangePreset.lt_of_range? h)
    | window length now zone => exact .inl (lt_of_ofWindow h)
    | text payload => exact .inr ⟨payload, rfl⟩
  · exact Json.property_of_decode? gives_ofJson? h
  · exact ⟨range.toJson.render, decode?_render_toJson hstart hstop⟩

/-- A payload whose first bound is the later one is read as a range that ends before it starts. -/
theorem handsOut_reversed :
    (Origin.text "[5, 1]").HandsOut ⟨5, 1⟩ ∧
      ¬ ∀ (origin : Origin) (range : AnalysisRange), origin.HandsOut range →
        range.start < range.stop := by
  have hread : (Origin.text "[5, 1]").HandsOut ⟨5, 1⟩ :=
    show decode? ofJson? "[5, 1]" = some ⟨5, 1⟩ by decide +kernel
  exact ⟨hread, fun hordered => absurd (hordered _ _ hread) (by decide)⟩

end AlertDetail.AnalysisRange

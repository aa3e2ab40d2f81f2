import AlertDetail.Overlay
import AlertDetail.Payload.Choices
import AlertDetail.Payload.Evaluation
import AlertDetail.Proofs.Json.Printed
import AlertDetail.Proofs.Payload.Diagnostics
import AlertDetail.Proofs.Payload.Fields

/-!
# Payloads that are written and read again

Anomalies, time series, predictions, evaluations and forms of reports are written with the names
under which they are read, so writing one and reading the text gives it back. Infinities and values
that are no numbers cannot be written; they come back as gaps, and nothing else changes.
-/

namespace AlertDetail

open Json (Signed)

variable {whole : Int → Prop} {double : Float → Prop}

/-! ## What is written is read -/

theorem AnomalyProperties.ofJson?_toJson (properties : AnomalyProperties) :
    ofJson? properties.toJson = some properties := by
  unfold ofJson? toJson
  rw [Json.record?_obj (by decide) (by exact .refl _), Option.bind_eq_bind, Option.bind_some,
    Json.Fields.optional_of_lookup rfl, Json.nullable_ofText?]
  rfl

theorem AnomalyFeedback.ofJson?_toJson (feedback : AnomalyFeedback) :
    ofJson? feedback.toJson = some feedback := by
  unfold ofJson? toJson
  rw [Json.record?_obj (by decide) (by exact .refl _), Option.bind_eq_bind, Option.bind_some,
    Json.Fields.optional_of_lookup rfl, Json.nullable_ofText?,
    Json.Fields.optional_of_lookup rfl, Json.nullable_ofText?]
  rfl

theorem Anomaly.ofJson?_toJson {anomaly : Anomaly} (h : anomaly.toJson.Numbers Signed double) :
    ofJson? anomaly.toJson = some anomaly := by
  have hmember := Json.numbers_obj_iff.1 h
  have hstart : Signed anomaly.startTime := hmember ("startTime", .int anomaly.startTime) (by simp)
  have hend : Signed anomaly.endTime := hmember ("endTime", .int anomaly.endTime) (by simp)
  have hid : ∀ n ∈ anomaly.id, Signed n := fun n hn => by
    have hwritten := hmember ("id", .ofInteger? anomaly.id) (by simp)
    rw [hn] at hwritten
    exact hwritten
  unfold ofJson? toJson
  rw [Json.record?_obj (by decide) (by exact .refl _), Option.bind_eq_bind, Option.bind_some,
    Json.Fields.optional_of_lookup rfl, Json.nullable_ofInteger? hid,
    Json.Fields.required_of_lookup rfl, Json.Fields.required_of_lookup rfl,
    Json.integer?_int hstart, Json.Fields.required_of_lookup rfl, Json.integer?_int hend,
    Json.Fields.optional_of_lookup rfl, Json.nullable_ofNumber?,
    Json.Fields.optional_of_lookup rfl, Json.nullable_ofNumber?,
    Json.Fields.orElse_of_lookup rfl, Json.texts?_ofTexts,
    Json.Fields.optional_of_lookup rfl,
    Json.nullable_elim nofun AnomalyProperties.ofJson?_toJson,
    Json.Fields.optional_of_lookup rfl,
    Json.nullable_elim nofun AnomalyFeedback.ofJson?_toJson,
    Json.Fields.optional_of_lookup rfl, Json.nullable_ofText?]
  rfl

namespace TimeSeries

/-- A channel stands under its name, unless it is empty. -/
theorem lookup_channelToJson (key name : String) (channel : Channel) :
    (channelToJson name channel).lookup key =
      if key = name ∧ channel ≠ [] then some (.arr (channel.map Json.ofNumber?)) else none := by
  unfold channelToJson
  cases channel with
  | nil => simp
  | cons x rest =>
    by_cases hkey : key = name
    · simp [hkey]
    · have hother : (key == name) = false := beq_false_of_ne hkey
      simp [List.lookup_cons, hkey, hother]

/-- Such a field is read as the channel. -/
theorem orElse_channel {fields : Json.Fields} (name : String) (channel : Channel)
    (h : fields.lookup name =
      if channel ≠ [] then some (.arr (channel.map Json.ofNumber?)) else none) :
    fields.orElse name [] channelOfJson? = some channel := by
  by_cases hempty : channel = []
  · rw [if_neg (not_not.2 hempty)] at h
    rw [Json.Fields.orElse, h, hempty]
  · rw [if_pos hempty] at h
    rw [Json.Fields.orElse_of_lookup h]
    exact Json.list?_arr_map fun x _ => Json.nullable_ofNumber? x

theorem names_channelToJson (name : String) (channel : Channel) :
    ((channelToJson name channel).map (·.1)).Sublist [name] := by
  unfold channelToJson
  split
  · exact List.nil_sublist _
  · exact .refl _

/-- A time series is written with some of the names of its fields, in their order. -/
theorem record?_toJson (series : TimeSeries) : series.toJson.record? fieldNames = some
    (("timestamp", .arr (series.timestamp.map .int)) ::
      channelToJson "value" series.value ++ channelToJson "current" series.current ++
      channelToJson "upper_bound" series.upperBound ++
      channelToJson "lower_bound" series.lowerBound) := by
  refine Json.record?_obj (by decide) ?_
  simp only [List.cons_append, List.map_cons, List.map_append]
  exact ((((names_channelToJson "value" series.value).append
    (names_channelToJson "current" series.current)).append
    (names_channelToJson "upper_bound" series.upperBound)).append
    (names_channelToJson "lower_bound" series.lowerBound)).cons_cons "timestamp"

theorem ofJson?_toJson {series : TimeSeries} (h : series.toJson.Numbers Signed double) :
    ofJson? series.toJson = some series := by
  have hgrid := Json.numbers_arr_iff.1 (Json.numbers_obj_iff.1 h
    ("timestamp", .arr (series.timestamp.map .int)) (by simp))
  have htimestamp : Json.list? Json.integer? (.arr (series.timestamp.map .int)) =
      some series.timestamp :=
    Json.list?_arr_map fun n hn => Json.integer?_int (hgrid (.int n) (List.mem_map_of_mem hn))
  unfold ofJson? ofJsonWith?
  rw [record?_toJson, Option.bind_eq_bind, Option.bind_some,
    Json.Fields.orElse_of_lookup rfl, htimestamp, orElse_channel "value" series.value,
    orElse_channel "current" series.current, orElse_channel "upper_bound" series.upperBound,
    orElse_channel "lower_bound" series.lowerBound]
  · rfl
  all_goals simp [List.lookup_append, List.lookup_cons, lookup_channelToJson]

end TimeSeries

theorem Prediction.ofJson?_toJson {prediction : Prediction}
    (h : prediction.toJson.Numbers Signed double) :
    ofJson? prediction.toJson = some prediction := by
  have hseries : prediction.series.toJson.Numbers Signed double :=
    Json.numbers_obj_iff.1 h ("predictedTimeSeries", prediction.series.toJson) (by simp)
  unfold ofJson? toJson
  rw [Json.record?_obj (by decide) (by exact .refl _), Option.bind_eq_bind, Option.bind_some,
    Json.Fields.required_of_lookup rfl, Json.Fields.required_of_lookup rfl,
    Json.Fields.orElse_of_lookup rfl, TimeSeries.ofJson?_toJson hseries]
  rfl

/-- An evaluation is read again if its anomalies and predictions have signed whole numbers and its
diagnostics are diagnostics as they are read. -/
theorem Evaluation.ofJson?_toJson {evaluation : Evaluation}
    (hanomalies : ∀ anomaly ∈ evaluation.anomalies, anomaly.toJson.Numbers Signed double)
    (hpredictions : ∀ prediction ∈ evaluation.predictions,
      prediction.toJson.Numbers Signed double)
    (hdiagnostics : diagnosticsOfJson? (.obj evaluation.diagnostics) =
      some evaluation.diagnostics) :
    ofJson? evaluation.toJson = some evaluation := by
  unfold ofJson? toJson
  rw [Json.record?_obj (by decide) (by exact .refl _), Option.bind_eq_bind, Option.bind_some,
    Json.Fields.orElse_of_lookup rfl,
    Json.list?_arr_map fun anomaly h => Anomaly.ofJson?_toJson (hanomalies anomaly h),
    Json.Fields.orElse_of_lookup rfl,
    Json.list?_arr_map fun prediction h => Prediction.ofJson?_toJson (hpredictions prediction h),
    Json.Fields.orElse_of_lookup rfl, hdiagnostics]
  rfl

/-- A form is read again if nothing else in it has the name of one of its three fields. -/
theorem ReportForm.ofJson?_toJson {form : ReportForm} (h : form.toJson.Numbers Signed double)
    (hextra : ∀ entry ∈ form.extra.entries, entry.1 ∉ fieldNames) :
    ofJson? form.toJson = some form := by
  have hmember := Json.numbers_obj_iff.1 h
  have hstart : ∀ n ∈ form.startTime, Signed n := fun n hn => by
    have hwritten := hmember ("startTime", .ofInteger? form.startTime) (by simp)
    rw [hn] at hwritten
    exact hwritten
  have hend : ∀ n ∈ form.endTime, Signed n := fun n hn => by
    have hwritten := hmember ("endTime", .ofInteger? form.endTime) (by simp)
    rw [hn] at hwritten
    exact hwritten
  have hothers : ∀ member ∈ form.extra.entries.map fun entry => (entry.1, Json.str entry.2),
      member.1 ∉ fieldNames := fun member hmember => by
    obtain ⟨entry, hentry, rfl⟩ := List.mem_map.1 hmember
    exact hextra entry hentry
  have hread : (Json.obj (form.extra.entries.map fun entry => (entry.1, .str entry.2))).texts? =
      some form.extra := Json.texts?_ofTexts form.extra
  have hwritten : form.toJson = .obj ([("startTime", .ofInteger? form.startTime),
      ("endTime", .ofInteger? form.endTime), ("feedbackType", .ofText? form.feedbackType)] ++
      form.extra.entries.map fun entry => (entry.1, .str entry.2)) := rfl
  rw [hwritten]
  unfold ofJson?
  dsimp only
  rw [Json.record?_append (by decide) (by exact .refl _) hothers, Option.bind_eq_bind,
    Option.bind_some, Json.Fields.optional_of_lookup rfl, Json.nullable_ofInteger? hstart,
    Json.Fields.optional_of_lookup rfl, Json.nullable_ofInteger? hend,
    Json.Fields.optional_of_lookup rfl, Json.nullable_ofText?,
    (Json.filter_names (by exact .refl _) hothers).2, hread]
  rfl

/-! ## What is read has signed whole numbers and finite doubles -/

/-- Signed whole numbers and finite doubles are all the numbers in a payload. -/
def Json.Plain (value : Json) : Prop := value.Numbers Signed fun x => x.isFinite = true

open Json (Gives)

theorem Anomaly.gives_ofJson? : Gives (fun anomaly => anomaly.toJson.Plain) ofJson? := by
  intro value anomaly hvalue h
  simp only [ofJson?, bind, pure, Option.bind_eq_some_iff, Option.some.injEq] at h
  obtain ⟨fields, hrecord, id, hid, urn, -, start, hstart, stop, hstop, current, hcurrent,
    baseline, hbaseline, dimensions, -, properties, -, feedback, -, status, -, rfl⟩ := h
  have hfields := Json.numbers_of_record? hrecord hvalue
  have hproperties : (properties.elim .null AnomalyProperties.toJson).Plain := by
    cases properties with
    | none => trivial
    | some properties => exact ⟨Json.numbers_ofText? _, trivial⟩
  have hfeedback : (feedback.elim .null AnomalyFeedback.toJson).Plain := by
    cases feedback with
    | none => trivial
    | some feedback => exact ⟨Json.numbers_ofText? _, Json.numbers_ofText? _, trivial⟩
  have hids := Json.Fields.property_of_optional Json.gives_integer? hfields hid
  have hstarts := Json.Fields.property_of_required Json.gives_integer? hfields hstart
  have hstops := Json.Fields.property_of_required Json.gives_integer? hfields hstop
  have hcurrents := Json.Fields.property_of_optional Json.gives_number? hfields hcurrent
  have hbaselines := Json.Fields.property_of_optional Json.gives_number? hfields hbaseline
  exact ⟨Json.numbers_ofInteger? hids, trivial, hstarts, hstops, Json.numbers_ofNumber? hcurrents,
    Json.numbers_ofNumber? hbaselines, Json.numbers_ofTexts _, hproperties, hfeedback,
    Json.numbers_ofText? _, trivial⟩

namespace TimeSeries

/-- Every sample of a channel that is there is finite. -/
def FiniteSamples (channel : Channel) : Prop := ∀ sample ∈ channel, ∀ x ∈ sample, x.isFinite = true

theorem gives_channelOfJson? : Gives FiniteSamples channelOfJson? :=
  Json.gives_list? (Json.gives_nullable Json.gives_number?)

/-- What holds of the list of samples holds of all that a channel is written as. -/
theorem forall_channelToJson (property : Json → Prop) (name : String) {channel : Channel}
    (h : property (.arr (channel.map Json.ofNumber?))) :
    ∀ member ∈ channelToJson name channel, property member.2 := by
  unfold channelToJson
  split
  · exact List.forall_mem_nil _
  · exact List.forall_mem_cons.2 ⟨h, List.forall_mem_nil _⟩

theorem plain_channelToJson {name : String} {channel : Channel} (h : FiniteSamples channel) :
    ∀ member ∈ channelToJson name channel, member.2.Plain :=
  forall_channelToJson Json.Plain name <| Json.numbers_arr_iff.2 <| List.forall_mem_map.2
    fun sample hsample => Json.numbers_ofNumber? (h sample hsample)

theorem gives_ofJson? : Gives (fun series => series.toJson.Plain) ofJson? := by
  intro value series hvalue h
  simp only [ofJson?, ofJsonWith?, bind, pure, Option.bind_eq_some_iff, Option.some.injEq] at h
  obtain ⟨fields, hrecord, timestamp, htimestamp, samples, hsamples, current, hcurrent, upper,
    hupper, lower, hlower, rfl⟩ := h
  have hfields := Json.numbers_of_record? hrecord hvalue
  have hchannel {name : String} {channel : Channel}
      (h : fields.orElse name [] channelOfJson? = some channel) :
      ∀ member ∈ channelToJson name channel, member.2.Plain :=
    plain_channelToJson (Json.Fields.property_of_orElse gives_channelOfJson? hfields
      (List.forall_mem_nil _) h)
  have hgrid : ∀ n ∈ timestamp, Signed n := Json.Fields.property_of_orElse
    (Json.gives_list? Json.gives_integer?) hfields (List.forall_mem_nil _) htimestamp
  have hitems : (Json.arr (timestamp.map .int)).Plain :=
    Json.numbers_arr_iff.2 (List.forall_mem_map.2 hgrid)
  refine Json.numbers_obj_iff.2 ?_
  simp only [List.forall_mem_append, List.forall_mem_cons, List.cons_append]
  exact ⟨hitems, ⟨⟨hchannel hsamples, hchannel hcurrent⟩, hchannel hupper⟩, hchannel hlower⟩

end TimeSeries

theorem Prediction.gives_ofJson? : Gives (fun prediction => prediction.toJson.Plain) ofJson? := by
  intro value prediction hvalue h
  simp only [ofJson?, bind, pure, Option.bind_eq_some_iff, Option.some.injEq] at h
  obtain ⟨fields, hrecord, name, -, urn, -, series, hseries, rfl⟩ := h
  have hfields := Json.numbers_of_record? hrecord hvalue
  have hempty : (TimeSeries.toJson {}).Plain := ⟨trivial, trivial⟩
  have hplain := Json.Fields.property_of_orElse TimeSeries.gives_ofJson? hfields hempty hseries
  exact ⟨trivial, trivial, hplain, trivial⟩

/-- An evaluation that is read has plain anomalies and predictions, and diagnostics that are read
again and kept. -/
theorem Evaluation.gives_ofJson? : Gives (fun evaluation =>
    (∀ anomaly ∈ evaluation.anomalies, anomaly.toJson.Plain) ∧
      (∀ prediction ∈ evaluation.predictions, prediction.toJson.Plain) ∧
      diagnosticsOfJson? (.obj evaluation.diagnostics) = some evaluation.diagnostics ∧
      (Json.obj evaluation.diagnostics).Kept (Json.maxDepth - 1)) ofJson? := by
  intro value evaluation hvalue h
  simp only [ofJson?, bind, pure, Option.bind_eq_some_iff, Option.some.injEq] at h
  obtain ⟨fields, hrecord, anomalies, hanomalies, predictions, hpredictions, diagnostics,
    hdiagnostics, rfl⟩ := h
  have hfields := Json.numbers_of_record? hrecord hvalue
  have hgives : Gives (fun diagnostics => diagnosticsOfJson? (.obj diagnostics) =
      some diagnostics ∧ (Json.obj diagnostics).Kept (Json.maxDepth - 1)) diagnosticsOfJson? :=
    fun value diagnostics hsound hread => diagnosticsOfJson?_idem hsound hread
  have hempty : diagnosticsOfJson? (.obj []) = some [] ∧ (Json.obj []).Kept (Json.maxDepth - 1) :=
    ⟨rfl, by decide, rfl, trivial⟩
  have hkept := Json.Fields.property_of_orElse hgives hfields hempty hdiagnostics
  exact ⟨Json.Fields.property_of_orElse (Json.gives_list? Anomaly.gives_ofJson?) hfields
      (List.forall_mem_nil _) hanomalies,
    Json.Fields.property_of_orElse (Json.gives_list? Prediction.gives_ofJson?) hfields
      (List.forall_mem_nil _) hpredictions,
    hkept⟩

/-- A form that is read has signed whole numbers, and nothing else in it has the name of one of its
three fields. -/
theorem ReportForm.gives_ofJson? : Gives (fun form => form.toJson.Plain ∧
    ∀ entry ∈ form.extra.entries, entry.1 ∉ fieldNames) ofJson? := by
  intro value form hvalue h
  unfold ofJson? at h
  split at h
  · next members =>
    simp only [bind, pure, Option.bind_eq_some_iff, Option.some.injEq] at h
    obtain ⟨fields, hrecord, start, hstart, stop, hstop, verdict, -, extra, hextra, rfl⟩ := h
    have hfields := Json.numbers_of_record? hrecord hvalue
    have hstarts := Json.Fields.property_of_optional Json.gives_integer? hfields hstart
    have hstops := Json.Fields.property_of_optional Json.gives_integer? hfields hstop
    refine ⟨Json.numbers_obj_iff.2 (List.forall_mem_append.2 ⟨?_, ?_⟩), fun entry hentry => ?_⟩
    · simp only [List.forall_mem_cons]
      exact ⟨Json.numbers_ofInteger? hstarts, Json.numbers_ofInteger? hstops,
        Json.numbers_ofText? _, List.forall_mem_nil _⟩
    · exact Json.numbers_obj_iff.1 (Json.numbers_ofTexts extra)
    · obtain ⟨member, hmember, hkey⟩ := Json.exists_of_mem_texts? hextra hentry
      have hunknown : (!fieldNames.contains member.1) = true := (List.mem_filter.1 hmember).2
      rw [← hkey]
      simpa using hunknown
  · cases h

/-! ## Gaps for doubles that are not finite -/

/-- The anomaly without means that are not finite. -/
def Anomaly.finite (anomaly : Anomaly) : Anomaly :=
  { anomaly with
    avgCurrentVal := anomaly.avgCurrentVal.filter Float.isFinite
    avgBaselineVal := anomaly.avgBaselineVal.filter Float.isFinite }

/-- The time series with gaps for samples that are not finite. -/
def TimeSeries.finite (series : TimeSeries) : TimeSeries :=
  { series with
    value := series.value.finite
    current := series.current.finite
    upperBound := series.upperBound.finite
    lowerBound := series.lowerBound.finite }

/-- The prediction with such gaps. -/
def Prediction.finite (prediction : Prediction) : Prediction :=
  { prediction with series := prediction.series.finite }

theorem Anomaly.toJson_finite (anomaly : Anomaly) :
    anomaly.finite.toJson = anomaly.toJson.blanked := by
  have hproperties : (anomaly.properties.elim .null AnomalyProperties.toJson).blanked =
      anomaly.properties.elim .null AnomalyProperties.toJson := by
    cases anomaly.properties with
    | none => rfl
    | some properties =>
      simp [AnomalyProperties.toJson, Json.blanked, Json.blankedMembers, Json.blanked_ofText?]
  have hfeedback : (anomaly.feedback.elim .null AnomalyFeedback.toJson).blanked =
      anomaly.feedback.elim .null AnomalyFeedback.toJson := by
    cases anomaly.feedback with
    | none => rfl
    | some feedback =>
      simp [AnomalyFeedback.toJson, Json.blanked, Json.blankedMembers, Json.blanked_ofText?]
  simp [finite, toJson, Json.blanked, Json.blankedMembers, Json.blanked_ofInteger?,
    Json.blanked_ofNumber?, Json.blanked_ofText?, Json.blanked_ofTexts, hproperties, hfeedback]

theorem TimeSeries.channelToJson_finite (name : String) (channel : Channel) :
    channelToJson name channel.finite =
      (channelToJson name channel).map fun member => (member.1, member.2.blanked) := by
  cases channel with
  | nil => rfl
  | cons x rest =>
    simp [channelToJson, Channel.finite, Json.blanked, Json.blankedItems_eq_map,
      Json.blanked_ofNumber?]

theorem TimeSeries.toJson_finite (series : TimeSeries) :
    series.finite.toJson = series.toJson.blanked := by
  have hgrid : (Json.arr (series.timestamp.map .int)).blanked =
      .arr (series.timestamp.map .int) := by
    rw [Json.blanked, Json.blankedItems_eq_map, List.map_map]
    rfl
  simp [finite, toJson, Json.blanked.eq_3, Json.blankedMembers_eq_map, channelToJson_finite, hgrid]

theorem Prediction.toJson_finite (prediction : Prediction) :
    prediction.finite.toJson = prediction.toJson.blanked := by
  simp [finite, toJson, Json.blanked, Json.blankedMembers, TimeSeries.toJson_finite]

/-! ## What is written has a value in all of its parts -/

theorem Anomaly.readable_toJson (anomaly : Anomaly) : anomaly.toJson.readable = true := by
  have hproperties :
      (anomaly.properties.elim .null AnomalyProperties.toJson).readable = true := by
    cases anomaly.properties with
    | none => rfl
    | some properties => simp [AnomalyProperties.toJson, Json.readable_obj_iff]
  have hfeedback : (anomaly.feedback.elim .null AnomalyFeedback.toJson).readable = true := by
    cases anomaly.feedback with
    | none => rfl
    | some feedback => simp [AnomalyFeedback.toJson, Json.readable_obj_iff]
  refine Json.readable_obj_iff.2 ?_
  simp [hproperties, hfeedback, Json.readable]

theorem TimeSeries.readable_toJson (series : TimeSeries) : series.toJson.readable = true := by
  have hgrid : (Json.arr (series.timestamp.map .int)).readable = true :=
    Json.readable_arr_iff.2 (List.forall_mem_map.2 fun _ _ => rfl)
  have hchannel (name : String) (channel : Channel) :
      ∀ member ∈ channelToJson name channel, member.2.readable = true := by
    refine forall_channelToJson (fun value => value.readable = true) name ?_
    exact Json.readable_arr_iff.2 (List.forall_mem_map.2 fun x _ => Json.readable_ofNumber? x)
  refine Json.readable_obj_iff.2 ?_
  simp only [List.forall_mem_append, List.forall_mem_cons, List.cons_append]
  exact ⟨hgrid, ⟨⟨hchannel _ _, hchannel _ _⟩, hchannel _ _⟩, hchannel _ _⟩

theorem Prediction.readable_toJson (prediction : Prediction) :
    prediction.toJson.readable = true := by
  refine Json.readable_obj_iff.2 ?_
  simp [TimeSeries.readable_toJson, Json.readable]

theorem Evaluation.readable_toJson {evaluation : Evaluation}
    (h : (Json.obj evaluation.diagnostics).readable = true) :
    evaluation.toJson.readable = true := by
  refine Json.readable_obj_iff.2 ?_
  simp [h, Json.readable_arr_iff, Anomaly.readable_toJson, Prediction.readable_toJson]

theorem ReportForm.readable_toJson (form : ReportForm) : form.toJson.readable = true := by
  refine Json.readable_obj_iff.2 (List.forall_mem_append.2 ⟨?_, ?_⟩)
  · simp
  · exact Json.readable_obj_iff.1 (Json.readable_ofTexts form.extra)

/-! ## Texts -/

namespace Json

/-- Every finite double in the value is read from the text that is written for it. -/
def Exact (value : Json) : Prop :=
  value.Numbers (fun _ => True) fun x => x.isFinite = true → Rereads x

instance (value : Json) : Decidable value.Exact :=
  inferInstanceAs (Decidable (value.Numbers (fun _ => True) fun x => x.isFinite = true → Rereads x))

theorem Plain.sound {value : Json} (h : value.Plain) : value.Sound :=
  h.mono (fun _ hsigned => ⟨hsigned.1, hsigned.2.trans (by decide)⟩) fun _ hfinite => hfinite

section Texts

variable {α : Type} {ofJson? : Json → Option α} {value : Json}

/-- Read a payload from a text. -/
def decode? (ofJson? : Json → Option α) (text : String) : Option α := (parse? text).bind ofJson?

/-- The text of a sound value is read as the value. -/
theorem decode?_render (hsound : value.Sound) (hexact : value.Exact)
    (hreadable : value.readable = true) : decode? ofJson? value.render = ofJson? value := by
  have hnumbers : value.Numbers Whole Rereads := Numbers.combine (fun _ hwhole _ => hwhole)
    (fun _ hfinite hreads => hreads hfinite) hsound hexact
  rw [decode?, parse?_render hnumbers hreadable, Option.bind_some]

/-- What is read from a text has what the reader gives. -/
theorem property_of_decode? {property : α → Prop} (h : Gives property ofJson?) {text : String}
    {payload : α} (hread : decode? ofJson? text = some payload) : property payload := by
  obtain ⟨value, hvalue, hpayload⟩ := Option.bind_eq_some_iff.1 hread
  exact h value payload (sound_of_parse? hvalue) hpayload

/-- The text of a value is read as the value with `null` for doubles that are not finite. -/
theorem decode?_render_of_blanked {payload : α} {written : Json}
    (hwritten : written = value.blanked) (hsigned : value.Numbers Signed fun _ => True)
    (hexact : value.Exact) (hreadable : written.readable = true)
    (h : written.Plain → ofJson? written = some payload) :
    decode? ofJson? value.render = some payload := by
  subst hwritten
  have hplain : value.blanked.Plain :=
    numbers_blanked (hsigned.mono (fun _ hn => hn) fun _ _ hfinite => hfinite)
  have hagain : value.blanked.Exact :=
    numbers_blanked (hexact.mono (fun _ _ => trivial) fun _ hx _ => hx)
  rw [← render_blanked, decode?_render hplain.sound hagain hreadable, h hplain]

end Texts

end Json

open Json (decode?)

/-- Whether every payload that is read from a text, once written, is read again, provided that its
doubles are. -/
def ReadsAgain {α : Type} (toJson : α → Json) (ofJson? : Json → Option α) : Prop :=
  ∀ text payload, decode? ofJson? text = some payload → (toJson payload).Exact →
    decode? ofJson? (toJson payload).render = some payload

/-- Whether every payload, its whole numbers being signed ones of 64 bits, is read with gaps once
written, provided that its finite doubles are read again. -/
def ReadsFinite {α : Type} (toJson : α → Json) (ofJson? : Json → Option α) (finite : α → α) :
    Prop :=
  ∀ payload, (toJson payload).Numbers Signed (fun _ => True) → (toJson payload).Exact →
    decode? ofJson? (toJson payload).render = some (finite payload)

/-- Payloads are read again if they are read with a property for which what is written is sound,
has a value in all of its parts, and gives the payload. -/
theorem ReadsAgain.of_gives {α : Type} {toJson : α → Json} {ofJson? : Json → Option α}
    {property : α → Prop} (hgives : Gives property ofJson?)
    (hsound : ∀ {payload}, property payload → (toJson payload).Sound)
    (hreadable : ∀ {payload}, property payload → (toJson payload).readable = true)
    (hagain : ∀ {payload}, property payload → ofJson? (toJson payload) = some payload) :
    ReadsAgain toJson ofJson? := by
  intro text payload hread hexact
  have hpayload := Json.property_of_decode? hgives hread
  rw [Json.decode?_render (hsound hpayload) hexact (hreadable hpayload), hagain hpayload]

theorem Anomaly.readsAgain : ReadsAgain toJson ofJson? :=
  .of_gives gives_ofJson? Json.Plain.sound (fun _ => readable_toJson _) ofJson?_toJson

theorem TimeSeries.readsAgain : ReadsAgain toJson ofJson? :=
  .of_gives gives_ofJson? Json.Plain.sound (fun _ => readable_toJson _) ofJson?_toJson

theorem Prediction.readsAgain : ReadsAgain toJson ofJson? :=
  .of_gives gives_ofJson? Json.Plain.sound (fun _ => readable_toJson _) ofJson?_toJson

theorem Evaluation.readsAgain : ReadsAgain toJson ofJson? := by
  refine .of_gives gives_ofJson? ?_ (fun h => readable_toJson h.2.2.2.readable)
    fun h => ofJson?_toJson h.1 h.2.1 h.2.2.1
  rintro evaluation ⟨hanomalies, hpredictions, -, hkept⟩
  refine Json.numbers_obj_iff.2 ?_
  simp only [List.forall_mem_cons]
  refine ⟨Json.numbers_arr_iff.2 ?_, Json.numbers_arr_iff.2 ?_, hkept.sound, List.forall_mem_nil _⟩
  · exact List.forall_mem_map.2 fun anomaly h => (hanomalies anomaly h).sound
  · exact List.forall_mem_map.2 fun prediction h => (hpredictions prediction h).sound

theorem ReportForm.readsAgain : ReadsAgain toJson ofJson? :=
  .of_gives gives_ofJson? (fun h => h.1.sound) (fun _ => readable_toJson _)
    fun h => ofJson?_toJson h.1 h.2

theorem Anomaly.readsFinite : ReadsFinite toJson ofJson? finite := fun anomaly hsigned hexact =>
  Json.decode?_render_of_blanked anomaly.toJson_finite hsigned hexact
    anomaly.finite.readable_toJson ofJson?_toJson

theorem TimeSeries.readsFinite : ReadsFinite toJson ofJson? finite := fun series hsigned hexact =>
  Json.decode?_render_of_blanked series.toJson_finite hsigned hexact
    series.finite.readable_toJson ofJson?_toJson

theorem Prediction.readsFinite : ReadsFinite toJson ofJson? finite :=
  fun prediction hsigned hexact =>
    Json.decode?_render_of_blanked prediction.toJson_finite hsigned hexact
      prediction.finite.readable_toJson ofJson?_toJson

/-- Payloads that were read from a text are written so that they are read again. Any anomaly, time
series and prediction is written so that it is read with gaps for the doubles that are not finite.
Both rest on the finite doubles being read from the texts that are written for them. -/
theorem payloads_read_again :
    ReadsAgain Anomaly.toJson Anomaly.ofJson? ∧
      ReadsAgain TimeSeries.toJson TimeSeries.ofJson? ∧
      ReadsAgain Prediction.toJson Prediction.ofJson? ∧
      ReadsAgain Evaluation.toJson Evaluation.ofJson? ∧
      ReadsAgain ReportForm.toJson ReportForm.ofJson? ∧
      ReadsFinite Anomaly.toJson Anomaly.ofJson? Anomaly.finite ∧
      ReadsFinite TimeSeries.toJson TimeSeries.ofJson? TimeSeries.finite ∧
      ReadsFinite Prediction.toJson Prediction.ofJson? Prediction.finite :=
  ⟨Anomaly.readsAgain, TimeSeries.readsAgain, Prediction.readsAgain, Evaluation.readsAgain,
    ReportForm.readsAgain, Anomaly.readsFinite, TimeSeries.readsFinite, Prediction.readsFinite⟩

/-- It holds of an evaluation whose diagnostics repeat a key, of a form with an entry of its own,
and of a time series with a sample that is no number. -/
theorem payloads_read_again_answer :
    (∃ evaluation, decode? Evaluation.ofJson?
          ("\x7b\"diagnostics\": \x7b\"b\": [0.1], \"a\": -7, \"b\": null\x7d, \"anomalies\": " ++
            "[\x7b\"endTime\": 2, \"startTime\": 1, \"metricUrn\": \"m\", " ++
            "\"avgCurrentVal\": 12.5\x7d]\x7d") = some evaluation ∧
        decode? Evaluation.ofJson? evaluation.toJson.render = some evaluation) ∧
      (∃ form, decode? ReportForm.ofJson? "\x7b\"note\": \"n\", \"startTime\": 1\x7d" = some form ∧
        decode? ReportForm.ofJson? form.toJson.render = some form) ∧
      decode? TimeSeries.ofJson?
          (TimeSeries.toJson { timestamp := [1, 2], value := [some (0 / 0), some 12.5] }).render =
        some { timestamp := [1, 2], value := [none, some 12.5] } := by
  have hread {α : Type} {toJson : α → Json} {ofJson? : Json → Option α}
      (h : ReadsAgain toJson ofJson?) (text : String)
      (hexact : ∃ payload ∈ decode? ofJson? text, (toJson payload).Exact) :
      ∃ payload, decode? ofJson? text = some payload ∧
        decode? ofJson? (toJson payload).render = some payload := by
    obtain ⟨payload, hpayload, hexact⟩ := hexact
    exact ⟨payload, hpayload, h text payload hpayload hexact⟩
  refine ⟨hread payloads_read_again.2.2.2.1 _ (by decide +kernel),
    hread payloads_read_again.2.2.2.2.1 _ (by decide +kernel), ?_⟩
  have hgap : TimeSeries.finite { timestamp := [1, 2], value := [some (0 / 0), some 12.5] } =
      { timestamp := [1, 2], value := [none, some 12.5] } := by decide +kernel
  rw [← hgap]
  exact payloads_read_again.2.2.2.2.2.2.1 _ (by decide +kernel) (by decide +kernel)

end AlertDetail

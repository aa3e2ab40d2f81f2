import AlertDetail.Http.Exchange
import AlertDetail.Proofs.Payload.RoundTrip
import AlertDetail.Proofs.Reports.Submission

/-!
# Parameters of reports

A report is sent as named texts: the slice, the start, the end, the verdict, and whatever else was
filled in. Nothing else in a form that is read from a text has the name of the start, the end or the
verdict, so each of these is sent once, as it was checked. The name of the slice is not kept out of
the rest of a form: if something was filled in under it, the report names a second slice.
-/

namespace AlertDetail

variable {entries : List (String × String)} {name : String}

namespace TextMap

/-- No key stands twice. -/
theorem nodup_keys (map : TextMap) : map.keys.Nodup := by
  refine List.pairwise_map.2 (map.ascending.imp fun hlt heq => ?_)
  rw [heq] at hlt
  exact String.lt_irrefl _ hlt

theorem get?_eq_none {map : TextMap} : map.get? name = none ↔ name ∉ map.keys := by
  rw [get?, List.lookup_eq_none_iff, keys, List.mem_map, not_exists]
  refine forall_congr' fun entry => ?_
  rw [not_and, bne_iff_ne]
  exact forall_congr' fun _ => ne_comm

end TextMap

namespace Http

/-- The texts under a name, in their order. -/
def valuesOf (name : String) (pairs : List (String × String)) : List String :=
  (pairs.filter (·.1 = name)).map (·.2)

theorem valuesOf_append (pairs pairs' : List (String × String)) :
    valuesOf name (pairs ++ pairs') = valuesOf name pairs ++ valuesOf name pairs' := by
  rw [valuesOf, List.filter_append, List.map_append, valuesOf, valuesOf]

theorem valuesOf_of_notMem (h : name ∉ entries.map (·.1)) : valuesOf name entries = [] := by
  rw [valuesOf, List.map_eq_nil_iff, List.filter_eq_nil_iff]
  intro entry hentry hname
  exact h (of_decide_eq_true hname ▸ List.mem_map_of_mem hentry)

theorem valuesOf_cons (key text : String) (rest : List (String × String)) :
    valuesOf name ((key, text) :: rest) =
      if key = name then text :: valuesOf name rest else valuesOf name rest := by
  rw [valuesOf, List.filter_cons]
  by_cases h : key = name
  · simp only [h, decide_true, if_true]
    rfl
  · simp only [h, decide_false, if_false]
    rfl

/-- Under a key that stands once there is what is looked up. -/
theorem valuesOf_entries (map : TextMap) (name : String) :
    valuesOf name map.entries = (map.get? name).toList := by
  have hkeys : (map.entries.map (·.1)).Nodup := map.nodup_keys
  rw [TextMap.get?]
  generalize map.entries = entries at hkeys
  induction entries with
  | nil => rfl
  | cons entry rest ih =>
    obtain ⟨key, text⟩ := entry
    obtain ⟨hkey, hrest⟩ := List.nodup_cons.1 hkeys
    rw [valuesOf_cons]
    by_cases hname : key = name
    · subst hname
      rw [if_pos rfl, valuesOf_of_notMem hkey, List.lookup_cons_self]
      rfl
    · rw [if_neg hname, ih hrest, List.lookup_cons, beq_false_of_ne (Ne.symm hname)]

/-- What stands under a name in the pairs of a report: the parameter of that name, and what was
filled in under it. -/
theorem valuesOf_report (alertId : Int) (urn : String) (report : Report) (name : String) :
    valuesOf name (pairs (.report alertId urn report)) =
      valuesOf name [("metricUrn", urn), ("startTime", toString report.startTime),
        ("endTime", toString report.endTime), ("feedbackType", report.feedbackType)] ++
      (report.extra.get? name).toList := by
  rw [← valuesOf_entries, ← valuesOf_append]
  rfl

end Http

namespace ReportForm

variable {form : ReportForm} {report : Report} {text : String}

/-- A form that passes its check gives everything that is required, and the rest stays. -/
theorem of_check (h : form.check = .ok report) :
    (form.startTime = some report.startTime ∧ report.startTime ≠ 0) ∧
      (form.endTime = some report.endTime ∧ report.endTime ≠ 0) ∧
      (form.feedbackType.map Text.trim = some report.feedbackType ∧ report.feedbackType ≠ "") ∧
      report.extra = form.extra := by
  unfold check at h
  split at h
  · next start stop typed hstart hstop htyped =>
    obtain rfl := Except.ok.inj h
    rw [given, Option.filter_eq_some_iff] at hstart hstop
    rw [verdict, Option.filter_eq_some_iff] at htyped
    exact ⟨⟨hstart.1, of_decide_eq_true hstart.2⟩, ⟨hstop.1, of_decide_eq_true hstop.2⟩,
      ⟨htyped.1, of_decide_eq_true htyped.2⟩, rfl⟩
  · cases h

/-- Nothing else in a form that is read from a text has the name of one of its fields. -/
theorem notMem_keys_extra (h : Json.decode? ofJson? text = some form) (hname : name ∈ fieldNames) :
    name ∉ form.extra.keys := by
  intro hkey
  obtain ⟨entry, hentry, rfl⟩ := List.mem_map.1 hkey
  exact (Json.property_of_decode? gives_ofJson? h).2 entry hentry hname

/-- Of a form that is read from a text and passes its check, the start, the end and the verdict are
sent once each, as they were checked, and anything else at most once; the slice is sent first of all
under its name. No name is sent twice unless something was filled in under the name of the slice,
which is then sent as a second slice. -/
theorem parameters_of_check (hread : Json.decode? ofJson? text = some form)
    (hcheck : form.check = .ok report) (alertId : Int) (urn : String) :
    let sent := Http.pairs (.report alertId urn report)
    (form.startTime = some report.startTime ∧ report.startTime ≠ 0 ∧
        Http.valuesOf "startTime" sent = [toString report.startTime]) ∧
      (form.endTime = some report.endTime ∧ report.endTime ≠ 0 ∧
        Http.valuesOf "endTime" sent = [toString report.endTime]) ∧
      (form.feedbackType.map Text.trim = some report.feedbackType ∧ report.feedbackType ≠ "" ∧
        Http.valuesOf "feedbackType" sent = [report.feedbackType]) ∧
      Http.valuesOf "metricUrn" sent = urn :: (form.extra.get? "metricUrn").toList ∧
      (∀ name ∉ "metricUrn" :: fieldNames,
        Http.valuesOf name sent = (form.extra.get? name).toList) ∧
      ((sent.map (·.1)).Nodup ↔ "metricUrn" ∉ form.extra.keys) := by
  intro sent
  obtain ⟨hstart, hstop, htyped, hextra⟩ := of_check hcheck
  have hvalues (name : String) : Http.valuesOf name sent = _ :=
    Http.valuesOf_report alertId urn report name
  have hfield {name : String} (hname : name ∈ fieldNames) : report.extra.get? name = none := by
    rw [hextra]
    exact TextMap.get?_eq_none.2 (notMem_keys_extra hread hname)
  refine ⟨⟨hstart.1, hstart.2, ?_⟩, ⟨hstop.1, hstop.2, ?_⟩, ⟨htyped.1, htyped.2, ?_⟩, ?_,
    fun name hname => ?_, ?_⟩
  · rw [hvalues, hfield (by decide)]
    rfl
  · rw [hvalues, hfield (by decide)]
    rfl
  · rw [hvalues, hfield (by decide)]
    rfl
  · rw [hvalues, hextra]
    rfl
  · have hother : Http.valuesOf name [("metricUrn", urn), ("startTime", toString report.startTime),
        ("endTime", toString report.endTime), ("feedbackType", report.feedbackType)] = [] :=
      Http.valuesOf_of_notMem hname
    rw [hvalues, hextra, hother, List.nil_append]
  · have hnames : sent.map (·.1) = ("metricUrn" :: fieldNames) ++ form.extra.keys := by
      rw [← hextra]
      rfl
    have hfixed : ("metricUrn" :: fieldNames).Nodup := by decide
    rw [hnames, List.nodup_append]
    constructor
    · rintro ⟨-, -, hapart⟩ hkey
      exact hapart _ List.mem_cons_self _ hkey rfl
    · intro hkey
      refine ⟨hfixed, form.extra.nodup_keys, fun name hname other hother heq => ?_⟩
      subst heq
      rcases List.mem_cons.1 hname with rfl | hname
      · exact hkey hother
      · exact notMem_keys_extra hread hname hother

/-- A form with a comment is sent with every name once. -/
theorem parameters_of_check_comment :
    let form : ReportForm := ⟨some 1, some 2, some " A ", .ofList [("comment", "c")]⟩
    let report : Report := ⟨1, 2, "A", form.extra⟩
    let sent := Http.pairs (.report 7 "m:n:7" report)
    Json.decode? ofJson? ("\x7b\"startTime\": 1, \"comment\": \"c\", " ++
        "\"endTime\": 2, \"feedbackType\": \" A \"\x7d") = some form ∧
      form.check = .ok report ∧
      Http.valuesOf "feedbackType" sent = ["A"] ∧ Http.valuesOf "metricUrn" sent = ["m:n:7"] ∧
      Http.valuesOf "comment" sent = ["c"] ∧ (sent.map (·.1)).Nodup := by
  intro form report sent
  have hread : Json.decode? ofJson? ("\x7b\"startTime\": 1, \"comment\": \"c\", " ++
      "\"endTime\": 2, \"feedbackType\": \" A \"\x7d") = some form := by decide +kernel
  have hcheck : form.check = .ok report := by decide +kernel
  obtain ⟨-, -, ⟨-, -, htyped⟩, hslice, hother, hdistinct⟩ :=
    parameters_of_check hread hcheck 7 "m:n:7"
  have hcomment := hother "comment" (by decide)
  have hapart : "metricUrn" ∉ form.extra.keys := by decide +kernel
  have hnone : form.extra.get? "metricUrn" = none := TextMap.get?_eq_none.2 hapart
  have hgiven : form.extra.get? "comment" = some "c" := by decide +kernel
  rw [hnone] at hslice
  rw [hgiven] at hcomment
  exact ⟨hread, hcheck, htyped, hslice, hcomment, hdistinct.2 hapart⟩

/-- A form with a field of the name of the slice is sent with two slices. -/
theorem parameters_of_check_second_slice :
    let form : ReportForm := ⟨some 1, some 2, some "A", .ofList [("metricUrn", "other")]⟩
    let report : Report := ⟨1, 2, "A", form.extra⟩
    let sent := Http.pairs (.report 7 "m:n:7" report)
    Json.decode? ofJson? ("\x7b\"startTime\": 1, \"endTime\": 2, " ++
        "\"feedbackType\": \"A\", \"metricUrn\": \"other\"\x7d") = some form ∧
      form.check = .ok report ∧ Http.valuesOf "metricUrn" sent = ["m:n:7", "other"] ∧
      ¬ (sent.map (·.1)).Nodup := by
  decide +kernel

end ReportForm

end AlertDetail

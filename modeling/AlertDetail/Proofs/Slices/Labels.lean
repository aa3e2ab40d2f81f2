import AlertDetail.Proofs.Run.Refused
import AlertDetail.Proofs.Slices.Consistency
import AlertDetail.Proofs.Text.Percent
import Mathlib.Data.List.Nodup

/-!
# Labels of slices

A slice is shown by its filters as they were before they were encoded into its name, and found again
by what it is shown by. Names are decoded before they are cut at their colons, so a filter may hold
anything but a colon and blanks at its ends; percent signs, characters of any script and blanks
inside are all told. A text that slices are offered under stands for the first slice that is shown
by it, also where a slice has no filters and where a filter reads like the label of the whole.
-/

namespace AlertDetail

/-- A text is left as it is if it begins and ends with no blank. -/
theorem Text.trimChars_eq_self {text : List Char} (hfirst : ∀ c ∈ text.head?, isBlank c = false)
    (hlast : ∀ c ∈ text.getLast?, isBlank c = false) : trimChars text = text := by
  have hkept {text : List Char} (h : ∀ c ∈ text.head?, isBlank c = false) :
      text.dropWhile isBlank = text := by
    cases text with
    | nil => rfl
    | cons c rest => exact List.dropWhile_cons_of_neg (by simp [h c rfl])
  rw [trimChars, hkept hfirst, trimEnd, hkept (by rwa [List.head?_reverse]), List.reverse_reverse]

namespace Slice

/-! ## Filters are shown as they were -/

/-- Whether a text can be a filter: it is not empty, holds no colon, and has no blank at either
end. -/
structure IsFilter (filter : String) : Prop where
  /-- It is not empty. -/
  nonempty : filter ≠ ""
  /-- It holds no colon. -/
  single : ':' ∉ filter.toList
  /-- It begins with no blank. -/
  first : ∀ c ∈ filter.toList.head?, Text.isBlank c = false
  /-- It ends with no blank. -/
  last : ∀ c ∈ filter.toList.getLast?, Text.isBlank c = false

/-- Whether a text can be one of the segments that name the metric. -/
structure IsSegment (segment : String) : Prop where
  /-- It holds no colon. -/
  single : ':' ∉ segment.toList
  /-- It holds no percent sign. -/
  plain : '%' ∉ segment.toList

/-- A slice is named by the segments of its metric, followed by its filters as they are spelled with
the reserved bytes written out. -/
structure Named (reserved : UInt8 → Prop) (head filters spelled : List String) : Prop where
  /-- Three segments name the metric. -/
  length : head.length = headSegments
  /-- They are segments. -/
  isSegment : ∀ segment ∈ head, IsSegment segment
  /-- The others are filters. -/
  isFilter : ∀ filter ∈ filters, IsFilter filter
  /-- They are spelled. -/
  isSpelled : List.Forall₂ (fun filter text =>
    Text.Percent.Spelled reserved (Text.Utf8.encode filter.toList) text.toList) filters spelled

variable {reserved : UInt8 → Prop} {head filters spelled : List String}

/-- The name of a slice is decoded to its segments and filters, with colons between them. -/
theorem Named.decoded (hreserved : Text.Percent.Suffices reserved)
    (h : Named reserved head filters spelled) :
    decoded (Text.joined ":" (head ++ spelled)) =
      [':'].intercalate ((head ++ filters).map String.toList) := by
  have hsegments : List.Forall₂ (fun segment text : String =>
      Text.Percent.Writes text.toList (Text.Utf8.encode segment.toList)) head head :=
    List.forall₂_same.2 fun segment hsegment =>
      Text.Percent.writes_encode (h.isSegment segment hsegment).plain
  have hfilters : List.Forall₂ (fun filter text : String =>
      Text.Percent.Writes text.toList (Text.Utf8.encode filter.toList)) filters spelled :=
    h.isSpelled.imp fun _ _ hspelled => hspelled.writes hreserved
  have hall := List.rel_append hsegments hfilters
  have hcolon : ':' ≠ '%' := by decide
  have hwrites := Text.Percent.writes_intercalate hcolon
    (List.forall₂_map_left_iff.2 (List.forall₂_map_right_iff.2 hall))
  have htext : (Text.joined ":" (head ++ spelled)).toList =
      [':'].intercalate ((head ++ spelled).map String.toList) := String.toList_intercalate
  rw [Slice.decoded, htext, hwrites.decode?, Option.getD_some]

/-- Its filters are those that were spelled. -/
theorem Named.filters_eq (hreserved : Text.Percent.Suffices reserved)
    (h : Named reserved head filters spelled) :
    Slice.filters (Text.joined ":" (head ++ spelled)) = filters.map String.toList := by
  have hsome : (head ++ filters).map String.toList ≠ [] := by
    intro hnone
    obtain ⟨hhead, -⟩ := List.append_eq_nil_iff.1 (List.map_eq_nil_iff.1 hnone)
    have hlength := h.length
    rw [hhead] at hlength
    cases hlength
  have hsingle : ∀ text ∈ (head ++ filters).map String.toList, ':' ∉ text :=
    List.forall_mem_map.2 <| List.forall_mem_append.2
      ⟨fun segment hmem => (h.isSegment segment hmem).single,
        fun filter hmem => (h.isFilter filter hmem).single⟩
  have htrim : ∀ text ∈ filters.map String.toList, Text.trimChars text = text :=
    List.forall_mem_map.2 fun filter hmem =>
      Text.trimChars_eq_self (h.isFilter filter hmem).first (h.isFilter filter hmem).last
  have hfull : ∀ text ∈ filters.map String.toList, (!text.isEmpty) = true :=
    List.forall_mem_map.2 fun filter hmem => by simpa using (h.isFilter filter hmem).nonempty
  rw [Slice.filters, h.decoded hreserved, Text.pieces_intercalate hsome hsingle, List.map_append,
    List.drop_left' (by rw [List.length_map, h.length]), List.map_congr_left htrim, List.map_id',
    List.filter_eq_self.2 hfull]

/-- Texts in one line are empty only if there are none, or all are empty. -/
theorem joined_ne_empty {separator : String} {texts : List String} (hne : texts ≠ [])
    (h : ∀ text ∈ texts, text ≠ "") : Text.joined separator texts ≠ "" := by
  intro hempty
  have hlist : separator.toList.intercalate (texts.map String.toList) = [] := by
    rw [← String.toList_intercalate, ← Text.joined, hempty]
    rfl
  obtain ⟨first, rest, rfl⟩ := List.exists_cons_of_ne_nil hne
  refine h first List.mem_cons_self (String.toList_eq_nil_iff.1 ?_)
  cases rest with
  | nil => rwa [List.map_singleton, List.intercalate_singleton] at hlist
  | cons next others =>
    rw [List.map_cons, List.map_cons, List.intercalate_cons_cons, List.append_assoc] at hlist
    exact (List.append_eq_nil_iff.1 hlist).1

/-- A slice is shown by the filters that were encoded into its name, whichever bytes were written
out and in whichever case, and by the label of the whole if there are none. -/
theorem label_undoes_encoding (hreserved : Text.Percent.Suffices reserved)
    (h : Named reserved head filters spelled) :
    tail (Text.joined ":" (head ++ spelled)) = Text.joined ", " filters ∧
      label (Text.joined ":" (head ++ spelled)) =
        if filters = [] then wholeLabel else Text.joined ", " filters := by
  have htail : tail (Text.joined ":" (head ++ spelled)) = Text.joined ", " filters := by
    rw [tail, h.filters_eq hreserved, List.map_map]
    refine congrArg (Text.joined ", ") ((List.map_congr_left fun filter _ => ?_).trans
      (List.map_id filters))
    exact String.ofList_toList
  refine ⟨htail, ?_⟩
  rw [label, htail]
  by_cases hnone : filters = []
  · subst hnone
    rfl
  · rw [if_neg hnone, if_neg (joined_ne_empty hnone fun filter hmem =>
      (h.isFilter filter hmem).nonempty)]

/-- Two filters, one with a letter beyond ASCII and a percent sign and one with a blank inside, are
encoded by digits of both cases and shown as they were. -/
theorem label_undoes_encoding_either_case :
    let reserved := fun byte => Text.Percent.isUnreserved byte = false
    let head := ["thirdeye", "metric", "7"]
    let filters := ["é%", "a b"]
    let spelled := ["%c3%A9%25", "a%20b"]
    Text.Percent.Suffices reserved ∧ Named reserved head filters spelled ∧
      Text.joined ":" (head ++ spelled) = "thirdeye:metric:7:%c3%A9%25:a%20b" ∧
      tail "thirdeye:metric:7:%c3%A9%25:a%20b" = "é%, a b" ∧
      label "thirdeye:metric:7:%c3%A9%25:a%20b" = "é%, a b" := by
  intro reserved head filters spelled
  have hreserved : Text.Percent.Suffices reserved :=
    Text.Percent.suffices_of_unreserved fun _ h => h
  have hsegments : ∀ segment ∈ head, IsSegment segment := by
    have hall : ∀ segment ∈ head, ':' ∉ segment.toList ∧ '%' ∉ segment.toList := by decide
    exact fun segment h => ⟨(hall segment h).1, (hall segment h).2⟩
  have hfilters : ∀ filter ∈ filters, IsFilter filter := by
    have hall : ∀ filter ∈ filters, (filter ≠ "" ∧ ':' ∉ filter.toList) ∧
        filter.toList.head?.any Text.isBlank = false ∧
        filter.toList.getLast?.any Text.isBlank = false := by decide
    intro filter h
    obtain ⟨⟨hfull, hcolon⟩, hfirst, hlast⟩ := hall filter h
    exact ⟨hfull, hcolon, fun c hc => by rwa [hc] at hfirst, fun c hc => by rwa [hc] at hlast⟩
  have hfirst : Text.Percent.Spelled reserved (Text.Utf8.encode "é%".toList)
      "%c3%A9%25".toList :=
    @Text.Percent.Spelled.escaped _ 0xC3 0x63 0x33 _ _ (by decide) (by decide) (by decide) <|
    @Text.Percent.Spelled.escaped _ 0xA9 0x41 0x39 _ _ (by decide) (by decide) (by decide) <|
    @Text.Percent.Spelled.escaped _ 0x25 0x32 0x35 _ _ (by decide) (by decide) (by decide) .nil
  have hsecond : Text.Percent.Spelled reserved (Text.Utf8.encode "a b".toList)
      "a%20b".toList :=
    @Text.Percent.Spelled.kept _ 0x61 _ _ (by decide) <|
    @Text.Percent.Spelled.escaped _ 0x20 0x32 0x30 _ _ (by decide) (by decide) (by decide) <|
    @Text.Percent.Spelled.kept _ 0x62 _ _ (by decide) .nil
  have hnamed : Named reserved head filters spelled :=
    ⟨rfl, hsegments, hfilters, .cons hfirst (.cons hsecond .nil)⟩
  have hname : Text.joined ":" (head ++ spelled) = "thirdeye:metric:7:%c3%A9%25:a%20b" := by
    decide
  have hline : Text.joined ", " filters = "é%, a b" := by decide
  have hlabel := label_undoes_encoding hreserved hnamed
  rw [hname, hline] at hlabel
  exact ⟨hreserved, hnamed, hname, hlabel⟩

/-! ## Options are found -/

variable {urns : List String} {selected : String}

/-- Any text but the empty one means the slices that are shown by it. -/
theorem isSelectedBy_eq_label (h : selected ≠ "") (urn : String) :
    isSelectedBy selected urn = decide (label urn = selected) := by
  rw [Bool.eq_iff_iff, isSelectedBy_iff, decide_eq_true_eq]
  refine ⟨fun hmeant => hmeant.elim id fun htail => ?_, .inl⟩
  have hfilters : tail urn ≠ "" := fun hempty => h (htail.symm.trans hempty)
  rw [label, if_neg hfilters, htail]

theorem resolve?_eq_find? (h : selected ≠ "") :
    resolve? urns selected = urns.find? fun urn => label urn = selected :=
  congrArg (List.find? · urns) (funext (isSelectedBy_eq_label h))

theorem notMem_labels_iff : selected ∉ labels urns ↔ ∀ urn ∈ urns, ¬ label urn = selected := by
  rw [labels, List.mem_map, not_exists]
  exact forall_congr' fun urn => not_and

/-- A text that is not empty means the first slice that is shown by it, and none exactly if no slice
is offered under it. So whatever is offered means a slice that is shown by it, and where no two
slices are shown alike, each is meant by what it is offered under. -/
theorem options_resolve (urns : List String) (h : selected ≠ "") :
    (∀ urn, resolve? urns selected = some urn ↔ ∃ before after,
        urns = before ++ urn :: after ∧ label urn = selected ∧ selected ∉ labels before) ∧
      (resolve? urns selected = none ↔ selected ∉ labels urns) ∧
      (∀ option ∈ labels urns,
        ∃ urn ∈ urns, resolve? urns option = some urn ∧ label urn = option) ∧
      ((labels urns).Nodup → ∀ i : Nat, (labels urns)[i]?.bind (resolve? urns) = urns[i]?) := by
  refine ⟨fun urn => ?_, ?_, fun option hoption => ?_, fun hdistinct i => ?_⟩
  · rw [resolve?_eq_find? h, List.find?_eq_some_iff_append, decide_eq_true_eq]
    constructor
    · rintro ⟨hlabel, before, after, hurns, hbefore⟩
      exact ⟨before, after, hurns, hlabel,
        notMem_labels_iff.2 fun other hother => by simpa using hbefore other hother⟩
    · rintro ⟨before, after, hurns, hlabel, hbefore⟩
      exact ⟨hlabel, before, after, hurns,
        fun other hother => by simpa using notMem_labels_iff.1 hbefore other hother⟩
  · rw [resolve?_eq_find? h, List.find?_eq_none, notMem_labels_iff]
    simp only [decide_eq_true_eq]
  · obtain ⟨urn, hurn, rfl⟩ := List.mem_map.1 hoption
    exact resolve?_label hurn
  · rw [labels, List.getElem?_map]
    cases hurn : urns[i]? with
    | none => rfl
    | some urn =>
      have hmem := List.mem_of_getElem? hurn
      obtain ⟨found, hfound, hresolve, hlabel⟩ := resolve?_label hmem
      rw [Option.map_some, Option.bind_some, hresolve,
        List.inj_on_of_nodup_map hdistinct hfound hmem hlabel]

/-- A slice with a filter that reads like the label of the whole stands before the whole itself, and
one with nothing but an encoded blank after them: all three are shown alike, and the text means the
first. Without the first and the last, slices are meant by their places. -/
theorem options_resolve_like_whole :
    let urns := ["m:n:7:All%20Dimensions", "m:n:7", "m:n:7:%20"]
    let apart := ["m:n:7", "m:n:7:country%3Dus"]
    labels urns = ["All Dimensions", "All Dimensions", "All Dimensions"] ∧
      resolve? urns "All Dimensions" = some "m:n:7:All%20Dimensions" ∧
      resolve? urns "country=us" = none ∧ labels apart = ["All Dimensions", "country=us"] ∧
      (labels apart)[1]?.bind (resolve? apart) = some "m:n:7:country%3Dus" := by
  intro urns apart
  have hlabels : labels urns = ["All Dimensions", "All Dimensions", "All Dimensions"] := by
    decide +kernel
  have hwhole : "All Dimensions" ≠ "" := by decide
  have hcountry : "country=us" ≠ "" := by decide
  obtain ⟨hfirst, -, -, -⟩ := options_resolve urns hwhole
  obtain ⟨-, hnone, -, -⟩ := options_resolve urns hcountry
  have hapart : labels apart = ["All Dimensions", "country=us"] := by decide +kernel
  obtain ⟨-, -, -, hplaces⟩ := options_resolve apart hcountry
  refine ⟨hlabels, (hfirst _).2 ⟨[], _, rfl, ?_, List.not_mem_nil⟩, hnone.2 ?_, hapart,
    hplaces ?_ 1⟩
  · exact (List.cons.inj hlabels).1
  · rw [hlabels]
    decide
  · rw [hapart]
    decide

end Slice

end AlertDetail

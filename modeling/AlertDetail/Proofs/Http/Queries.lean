import AlertDetail.Http.Exchange
import AlertDetail.Proofs.Json.Printed
import AlertDetail.Proofs.Text.Form
import AlertDetail.Proofs.Url.Extension

/-!
# Queries of requests

A call travels as pairs of texts in the query of an address. Whatever the texts are, form decoding
reads from the query, and from the target that is sent, the pairs that were put in, and the rest of
the address is the same for all pairs. This rests on three facts: the pairs are written so that they
are read again and show no number sign, no path shows a question mark or a number sign, and a base
without query and fragment has neither in its text.
-/

namespace AlertDetail.Http

open Url (IsHostName below)

variable {name base : String} {c : Char}

/-! ## Paths -/

/-- The names that paths begin with. -/
def services : List String := ["detection", "yaml", "rootcause"]

theorem isHostName_of_mem_services (h : name ∈ services) : IsHostName name.toList := by
  have hall : ∀ name ∈ services, Host.parse name.toList = .ok (.name name) ∧
      Host.parseOpaque name.toList = .ok (.name name) ∧
      Url.userAndHost name.toList = ([], name.toList) ∧
      Url.splitService false name.toList = (name.toList, none) ∧
      name.toList.all (!Url.isSlash true ·) = true ∧ name.toList ≠ [] := by decide +kernel
  obtain ⟨hprescribed, hfree, huserless, hserviceless, hsolid, hnonempty⟩ := hall name h
  refine ⟨⟨_, hprescribed⟩, ⟨_, hfree⟩, huserless, hserviceless, fun c hc => ?_, hnonempty⟩
  simpa using List.all_eq_true.1 hsolid c hc

/-- A character that means nothing to an address but itself. -/
def isPathChar (c : Char) : Bool := 0x20 < c.toNat && c ≠ '?' && c ≠ '#'

theorem isPathChar_of_isNumeralChar (h : Json.isNumeralChar c = true) : isPathChar c = true := by
  have hvisible : 0x20 < c.toNat := by
    simp only [Json.isNumeralChar, Bool.or_eq_true, beq_iff_eq] at h
    rcases h with ((((hdigit | rfl) | rfl) | rfl) | rfl) | rfl
    · exact Nat.lt_of_lt_of_le (by decide) (Char.isDigit_iff_toNat.1 hdigit).1
    all_goals decide
  have hmark : c ≠ '?' := by
    rintro rfl
    exact absurd h (by decide)
  have hsign : c ≠ '#' := by
    rintro rfl
    exact absurd h (by decide)
  simp [isPathChar, hvisible, hmark, hsign]

/-- Every path begins with one of the names, and nothing in it means anything but itself. -/
theorem path_eq (call : Call) : ∃ name ∈ services, ∃ rest,
    (path call).toList = below name.toList rest ∧ rest.all isPathChar = true := by
  have hnumber (n : Int) : (toString n).toList.all isPathChar = true := List.all_eq_true.2
    fun c hc => isPathChar_of_isNumeralChar (Json.numeralText_toString n c hc)
  unfold path
  cases call with
  | anomalies alertId window =>
    have hlead : "/detection/".toList = below "detection".toList [] := by decide
    refine ⟨"detection", by decide, [] ++ ((toString alertId).toList ++ "/anomalies".toList), ?_,
      by rw [List.nil_append, List.all_append, hnumber]; decide⟩
    rw [← Url.below_append, ← hlead, String.toList_append, String.toList_append, List.append_assoc]
  | preview yaml alertId window =>
    have hlead : "/yaml/preview".toList = below "yaml".toList "preview".toList := by decide
    exact ⟨"yaml", by decide, "preview".toList, hlead, by decide⟩
  | bounds alertId window =>
    have hlead : "/detection/preview/".toList = below "detection".toList "preview/".toList := by
      decide
    refine ⟨"detection", by decide, "preview/".toList ++ (toString alertId).toList, ?_,
      by rw [List.all_append, hnumber]; decide⟩
    rw [← Url.below_append, ← hlead, String.toList_append]
  | timeseries urn window offset timezone =>
    have hlead : "/rootcause/metric/timeseries".toList =
        below "rootcause".toList "metric/timeseries".toList := by decide
    exact ⟨"rootcause", by decide, "metric/timeseries".toList, hlead, by decide⟩
  | report alertId urn report =>
    have hlead : "/detection/report-anomaly/".toList =
        below "detection".toList "report-anomaly/".toList := by decide
    refine ⟨"detection", by decide, "report-anomaly/".toList ++ (toString alertId).toList, ?_,
      by rw [List.all_append, hnumber]; decide⟩
    rw [← Url.below_append, ← hlead, String.toList_append]

/-! ## Queries -/

/-- The pairs that are read from what stands after the first question mark of a target. -/
def targetPairs? (target : String) : Option (List (String × String)) :=
  Text.Form.decode? ((target.toList.dropWhile (· ≠ '?')).drop 1)

/-- An address carries pairs. -/
structure Carries (url : Url) (pairs : List (String × String)) : Prop where
  /-- They are read from its query. -/
  query : url.query.bind (fun query => Text.Form.decode? query.toList) = some pairs
  /-- They are read from the target of a request that is sent there. -/
  target : targetPairs? url.target = some pairs
  /-- No fragment begins in the target. -/
  whole : '#' ∉ url.target.toList
  /-- There is no fragment. -/
  fragment : url.fragment = none

/-- An address carries the pairs that its query writes. -/
theorem carries_of_query {url : Url} {pairs : List (String × String)}
    (hpath : Url.Bare url.pathText.toList)
    (hfragment : url.fragment = none)
    (hquery : url.query = some (.ofList (Text.Form.encode pairs))) : Carries url pairs := by
  have hread : Text.Form.decode? (String.ofList (Text.Form.encode pairs)).toList = some pairs := by
    rw [String.toList_ofList, Text.Form.decode?_encode]
  refine ⟨?_, ?_, ?_, hfragment⟩
  · rw [hquery, Option.bind_some, hread]
  · rw [targetPairs?, Url.target_afterMark hpath hquery, hread]
  · rw [Url.target, Url.queryText, hquery, String.toList_append, List.mem_append]
    rintro (hsign | hsign)
    · exact hpath.2 hsign
    · rw [Option.elim_some, String.toList_append, List.mem_append] at hsign
      rcases hsign with hsign | hsign
      · exact absurd hsign (by decide)
      · rw [String.toList_ofList] at hsign
        exact Text.Form.notMem_encode (by decide) (by decide) (by decide) pairs hsign

theorem withPairs_eq {url : Url} {pairs : List (String × String)} (hquery : url.query = none)
    (hpairs : pairs ≠ []) :
    url.withPairs pairs = { url with query := some (.ofList (Text.Form.encode pairs)) } := by
  obtain ⟨pair, others, rfl⟩ := List.exists_cons_of_ne_nil hpairs
  rw [Url.withPairs, hquery]
  rfl

/-- The text of an address for a call. -/
def addressText (base : String) (call : Call) : String :=
  .ofList (base.toList.reverse.dropWhile (· = '/')).reverse ++ path call

theorem address_of_parse_ok {call : Call} {url : Url}
    (h : Url.parse (addressText base call) = .ok url) (pairs : List (String × String)) :
    address base (path call) pairs = .ok (url.withPairs pairs) := by
  unfold addressText at h
  unfold address
  simp only [h]

theorem address_of_parse_error {call : Call} {cause : UrlError}
    (h : Url.parse (addressText base call) = .error cause) (pairs : List (String × String)) :
    address base (path call) pairs =
      .error (.fetch ("invalid url for " ++ path call ++ ": " ++ cause.message)) := by
  unfold addressText at h
  unfold address
  simp only [h]

variable {root : Url} {call : Call}

theorem toList_addressText (base : String) (call : Call) :
    (addressText base call).toList = base.toList.rdropWhile (· = '/') ++ (path call).toList := by
  rw [addressText, String.toList_append, String.toList_ofList, List.rdropWhile]

theorem isPathChar_of_mem_path (h : c ∈ (path call).toList) : isPathChar c = true := by
  have hservices : ∀ name ∈ services, name.toList.all isPathChar = true := by decide
  obtain ⟨name, hname, rest, hpath, hrest⟩ := path_eq call
  rw [hpath, below, List.mem_cons, List.mem_append, List.mem_cons] at h
  rcases h with rfl | h | rfl | h
  · decide
  · exact List.all_eq_true.1 (hservices name hname) c h
  · decide
  · exact List.all_eq_true.1 hrest c h

/-- No query or fragment begins in the path of a call. -/
theorem bare_path (call : Call) : Url.Bare (path call).toList :=
  ⟨fun hmark => absurd (isPathChar_of_mem_path hmark) (by decide),
    fun hsign => absurd (isPathChar_of_mem_path hsign) (by decide)⟩

/-- An address below one without query and fragment has neither. -/
theorem bare_addressText (hbase : Url.Bare base.toList) (call : Call) :
    Url.Bare (addressText base call).toList := by
  rw [toList_addressText, Url.bare_append]
  exact ⟨hbase.mono (List.rdropWhile_prefix _ _).subset, bare_path call⟩

/-- A call has an address below every base that something can be put after. -/
theorem exists_parse_addressText (hroot : Url.parse base = .ok root)
    (hbare : Url.Bare base.toList) (hbase : Url.Extensible base) (call : Call) :
    ∃ url, Url.parse (addressText base call) = .ok url := by
  obtain ⟨name, hname, rest, hpath, -⟩ := path_eq call
  have hvisible : ∀ c ∈ below name.toList rest, 0x20 < c.toNat := by
    intro c hc
    have hplain := isPathChar_of_mem_path (hpath ▸ hc)
    simp only [isPathChar, Bool.and_eq_true, decide_eq_true_eq] at hplain
    exact hplain.1.1
  have hslashes : ∀ c ∈ base.toList.rtakeWhile (· = '/'), c = '/' := by
    intro c hc
    simpa using List.mem_rtakeWhile_imp hc
  have htext : addressText base call =
      .ofList (base.toList.rdropWhile (· = '/') ++ below name.toList rest) := by
    rw [← hpath, ← toList_addressText, String.ofList_toList]
  rw [htext]
  exact Url.exists_parse_append hroot hbare hbase
    List.rdropWhile_append_rtakeWhile.symm hslashes (isHostName_of_mem_services hname)
    hvisible (hpath ▸ bare_path call)

/-- Whatever the pairs of a request are, they are read from its address as they were put in, and
nothing else in the address depends on them. Below a base that has neither query nor fragment, a
call has no address only where nothing can be put after the base, and then for no pairs. -/
theorem address_carries_pairs (hroot : Url.parse base = .ok root) (hquery : root.query = none)
    (hfragment : root.fragment = none) (call : Call) :
    (∃ url : Url, url.query = none ∧ url.fragment = none ∧ ∀ pairs, pairs ≠ [] →
      ∃ query, address base (path call) pairs = .ok { url with query := some query } ∧
        Carries { url with query := some query } pairs) ∨
    (¬ Url.Extensible base ∧
      ∃ cause, ∀ pairs, address base (path call) pairs = .error cause) := by
  have hbare : Url.Bare base.toList := (Url.query_fragment_eq_none hroot).1 ⟨hquery, hfragment⟩
  cases hparse : Url.parse (addressText base call) with
  | error cause =>
    refine .inr ⟨fun hbase => ?_, _, address_of_parse_error hparse⟩
    obtain ⟨url, hurl⟩ := exists_parse_addressText hroot hbare hbase call
    rw [hparse] at hurl
    cases hurl
  | ok url =>
    obtain ⟨hurl, hurl'⟩ := (Url.query_fragment_eq_none hparse).2 (bare_addressText hbare call)
    refine .inl ⟨url, hurl, hurl', fun pairs hpairs => ?_⟩
    have hpath := Url.bare_pathText hparse
    refine ⟨_, ?_, carries_of_query hpath hurl' rfl⟩
    rw [address_of_parse_ok hparse, withPairs_eq hurl hpairs]

/-- Signs of queries and forms, a space, a line break, a letter beyond ASCII and two empty texts are
read back below a base that ends in a slash. -/
theorem address_carries_pairs_signs :
    let pairs := [("a&b=", "1+2 %41#?\né"), ("", "")]
    ∃ url, address "http://h/api/" (path (.anomalies (-7) ⟨0, 1⟩)) pairs = .ok url ∧
      Carries url pairs := by
  intro pairs
  have hroot : Url.parse "http://h/api/" = .ok {
      scheme := "http", host := some (.name "h"), path := .segments ["api", ""] } := by
    decide +kernel
  have hbase : Url.Extensible "http://h/api/" := by
    have hlast : "http://h/api/".toList.getLast? = some '/' := by decide
    refine ⟨fun c hc => ?_, by decide⟩
    obtain rfl : '/' = c := Option.some.inj (hlast.symm.trans hc)
    decide
  rcases address_carries_pairs hroot rfl rfl (.anomalies (-7) ⟨0, 1⟩) with ⟨url, -, -, h⟩ | ⟨h, -⟩
  · obtain ⟨query, hurl, hcarries⟩ := h pairs (by decide)
    exact ⟨_, hurl, hcarries⟩
  · exact absurd hbase h

/-- A blank counts for nothing at the end of a base, but nothing can be put after it. -/
example : (Url.parse "http://h ").isOk = true ∧
    (address "http://h " "/yaml/preview" [("start", "0")]).isOk = false := by decide +kernel

/-- Every call has pairs. -/
theorem pairs_ne_nil (call : Call) : pairs call ≠ [] := by
  cases call with
  | anomalies alertId window => exact List.cons_ne_nil _ _
  | preview yaml alertId window => exact List.cons_ne_nil _ _
  | bounds alertId window => exact List.cons_ne_nil _ _
  | timeseries urn window offset timezone => exact List.cons_ne_nil _ _
  | report alertId urn report => exact List.cons_ne_nil _ _

/-- User and password are no part of a target. -/
theorem target_withoutCredentials (url : Url) : url.withoutCredentials.target = url.target := by
  rw [Url.withoutCredentials]
  split
  · rfl
  · rfl

/-- What the backend reads from the target of a request are the pairs of the call. -/
theorem request_pairs {sent : Request} (hbase : Url.Bare base.toList)
    (h : request base call = .ok sent) : targetPairs? sent.url.target = some (pairs call) := by
  cases hparse : Url.parse (addressText base call) with
  | error cause =>
    rw [request, address_of_parse_error hparse] at h
    cases h
  | ok url =>
    rw [request, address_of_parse_ok hparse] at h
    obtain rfl := Except.ok.inj h
    obtain ⟨hquery, hfragment⟩ :=
      (Url.query_fragment_eq_none hparse).2 (bare_addressText hbase call)
    have hpath := Url.bare_pathText hparse
    have hcarries : Carries (url.withPairs (pairs call)) (pairs call) := by
      rw [withPairs_eq hquery (pairs_ne_nil call)]
      exact carries_of_query hpath hfragment rfl
    rw [target_withoutCredentials]
    exact hcarries.target

end AlertDetail.Http

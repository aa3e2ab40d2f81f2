import AlertDetail.Proofs.Text.Percent
import AlertDetail.Proofs.Url.Authority
import Mathlib.Data.List.DropRight
import Mathlib.Data.List.TakeWhile

/-!
# The parts of an address

An address has a query exactly if a question mark stands in its text, before the number sign of a
fragment if there is one. No path shows either of the two marks, so what follows the first question
mark of a request's target is the query.
-/

namespace AlertDetail.Url

variable {text text' rest : List Char} {scheme : String} {segments : List String} {last : Bool}
  {c : Char} {url : Url}

/-- Neither a query nor a fragment begins in a text. -/
def Bare (text : List Char) : Prop := '?' ∉ text ∧ '#' ∉ text

theorem bare_append : Bare (text ++ text') ↔ Bare text ∧ Bare text' := by
  simp only [Bare, List.mem_append, not_or]
  exact and_and_and_comm

theorem Bare.mono (h : Bare text) (hsub : text' ⊆ text) : Bare text' :=
  ⟨fun hmem => h.1 (hsub hmem), fun hmem => h.2 (hsub hmem)⟩

/-! ## Query and fragment -/

/-- Nothing is left after the first character that fails a test if all pass it. -/
theorem drop_takeWhile_tail? {p : Char → Bool} :
    (text.drop (text.takeWhile p).length).tail? = none ↔ ∀ c ∈ text, p c = true := by
  have hsplit := congrArg (List.drop (text.takeWhile p).length)
    (List.takeWhile_append_dropWhile (p := p) (l := text))
  rw [List.drop_left] at hsplit
  rw [← hsplit, ← List.dropWhile_eq_nil_iff]
  cases text.dropWhile p with
  | nil => simp
  | cons c rest => simp

theorem splitTail_of_bare (h : Bare text) : splitTail text = (text, none, none) := by
  have hbody : text.takeWhile (· ≠ '#') = text :=
    List.takeWhile_eq_self_iff.2 fun c hc => decide_eq_true fun he => h.2 (he ▸ hc)
  have hpath : text.takeWhile (· ≠ '?') = text :=
    List.takeWhile_eq_self_iff.2 fun c hc => decide_eq_true fun he => h.1 (he ▸ hc)
  simp only [splitTail, hbody, hpath, List.drop_length, List.tail?_nil]

theorem bare_of_splitTail (hquery : (splitTail text).2.1 = none)
    (hfragment : (splitTail text).2.2 = none) : Bare text := by
  have hsign := drop_takeWhile_tail?.1 hfragment
  have hbody : text.takeWhile (· ≠ '#') = text := List.takeWhile_eq_self_iff.2 hsign
  have hmark := drop_takeWhile_tail?.1 hquery
  rw [hbody] at hmark
  exact ⟨fun hmem => of_decide_eq_true (hmark _ hmem) rfl,
    fun hmem => of_decide_eq_true (hsign _ hmem) rfl⟩

/-- What stands before query and fragment. -/
theorem bare_splitTail (text : List Char) : Bare (splitTail text).1 := by
  constructor
  · intro hmem
    exact absurd (List.mem_takeWhile_imp hmem) (by decide)
  · intro hmem
    exact absurd (List.mem_takeWhile_imp ((List.takeWhile_prefix _).subset hmem)) (by decide)

/-- A scheme begins with a letter and ends before the first colon. -/
theorem scheme?_eq_some : scheme? text = some (scheme, rest) ↔
    ∃ letters, text = letters ++ ':' :: rest ∧ (∀ c ∈ letters, isSchemeChar c = true) ∧
      letters.head?.any Char.isAlpha = true ∧ scheme = .ofList (letters.map Char.toLower) := by
  -- the colon itself is no letter
  have hhead (letters rest : List Char) :
      (letters ++ ':' :: rest).head?.any Char.isAlpha = letters.head?.any Char.isAlpha := by
    cases letters with
    | nil => rfl
    | cons c letters => rfl
  constructor
  · intro h
    unfold scheme? at h
    split at h
    · next hletter =>
      split at h
      · next later hlater =>
        obtain ⟨rfl, rfl⟩ := Prod.mk.inj (Option.some.inj h)
        have htext : text = text.takeWhile isSchemeChar ++ ':' :: later := by
          rw [← hlater, List.takeWhile_append_dropWhile]
        rw [htext, hhead] at hletter
        exact ⟨_, htext, fun c hc => List.mem_takeWhile_imp hc, hletter, rfl⟩
      · cases h
    · cases h
  · rintro ⟨letters, rfl, hletters, hletter, rfl⟩
    have htake : (letters ++ ':' :: rest).takeWhile isSchemeChar = letters := by
      rw [List.takeWhile_append_of_pos hletters, List.takeWhile_cons_of_neg (by decide),
        List.append_nil]
    have hdrop : (letters ++ ':' :: rest).dropWhile isSchemeChar = ':' :: rest := by
      rw [List.dropWhile_append_of_pos hletters, List.dropWhile_cons_of_neg (by decide)]
    rw [scheme?, if_pos ((hhead letters rest).trans hletter), hdrop, htake]
    rfl

/-- What the text of an address is read as, and when it is read at all. -/
theorem parse_eq_ok {text : String} : parse text = .ok url ↔
    ∃ scheme rest built, scheme? (cleaned text.toList) = some (scheme, rest) ∧
      body scheme (splitTail rest).1
        ((splitTail rest).2.1.isNone && (splitTail rest).2.2.isNone) = .ok built ∧
      url = { built with
        query := (splitTail rest).2.1.map (escapedText (queryReserved (isSpecial scheme)))
        fragment := (splitTail rest).2.2.map (escapedText fragmentReserved) } := by
  unfold parse
  cases hscheme : scheme? (cleaned text.toList) with
  | none => simp
  | some parts =>
    obtain ⟨scheme, rest⟩ := parts
    constructor
    · intro h
      obtain ⟨built, hbuilt, hurl⟩ := bind_eq_ok.1 h
      exact ⟨scheme, rest, built, rfl, hbuilt, (Except.ok.inj hurl).symm⟩
    · rintro ⟨_, _, built, ⟨⟩, hbuilt, rfl⟩
      exact bind_eq_ok.2 ⟨built, hbuilt, rfl⟩

/-- What counts for nothing at the ends of an address. -/
def isEdge (c : Char) : Bool := c.toNat ≤ 0x20

/-- What counts for something wherever it stands between the ends. -/
def isCounted (c : Char) : Bool := c ≠ '\t' && c ≠ '\n' && c ≠ '\r'

theorem cleaned_eq (text : List Char) :
    cleaned text = ((text.dropWhile isEdge).rdropWhile isEdge).filter isCounted :=
  rfl

theorem isEdge_eq_false (hc : 0x20 < c.toNat) : isEdge c = false := by
  simpa [isEdge] using hc

theorem isCounted_eq_true (hc : 0x20 < c.toNat) : isCounted c = true := by
  have hne {d : Char} (hd : d.toNat ≤ 0x20) : c ≠ d := by
    rintro rfl
    omega
  have htab : c ≠ '\t' := hne (by decide)
  have hfeed : c ≠ '\n' := hne (by decide)
  have hreturn : c ≠ '\r' := hne (by decide)
  simp [isCounted, htab, hfeed, hreturn]

/-- A character that fails a test is not dropped by it. -/
theorem mem_dropWhile {p : Char → Bool} (hc : p c = false) :
    c ∈ text.dropWhile p ↔ c ∈ text := by
  refine ⟨fun hmem => (List.dropWhile_suffix p).subset hmem, fun hmem => ?_⟩
  rw [← List.takeWhile_append_dropWhile (p := p) (l := text), List.mem_append] at hmem
  exact hmem.resolve_left fun htaken =>
    Bool.eq_false_iff.1 hc (List.mem_takeWhile_imp htaken)

/-- All that can be seen of a text stays. -/
theorem mem_cleaned (hc : 0x20 < c.toNat) : c ∈ cleaned text ↔ c ∈ text := by
  have hedge := isEdge_eq_false hc
  rw [cleaned_eq, List.mem_filter, List.rdropWhile, List.mem_reverse, mem_dropWhile hedge,
    List.mem_reverse, mem_dropWhile hedge]
  exact and_iff_left (isCounted_eq_true hc)

theorem bare_cleaned : Bare (cleaned text) ↔ Bare text := by
  rw [Bare, Bare, mem_cleaned (by decide), mem_cleaned (by decide)]

theorem bare_of_isSchemeChar (h : ∀ c ∈ text, isSchemeChar c = true) : Bare text :=
  ⟨fun hmem => absurd (h _ hmem) (by decide), fun hmem => absurd (h _ hmem) (by decide)⟩

/-- A text with a scheme is bare if what follows the scheme is. -/
theorem bare_iff_of_scheme? (h : scheme? text = some (scheme, rest)) : Bare text ↔ Bare rest := by
  obtain ⟨letters, rfl, hletters, -, -⟩ := scheme?_eq_some.1 h
  have hcolon : Bare [':'] := ⟨by decide, by decide⟩
  rw [bare_append, ← List.singleton_append, bare_append,
    and_iff_right (bare_of_isSchemeChar hletters), and_iff_right hcolon]

/-- An address has neither query nor fragment exactly if neither of their signs is in its text. -/
theorem query_fragment_eq_none {text : String} (h : parse text = .ok url) :
    (url.query = none ∧ url.fragment = none) ↔ Bare text.toList := by
  obtain ⟨scheme, rest, built, hscheme, -, rfl⟩ := parse_eq_ok.1 h
  rw [← bare_cleaned, bare_iff_of_scheme? hscheme, Option.map_eq_none_iff, Option.map_eq_none_iff]
  constructor
  · rintro ⟨hquery, hfragment⟩
    exact bare_of_splitTail hquery hfragment
  · intro hbare
    rw [splitTail_of_bare hbare]
    exact ⟨rfl, rfl⟩

/-! ## Paths -/

theorem bare_escapedText (text : List Char) : Bare (escapedText pathReserved text).toList := by
  rw [escapedText, String.toList_ofList]
  exact ⟨Text.Percent.notMem_encode (by decide) (by decide) (by decide) text,
    Text.Percent.notMem_encode (by decide) (by decide) (by decide) text⟩

/-- Dot segments take segments away and leave empty ones at most. -/
theorem forall_mem_resolve {P : String → Prop} {before : List String} (hempty : P "")
    (hbefore : ∀ segment ∈ before, P segment) (hsegments : ∀ segment ∈ segments, P segment) :
    ∀ segment ∈ resolve before segments, P segment := by
  fun_induction resolve before segments with
  | case1 before => exact fun segment hmem => hbefore segment (List.mem_reverse.1 hmem)
  | case2 before first rest last _ ih =>
    have hleave : ∀ segment ∈ leave before, P segment := by
      intro segment hmem
      unfold leave at hmem
      split at hmem
      · exact hbefore segment hmem
      · exact hbefore segment (List.mem_of_mem_tail hmem)
    refine ih ?_ (List.forall_mem_cons.1 hsegments).2
    split
    · exact List.forall_mem_cons.2 ⟨hempty, hleave⟩
    · exact hleave
  | case3 before first rest last _ _ ih =>
    refine ih ?_ (List.forall_mem_cons.1 hsegments).2
    split
    · exact List.forall_mem_cons.2 ⟨hempty, hbefore⟩
    · exact hbefore
  | case4 before first rest _ _ ih =>
    obtain ⟨hfirst, hrest⟩ := List.forall_mem_cons.1 hsegments
    exact ih (List.forall_mem_cons.2 ⟨hfirst, hbefore⟩) hrest

/-- Neither sign shows in any segment. -/
def BareSegments (segments : List String) : Prop := ∀ segment ∈ segments, Bare segment.toList

theorem bare_empty : Bare "".toList := ⟨List.not_mem_nil, List.not_mem_nil⟩

theorem bareSegments_segmentsOf (special : Bool) (text : List Char) :
    BareSegments (segmentsOf special text) := by
  refine forall_mem_resolve bare_empty (fun _ => (absurd · List.not_mem_nil)) ?_
  exact List.forall_mem_map.2 fun piece _ => bare_escapedText piece

/-- A drive is a letter. -/
theorem bareSegments_onDrive? {segments' : List String} (hall : BareSegments segments)
    (h : onDrive? segments = some segments') : BareSegments segments' := by
  cases segments with
  | nil => cases h
  | cons drive rest =>
    obtain ⟨hdrive, hrest⟩ := List.forall_mem_cons.1 hall
    rw [onDrive?] at h
    split at h
    · obtain rfl := Option.some.inj h
      have hcolon : Bare [':'] := ⟨by decide, by decide⟩
      refine List.forall_mem_cons.2 ⟨?_, hrest⟩
      rw [String.toList_ofList, bare_append]
      exact ⟨hdrive.mono (List.take_subset 1 _), hcolon⟩
    · cases h

theorem bareSegments_withoutLeadingEmpty (hall : BareSegments segments) :
    BareSegments (withoutLeadingEmpty segments) := by
  rw [withoutLeadingEmpty]
  split
  · exact List.forall_mem_singleton.2 bare_empty
  · exact fun segment hmem => hall segment ((List.dropWhile_suffix _).subset hmem)

theorem bare_text_segments (hall : BareSegments segments) :
    Bare (UrlPath.segments segments).text.toList := by
  have hslash : Bare "/".toList := ⟨by decide, by decide⟩
  have hpart : ∀ part ∈ segments.map ("/" ++ ·), Bare part.toList :=
    List.forall_mem_map.2 fun segment hmem => by
      rw [String.toList_append, bare_append]
      exact ⟨hslash, hall segment hmem⟩
  rw [UrlPath.text, String.toList_join]
  constructor
  · intro hmem
    obtain ⟨part, hpartMem, hmark⟩ := List.mem_flatMap.1 hmem
    exact (hpart part hpartMem).1 hmark
  · intro hmem
    obtain ⟨part, hpartMem, hsign⟩ := List.mem_flatMap.1 hmem
    exact (hpart part hpartMem).2 hsign

theorem bare_fileOn (host : Host) (text : List Char) : Bare (fileOn host text).pathText.toList := by
  have hall := bareSegments_segmentsOf true text
  cases hdrive : onDrive? (segmentsOf true text) with
  | none =>
    simp only [fileOn, hdrive]
    exact bare_text_segments (bareSegments_withoutLeadingEmpty hall)
  | some segments =>
    simp only [fileOn, hdrive]
    exact bare_text_segments (bareSegments_onDrive? hall hdrive)

theorem exists_fileAt (host : Host) (path : List Char) :
    ∃ host' path', fileAt host path = fileOn host' path' := by
  rw [fileAt]
  split
  · exact ⟨_, _, rfl⟩
  · exact ⟨_, _, rfl⟩

/-- Every file is one on some host. -/
theorem exists_fileOn (h : file text = .ok url) : ∃ host path, url = fileOn host path := by
  by_cases hslashes : ∃ a b rest, text = a :: b :: rest ∧ (isSlash true a && isSlash true b) = true
  · obtain ⟨a, b, rest, rfl, hboth⟩ := hslashes
    rw [file_slashes hboth] at h
    split at h
    · exact ⟨_, _, (Except.ok.inj h).symm⟩
    · cases hhost : fileHost (rest.takeWhile (!isSlash true ·)) with
      | error cause =>
        rw [hhost] at h
        cases h
      | ok host =>
        rw [hhost] at h
        obtain rfl := Except.ok.inj h
        exact exists_fileAt host _
  · rw [file_of_no_slashes fun a b rest htext =>
      Bool.eq_false_iff.2 fun hboth => hslashes ⟨a, b, rest, htext, hboth⟩] at h
    exact ⟨_, _, (Except.ok.inj h).symm⟩

theorem bareSegments_segmentsAfter (scheme : String) (authority path : List Char) :
    BareSegments (segmentsAfter scheme authority path) := by
  rw [segmentsAfter]
  split
  · split
    · exact fun _ => (absurd · List.not_mem_nil)
    · exact bareSegments_segmentsOf _ _
  · exact bareSegments_segmentsOf _ _

theorem bare_afterSlashes (h : afterSlashes scheme text last = .ok url) :
    Bare url.pathText.toList := by
  obtain ⟨-, host, service, -, rfl⟩ := afterSlashes_eq_ok.1 h
  exact bare_text_segments (bareSegments_segmentsAfter scheme _ _)

/-- A path without structure is taken as it is written. -/
theorem bare_opaque (h : Bare text) : Bare (escapedText [] text).toList := by
  rw [escapedText, String.toList_ofList]
  exact ⟨mt (Text.Percent.mem_of_mem_encode (by decide) (by decide) (by decide)) h.1,
    mt (Text.Percent.mem_of_mem_encode (by decide) (by decide) (by decide)) h.2⟩

theorem bare_body (hbare : Bare text) (h : body scheme text last = .ok url) :
    Bare url.pathText.toList := by
  unfold body at h
  split at h
  · obtain ⟨host, path, rfl⟩ := exists_fileOn h
    exact bare_fileOn host path
  split at h
  · exact bare_afterSlashes h
  split at h
  · exact bare_afterSlashes h
  · obtain rfl := Except.ok.inj h
    exact bare_text_segments (bareSegments_segmentsOf false _)
  · obtain rfl := Except.ok.inj h
    exact bare_opaque hbare

/-- No path shows the sign of a query or of a fragment. -/
theorem bare_pathText {text : String} (h : parse text = .ok url) : Bare url.pathText.toList := by
  obtain ⟨scheme, rest, built, -, hbuilt, rfl⟩ := parse_eq_ok.1 h
  have hpath := bare_body (bare_splitTail rest) hbuilt
  exact hpath

/-- What follows the first question mark of a target is the query. -/
theorem target_afterMark {query : String} (hpath : Bare url.pathText.toList)
    (hquery : url.query = some query) :
    (url.target.toList.dropWhile (· ≠ '?')).drop 1 = query.toList := by
  have hall : ∀ c ∈ url.pathText.toList, decide (c ≠ '?') = true :=
    fun c hc => decide_eq_true fun hmark => hpath.1 (hmark ▸ hc)
  rw [target, queryText, hquery, String.toList_append, List.dropWhile_append_of_pos hall]
  simp

end AlertDetail.Url

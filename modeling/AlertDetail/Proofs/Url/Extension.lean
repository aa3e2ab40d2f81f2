import AlertDetail.Proofs.Url.Parts

/-!
# Putting a path after an address

A text that is an address without query and fragment stays one when a path is put after it, in place
of the slashes at its end. What stands before the path is read as it was, or the path itself begins
there and names a host. Two addresses are no longer read: one that ends in a blank, which counts for
nothing only at the end, and one whose host is empty before a lone at sign.
-/

namespace AlertDetail.Url

variable {front slashes tail path name rest : List Char} {scheme : String} {c : Char} {url : Url}

/-! ## Cleaning -/

/-- What is left of a text at whose end nothing is dropped. -/
def begun (text : List Char) : List Char := (text.dropWhile isEdge).filter isCounted

theorem cleaned_eq_begun {text : List Char} (h : ∀ c ∈ text.getLast?, 0x20 < c.toNat) :
    cleaned text = begun text := by
  have hend : (text.dropWhile isEdge).rdropWhile isEdge = text.dropWhile isEdge := by
    refine List.rdropWhile_eq_self_iff.2 fun hne => ?_
    rw [(List.dropWhile_suffix isEdge).getLast hne]
    exact Bool.eq_false_iff.1 (isEdge_eq_false (h _ (List.getLast?_eq_some_getLast _)))
  rw [cleaned_eq, hend, begun]

theorem begun_append (h : ∀ c ∈ tail, 0x20 < c.toNat) :
    begun (front ++ tail) = begun front ++ tail := by
  have hfilter : tail.filter isCounted = tail :=
    List.filter_eq_self.2 fun c hc => isCounted_eq_true (h c hc)
  have hdrop : tail.dropWhile isEdge = tail :=
    List.dropWhile_eq_self_iff.2 fun hlength =>
      Bool.eq_false_iff.1 (isEdge_eq_false (h _ (List.getElem_mem hlength)))
  rw [begun, List.dropWhile_append]
  split
  · next hempty =>
    rw [begun, List.isEmpty_iff.1 hempty, hdrop, hfilter]
    rfl
  · rw [List.filter_append, hfilter, begun]

/-! ## What stands before the path -/

/-- The scheme ends before the slashes. -/
theorem scheme?_append (h : scheme? (front ++ slashes) = some (scheme, rest))
    (hcolon : ':' ∉ slashes) : ∃ rest', rest = rest' ++ slashes ∧
      ∀ tail, scheme? (front ++ tail) = some (scheme, rest' ++ tail) := by
  obtain ⟨letters, htext, hletters, hletter, rfl⟩ := scheme?_eq_some.1 h
  rcases List.append_eq_append_iff.1 htext with ⟨more, -, hmore⟩ | ⟨more, hfront, hmore⟩
  · have hmem : ':' ∈ more ++ ':' :: rest := List.mem_append_right _ List.mem_cons_self
    exact absurd (hmore ▸ hmem) hcolon
  · cases more with
    | nil =>
      have hmem : ':' ∈ ':' :: rest := List.mem_cons_self
      rw [hmore] at hmem
      exact absurd hmem hcolon
    | cons c rest' =>
      obtain ⟨rfl, rfl⟩ := List.cons.inj hmore
      refine ⟨rest', rfl, fun tail => scheme?_eq_some.2 ⟨letters, ?_, hletters, hletter, rfl⟩⟩
      rw [hfront, List.append_assoc]
      rfl

/-- Nothing is taken of what begins with a character that fails the test. -/
theorem takeWhile_append_stop {p : Char → Bool} (h : ∀ c ∈ tail.head?, p c = false) :
    (front ++ tail).takeWhile p = front.takeWhile p := by
  induction front with
  | nil =>
    cases tail with
    | nil => rfl
    | cons c tail => exact List.takeWhile_cons_of_neg (Bool.eq_false_iff.1 (h c rfl))
  | cons d front ih => rw [List.cons_append, List.takeWhile_cons, List.takeWhile_cons, ih]

/-- Where hosts are prescribed, a host is not empty. -/
theorem Locates.host_ne_nil {authority : List Char} {host : Host} {service : Option Nat}
    (h : Locates scheme authority host service) (hspecial : isSpecial scheme = true) :
    (hostAndService authority).1 ≠ [] := by
  intro hempty
  have hhost := h.host_eq
  rw [hostOf, if_pos hspecial, hempty] at hhost
  cases hhost

/-- Slashes are not taken for a part of what stands before the path. -/
theorem takeWhile_append_slashes (hslashes : ∀ c ∈ slashes, c = '/') (special : Bool)
    (front : List Char) :
    (front ++ slashes).takeWhile (!isSlash special ·) = front.takeWhile (!isSlash special ·) :=
  takeWhile_append_stop fun c hc => by
    rw [hslashes c (List.mem_of_mem_head? hc)]
    rfl

theorem takeWhile_append_path (special : Bool) (front path : List Char) :
    (front ++ '/' :: path).takeWhile (!isSlash special ·) =
      front.takeWhile (!isSlash special ·) :=
  takeWhile_append_stop fun c hc => by
    obtain rfl := Option.some.inj hc
    rfl

/-- The host of an address stays, unless it is empty before a lone at sign. -/
theorem afterSlashes_append {root : Url}
    (h : afterSlashes scheme (front ++ slashes) true = .ok root)
    (hslashes : ∀ c ∈ slashes, c = '/') (hhosted : front ++ slashes ≠ ['@']) (path : List Char)
    (last : Bool) : ∃ url, afterSlashes scheme (front ++ '/' :: path) last = .ok url := by
  have hstop := takeWhile_append_slashes hslashes (isSpecial scheme) front
  have hstop' := takeWhile_append_path (isSpecial scheme) front path
  obtain ⟨hlone, host, service, hlocates, -⟩ := afterSlashes_eq_ok.1 h
  rw [hstop] at hlone hlocates
  refine ⟨_, afterSlashes_eq_ok.2 ⟨?_, host, service, hstop' ▸ hlocates, rfl⟩⟩
  rw [hstop']
  rintro ⟨hauthority, -⟩
  -- a lone at sign is let pass only where nothing follows it, so it was the whole text
  have hsplit := List.prefix_iff_eq_append.1
    (List.takeWhile_prefix (l := front ++ slashes) (!isSlash (isSpecial scheme) ·))
  rw [hstop, hauthority] at hsplit
  cases hrest : (front ++ slashes).drop ['@'].length with
  | nil => exact hhosted (by rw [← hsplit, hrest, List.append_nil])
  | cons c rest => exact hlone ⟨hauthority, by rw [hauthority, hrest]; rfl⟩

/-! ## The path itself as host -/

/-- A name that is a host wherever one may stand. -/
structure IsHostName (name : List Char) : Prop where
  /-- It is one where hosts are prescribed. -/
  prescribed : ∃ host, Host.parse name = .ok host
  /-- It is one elsewhere. -/
  free : ∃ host, Host.parseOpaque name = .ok host
  /-- No user is named. -/
  userless : userAndHost name = ([], name)
  /-- No service is named. -/
  serviceless : splitService false name = (name, none)
  /-- No path begins in it. -/
  solid : ∀ c ∈ name, isSlash true c = false
  /-- There is something. -/
  nonempty : name ≠ []

theorem IsHostName.hostAndService_eq (h : IsHostName name) :
    hostAndService name = (name, none) := by
  rw [hostAndService, h.userless, h.serviceless]

/-- A host is located. -/
theorem IsHostName.locates (h : IsHostName name) (hspecial : isSpecial scheme = false) :
    ∃ host, Locates scheme name host none := by
  obtain ⟨host, hhost⟩ := h.free
  have hdigits : serviceDigits name = [] := by
    rw [serviceDigits, h.hostAndService_eq]
    rfl
  have hafter : afterService name = [] := by
    rw [afterService, hdigits, h.hostAndService_eq]
    rfl
  refine ⟨host, ?_, ?_, ?_, ?_, ?_⟩
  · rw [hostOf, hspecial, if_neg Bool.false_ne_true, h.hostAndService_eq, hhost]
  · rw [hdigits]
    rfl
  · simp [h.hostAndService_eq]
  · simp [hafter]
  · simp [h.hostAndService_eq, h.nonempty]

theorem IsHostName.takeWhile_eq (h : IsHostName name) (special : Bool) (path : List Char) :
    (name ++ '/' :: path).takeWhile (!isSlash special ·) = name := by
  have hsolid : ∀ c ∈ name, (!isSlash special c) = true := by
    intro c hc
    have hslash := h.solid c hc
    cases special with
    | true => simp [hslash]
    | false =>
      simp only [isSlash, Bool.or_eq_false_iff] at hslash
      simp [isSlash, hslash.1]
  rw [takeWhile_append_path, List.takeWhile_eq_self_iff.2 hsolid]

theorem IsHostName.afterSlashes (h : IsHostName name) (hspecial : isSpecial scheme = false)
    (path : List Char) (last : Bool) :
    ∃ url, afterSlashes scheme (name ++ '/' :: path) last = .ok url := by
  obtain ⟨host, hlocates⟩ := h.locates hspecial
  have hname := h.takeWhile_eq (isSpecial scheme) path
  refine ⟨_, afterSlashes_eq_ok.2 ⟨?_, host, none, hname.symm ▸ hlocates, rfl⟩⟩
  rw [hname]
  rintro ⟨rfl, -⟩
  exact absurd h.userless (by decide)

/-! ## What stands between the scheme and the query -/

theorem ne_file_of_not_special (hspecial : isSpecial scheme = false) : scheme ≠ "file" := by
  rintro rfl
  exact absurd hspecial (by decide)

theorem body_slashes (hspecial : isSpecial scheme = false) (text : List Char) (last : Bool) :
    body scheme ('/' :: '/' :: text) last = afterSlashes scheme text last := by
  rw [body, if_neg (ne_file_of_not_special hspecial), hspecial, if_neg Bool.false_ne_true]

/-- Without two slashes there is nothing to go wrong where no host is prescribed. -/
theorem body_of_no_slashes {text : List Char} (hspecial : isSpecial scheme = false)
    (h : ∀ rest, text ≠ '/' :: '/' :: rest) (last : Bool) :
    ∃ url, body scheme text last = .ok url := by
  unfold body
  rw [if_neg (ne_file_of_not_special hspecial), hspecial, if_neg Bool.false_ne_true]
  split
  · next rest => exact absurd rfl (h rest)
  · exact ⟨_, rfl⟩
  · exact ⟨_, rfl⟩

/-- What is put after an address: a name, and more after another slash. -/
def below (name rest : List Char) : List Char := '/' :: (name ++ '/' :: rest)

theorem below_append (name rest more : List Char) :
    below name rest ++ more = below name (rest ++ more) := by
  rw [below, below, List.cons_append, List.append_assoc, List.cons_append]

/-- Two slashes in a row are not made by it alone. -/
theorem eq_of_append_below (hname : IsHostName name) {a b : Char} {text : List Char}
    (hb : isSlash true b = true) (h : front ++ below name rest = a :: b :: text) :
    front = [a] ∨ ∃ more, front = a :: b :: more := by
  cases front with
  | nil =>
    obtain ⟨c, name, rfl⟩ := List.exists_cons_of_ne_nil hname.nonempty
    obtain ⟨rfl, -⟩ := List.cons.inj (List.cons.inj h).2
    rw [hname.solid _ List.mem_cons_self] at hb
    cases hb
  | cons c front =>
    obtain ⟨rfl, hrest⟩ := List.cons.inj h
    cases front with
    | nil => exact .inl rfl
    | cons d front =>
      obtain ⟨rfl, -⟩ := List.cons.inj hrest
      exact .inr ⟨front, rfl⟩

/-- Where no host is prescribed, a path can be put after anything but a lone at sign. -/
theorem body_append_free {root : Url} (hspecial : isSpecial scheme = false)
    (h : body scheme (front ++ slashes) true = .ok root) (hslashes : ∀ c ∈ slashes, c = '/')
    (hhosted : front ++ slashes ≠ ['/', '/', '@']) (hname : IsHostName name) (rest : List Char) :
    ∃ url, body scheme (front ++ below name rest) true = .ok url := by
  by_cases hdouble : ∃ text, front ++ below name rest = '/' :: '/' :: text
  · obtain ⟨text, htext⟩ := hdouble
    rcases eq_of_append_below hname rfl htext with rfl | ⟨more, rfl⟩
    -- the second slash is the one of the path, so the name after it is read as the host
    · rw [List.singleton_append, below, body_slashes hspecial]
      exact hname.afterSlashes hspecial rest true
    · rw [List.cons_append, List.cons_append, body_slashes hspecial] at h ⊢
      exact afterSlashes_append h hslashes (fun heq => hhosted (heq ▸ rfl)) _ true
  · exact body_of_no_slashes hspecial (fun text htext => hdouble ⟨text, htext⟩) true

/-- Where a host is prescribed, it is there already. -/
theorem body_append_special {root : Url} (hspecial : isSpecial scheme = true)
    (hfile : scheme ≠ "file") (h : body scheme (front ++ slashes) true = .ok root)
    (hslashes : ∀ c ∈ slashes, c = '/') (path : List Char) :
    ∃ url, body scheme (front ++ '/' :: path) true = .ok url := by
  have hall : ∀ c ∈ slashes, isSlash true c = true := fun c hc => by
    rw [hslashes c hc]
    rfl
  have hbody (text : List Char) :
      body scheme text true = afterSlashes scheme (text.dropWhile (isSlash true)) true := by
    unfold body
    rw [if_neg hfile, if_pos hspecial]
  rw [hbody, List.dropWhile_append] at h
  rw [hbody, List.dropWhile_append]
  split at h
  -- with nothing but slashes before the path, the host was empty
  · rw [List.dropWhile_eq_nil_iff.2 hall] at h
    obtain ⟨-, host, service, hlocates, -⟩ := afterSlashes_eq_ok.1 h
    exact absurd rfl (hlocates.host_ne_nil hspecial)
  · next hfront =>
    rw [if_neg hfront]
    refine afterSlashes_append h hslashes (fun hat => ?_) path true
    rw [hat] at h
    obtain ⟨-, host, service, hlocates, -⟩ := afterSlashes_eq_ok.1 h
    have hne := hlocates.host_ne_nil hspecial
    rw [hspecial] at hne
    exact hne (by decide)

/-- A file with two slashes is read if the host is one. -/
theorem exists_file_slashes {a b : Char} {text : List Char}
    (hslashes : (isSlash true a && isSlash true b) = true) :
    (∃ url, file (a :: b :: text) = .ok url) ↔
      isDrive (text.takeWhile (!isSlash true ·)) = true ∨
        ∃ host, fileHost (text.takeWhile (!isSlash true ·)) = .ok host := by
  rw [file_slashes hslashes]
  split
  · next hdrive => exact ⟨fun _ => .inl hdrive, fun _ => ⟨_, rfl⟩⟩
  · next hdrive =>
    rw [or_iff_right hdrive]
    cases fileHost (text.takeWhile (!isSlash true ·)) with
    | error cause => simp [Except.map]
    | ok host => simp [Except.map]

/-- The host of a file stays. -/
theorem file_append {root : Url} (h : file (front ++ slashes) = .ok root)
    (hslashes : ∀ c ∈ slashes, c = '/') (hname : IsHostName name) (rest : List Char) :
    ∃ url, file (front ++ below name rest) = .ok url := by
  by_cases hdouble : ∃ a b text, front ++ below name rest = a :: b :: text ∧
      (isSlash true a && isSlash true b) = true
  · obtain ⟨a, b, text, htext, hboth⟩ := hdouble
    rcases eq_of_append_below hname (Bool.and_eq_true_iff.1 hboth).2 htext with rfl | ⟨more, rfl⟩
    -- the second slash is the one of the path, so the name after it is read as the host
    · obtain ⟨-, hrest⟩ := List.cons.inj htext
      obtain ⟨rfl, rfl⟩ := List.cons.inj hrest
      rw [htext]
      refine (exists_file_slashes hboth).2 (.inr ?_)
      rw [hname.takeWhile_eq, fileHost, if_neg (by simp [hname.nonempty])]
      exact hname.prescribed
    · rw [List.cons_append, List.cons_append] at h ⊢
      have hread := (exists_file_slashes hboth).1 ⟨root, h⟩
      rw [takeWhile_append_slashes hslashes] at hread
      refine (exists_file_slashes hboth).2 ?_
      rw [below, takeWhile_append_path]
      exact hread
  · refine ⟨_, file_of_no_slashes fun a b text htext => ?_⟩
    exact Bool.eq_false_iff.2 fun hboth => hdouble ⟨a, b, text, htext, hboth⟩

/-- A path can be put after anything but a lone at sign. -/
theorem body_append {root : Url} (h : body scheme (front ++ slashes) true = .ok root)
    (hslashes : ∀ c ∈ slashes, c = '/') (hhosted : front ++ slashes ≠ ['/', '/', '@'])
    (hname : IsHostName name) (rest : List Char) :
    ∃ url, body scheme (front ++ below name rest) true = .ok url := by
  by_cases hfile : scheme = "file"
  · subst hfile
    exact file_append h hslashes hname rest
  cases hspecial : isSpecial scheme with
  | true => exact body_append_special hspecial hfile h hslashes _
  | false => exact body_append_free hspecial h hslashes hhosted hname rest

/-! ## Whole addresses -/

/-- A path can be put after an address: nothing at its end counts for nothing, and there is more
after its scheme than an at sign. -/
structure Extensible (base : String) : Prop where
  /-- What stands last can be seen. -/
  visible : ∀ c ∈ base.toList.getLast?, 0x20 < c.toNat
  /-- No lone at sign stands last. -/
  hosted : ¬ ['/', '/', '@'] <:+ cleaned base.toList

/-- What a text without query and fragment is read as. -/
theorem parse_bare_eq_ok {text : String} (hbare : Bare text.toList) : parse text = .ok url ↔
    ∃ scheme rest built, scheme? (cleaned text.toList) = some (scheme, rest) ∧
      body scheme rest true = .ok built ∧ url = { built with query := none, fragment := none } := by
  rw [parse_eq_ok]
  refine exists_congr fun scheme => exists_congr fun rest => exists_congr fun built =>
    and_congr_right fun hscheme => ?_
  have hrest : Bare rest := (bare_iff_of_scheme? hscheme).1 (bare_cleaned.2 hbare)
  rw [splitTail_of_bare hrest]
  rfl

theorem cleaned_append_below (hvisible : ∀ c ∈ below name rest, 0x20 < c.toNat) :
    cleaned (front ++ below name rest) = begun front ++ below name rest := by
  have hlast : (front ++ below name rest).getLast? = (below name rest).getLast? :=
    List.getLast?_append_of_ne_nil _ (List.cons_ne_nil _ _)
  rw [cleaned_eq_begun, begun_append hvisible]
  intro c hc
  rw [hlast] at hc
  exact hvisible c (List.mem_of_getLast? hc)

/-- A path put after an address without query and fragment, in place of slashes at its end, makes
an address. -/
theorem exists_parse_append {base : String} {root : Url} (h : parse base = .ok root)
    (hbare : Bare base.toList) (hbase : Extensible base) (hsplit : base.toList = front ++ slashes)
    (hslashes : ∀ c ∈ slashes, c = '/') (hname : IsHostName name)
    (hvisible : ∀ c ∈ below name rest, 0x20 < c.toNat) (hpath : Bare (below name rest)) :
    ∃ url, parse (.ofList (front ++ below name rest)) = .ok url := by
  obtain ⟨scheme, text, built, hscheme, hbuilt, -⟩ := (parse_bare_eq_ok hbare).1 h
  have hcleaned : cleaned base.toList = begun front ++ slashes := by
    rw [cleaned_eq_begun hbase.visible, hsplit, begun_append]
    intro c hc
    rw [hslashes c hc]
    decide
  have hcolon : ':' ∉ slashes := fun hmem => absurd (hslashes _ hmem) (by decide)
  rw [hcleaned] at hscheme
  obtain ⟨text, rfl, hscheme'⟩ := scheme?_append hscheme hcolon
  have hhosted : text ++ slashes ≠ ['/', '/', '@'] := by
    intro hat
    obtain ⟨letters, hletters, -⟩ := scheme?_eq_some.1 hscheme
    apply hbase.hosted
    rw [hcleaned, hletters, hat]
    exact (List.suffix_cons _ _).trans (List.suffix_append _ _)
  obtain ⟨url, hurl⟩ := body_append hbuilt hslashes hhosted hname rest
  have hbare' : Bare (String.ofList (front ++ below name rest)).toList := by
    rw [String.toList_ofList, bare_append]
    exact ⟨(bare_append.1 (hsplit ▸ hbare)).1, hpath⟩
  refine ⟨_, (parse_bare_eq_ok hbare').2 ⟨scheme, _, url, ?_, hurl, rfl⟩⟩
  rw [String.toList_ofList, cleaned_append_below hvisible]
  exact hscheme' _

end AlertDetail.Url

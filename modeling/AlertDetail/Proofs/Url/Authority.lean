import AlertDetail.Url.Parse

/-!
# Between the slashes and the path

What stands between the two slashes after a scheme and the path names user, host and service.
Whether an address can be read depends on nothing that comes later, but for an at sign that stands
there alone: it is taken for an empty host only at the end of a text.
-/

namespace AlertDetail.Url

variable {scheme : String} {text authority : List Char} {last : Bool} {url : Url}

/-- User and password, and what follows them. -/
def userAndHost (authority : List Char) : List Char × List Char :=
  (splitUser? authority).getD ([], authority)

/-- The host, and what follows the colon after it. -/
def hostAndService (authority : List Char) : List Char × Option (List Char) :=
  splitService false (userAndHost authority).2

/-- The digits of the service. -/
def serviceDigits (authority : List Char) : List Char :=
  ((hostAndService authority).2.getD []).takeWhile Char.isDigit

/-- What follows the digits of the service. -/
def afterService (authority : List Char) : List Char :=
  ((hostAndService authority).2.getD []).drop (serviceDigits authority).length

/-- The segments of the path, some of which may begin before its first slash. -/
def segmentsAfter (scheme : String) (authority path : List Char) : List String :=
  let rest := afterService authority
  if rest.isEmpty then
    if path.isEmpty ∧ !isSpecial scheme then [] else segmentsOf (isSpecial scheme) (path.drop 1)
  else segmentsOf (isSpecial scheme) (rest ++ path)

/-- The address with the user and the password, before it is known whether the host is one. -/
def named (scheme : String) (authority : List Char) (segments : List String) : Url where
  scheme := scheme
  user := escapedText userReserved ((userAndHost authority).1.takeWhile (· ≠ ':'))
  password := escapedText userReserved (((userAndHost authority).1.dropWhile (· ≠ ':')).drop 1)
  path := .segments segments

/-- A host and a service are named, and nothing is wrong about how they are. -/
structure Locates (scheme : String) (authority : List Char) (host : Host)
    (service : Option Nat) : Prop where
  /-- The text of the host is that host. -/
  host_eq : hostOf scheme (hostAndService authority).1 = .ok host
  /-- The digits number that service. -/
  service_eq : serviceOf scheme (serviceDigits authority) = .ok service
  /-- A service is that of a host. -/
  service_hosted : ¬ ((hostAndService authority).1.isEmpty ∧ (hostAndService authority).2.isSome)
  /-- The digits end before the path. -/
  digits_end : ¬ (!(afterService authority).isEmpty ∧ (afterService authority).head? ≠ some '\\')
  /-- A user is one of a host. -/
  user_hosted : ¬ ((hostAndService authority).1.isEmpty ∧
    (named scheme authority []).credentialsText ≠ "")

/-- What comes after a check is reached if nothing is wrong. -/
theorem checked_eq_ok {α : Type} {wrong : Prop} [Decidable wrong] {cause : UrlError}
    {later : Except UrlError α} {result : α} :
    (do if wrong then throw cause
        later) = Except.ok result ↔ ¬ wrong ∧ later = .ok result := by
  by_cases h : wrong
  · simp [h, throw, throwThe, MonadExceptOf.throw, bind, Except.bind]
  · simp [h]

/-- What comes after a result is reached with that result. -/
theorem bind_eq_ok {α β : Type} {first : Except UrlError α} {next : α → Except UrlError β}
    {result : β} : (first >>= next) = .ok result ↔ ∃ a, first = .ok a ∧ next a = .ok result := by
  cases first with
  | error cause => simp [bind, Except.bind]
  | ok a => simp [bind, Except.bind]

/-- What an address between its two slashes and its query is read as, and when it is read at all. -/
theorem afterSlashes_eq_ok :
    let authority := text.takeWhile (!isSlash (isSpecial scheme) ·)
    let path := text.drop authority.length
    afterSlashes scheme text last = .ok url ↔
      ¬ (authority = ['@'] ∧ !(path.isEmpty ∧ last)) ∧
      ∃ host service, Locates scheme authority host service ∧
        url = { named scheme authority (segmentsAfter scheme authority path) with
          host := some host, service := service } := by
  intro authority path
  refine checked_eq_ok.trans (and_congr_right fun _ => ?_)
  refine bind_eq_ok.trans (exists_congr fun host => ?_)
  constructor
  · rintro ⟨hhost, hlater⟩
    obtain ⟨hhosted, hlater⟩ := checked_eq_ok.1 hlater
    obtain ⟨service, hservice, hlater⟩ := bind_eq_ok.1 hlater
    obtain ⟨hdigits, hlater⟩ := checked_eq_ok.1 hlater
    obtain ⟨huser, hlater⟩ := checked_eq_ok.1 hlater
    exact ⟨service, ⟨hhost, hservice, hhosted, hdigits, huser⟩, (Except.ok.inj hlater).symm⟩
  · rintro ⟨service, h, rfl⟩
    refine ⟨h.host_eq, checked_eq_ok.2 ⟨h.service_hosted, ?_⟩⟩
    refine bind_eq_ok.2 ⟨service, h.service_eq, checked_eq_ok.2 ⟨h.digits_end, ?_⟩⟩
    exact checked_eq_ok.2 ⟨h.user_hosted, rfl⟩

/-! ## Files -/

/-- The host of a file, the machine itself if it is empty. -/
def fileHost (text : List Char) : Except UrlError Host :=
  if text.isEmpty then pure (.name "") else Host.parse text

/-- The address of a file with its path on a host, which may be the machine itself. -/
def fileAt (host : Host) (path : List Char) : Url :=
  if host = .name "" ∨ host = .name "localhost" then fileOn (.name "") path
  else fileOn host (path.drop 1)

/-- With two slashes the host is read. -/
theorem file_slashes {a b : Char} {rest : List Char}
    (hslashes : (isSlash true a && isSlash true b) = true) :
    let hostText := rest.takeWhile (!isSlash true ·)
    file (a :: b :: rest) =
      if isDrive hostText then .ok (fileOn (.name "") rest)
      else (fileHost hostText).map (fileAt · (rest.drop hostText.length)) := by
  intro hostText
  have hplaced (host : Host) (path : List Char) :
      (if host = .name "" ∨ host = .name "localhost" then pure (fileOn (.name "") path)
        else pure (fileOn host (path.drop 1)) : Except UrlError Url) =
      .ok (fileAt host path) := by
    rw [fileAt]
    split
    · rfl
    · rfl
  rw [file, if_pos hslashes]
  refine ite_congr rfl (fun _ => rfl) fun _ => ?_
  by_cases hempty : hostText.isEmpty = true
  · rw [fileHost, if_pos hempty, if_pos hempty]
    exact hplaced (.name "") _
  · rw [fileHost, if_neg hempty, if_neg hempty]
    change (Host.parse hostText >>= _) = _
    cases Host.parse hostText with
    | error cause => rfl
    | ok host => exact hplaced host _

/-- Without two slashes it is read in any case. -/
theorem file_of_no_slashes
    (h : ∀ a b rest, text = a :: b :: rest → (isSlash true a && isSlash true b) = false) :
    file text = .ok (file.fileHere text) := by
  unfold file
  split
  · next a b rest => exact if_neg (by simp [h a b rest rfl])
  · rfl

end AlertDetail.Url

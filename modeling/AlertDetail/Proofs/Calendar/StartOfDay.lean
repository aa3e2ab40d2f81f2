import AlertDetail.Proofs.Calendar.Dates
import AlertDetail.Range
import Mathlib.Order.Bounds.Defs

/-!
# Starts of days

Where the clock of a zone is changed rarely and not by much, a time that it shows is shown first at
the instant at which the clock first reaches it, although it may be set back over it later; and a
time that it skips is never shown at all. So the search for the start of a day finds the first
instant of the day, be it midnight or what the clock shows after midnight was skipped.
-/

namespace AlertDetail.Zone

/-- Changes of a clock after an offset: each comes more than a day after the one before and changes
the clock by at most a day. -/
structure Rare (offset : Int) (changes : List (Int × Int)) : Prop where
  /-- Changes are more than a day apart. -/
  apart : changes.Pairwise fun change later => change.1 + daySeconds < later.1
  /-- The clock is changed by at most a day. -/
  jumps : (offset :: changes.map (·.2)).IsChain fun offset next => (next - offset).natAbs ≤ 86400

/-- A zone whose clock is changed rarely and not by much. An offset from universal time is less than
a day; two days are enough here. -/
structure Regular (zone : Zone) : Prop extends Rare zone.first zone.changes where
  /-- Offsets are at most two days. -/
  bounded : ∀ offset ∈ zone.first :: zone.changes.map (·.2), offset.natAbs ≤ 2 * 86400

/-- The clock skips a time at an instant: it shows an earlier one before and a later one then. -/
def Skips (zone : Zone) (shown instant : Int) : Prop :=
  zone.clockAt (instant - 1) < shown ∧ shown < zone.clockAt instant

section

variable {offset shown instant : Int} {changes : List (Int × Int)}

/-- After the first change the others are so as well. -/
theorem Rare.uncons {change : Int × Int} (h : Rare offset (change :: changes)) :
    (∀ later ∈ changes, change.1 + daySeconds < later.1) ∧
      (change.2 - offset).natAbs ≤ 86400 ∧ Rare change.2 changes := by
  obtain ⟨hlater, hapart⟩ := List.pairwise_cons.1 h.apart
  obtain ⟨hjump, hjumps⟩ := List.isChain_cons_cons.1 h.jumps
  exact ⟨hlater, hjump, hapart, hjumps⟩

/-- The offset in force is one of those given. -/
theorem offsetAfter_mem (offset instant : Int) (changes : List (Int × Int)) :
    offsetAfter offset instant changes ∈ offset :: changes.map (·.2) := by
  induction changes generalizing offset with
  | nil => exact List.mem_singleton_self _
  | cons change changes ih =>
    rw [offsetAfter]
    split
    · exact List.mem_cons_of_mem _ (ih change.2)
    · exact List.mem_cons_self

/-- From a change on the offset is the one after it. -/
theorem offsetAfter_cons_of_le {change : Int × Int} (h : change.1 ≤ instant) :
    offsetAfter offset instant (change :: changes) = offsetAfter change.2 instant changes :=
  if_pos h

/-- Before a change it is the one before it. -/
theorem offsetAfter_cons_of_lt {change : Int × Int} (h : instant < change.1) :
    offsetAfter offset instant (change :: changes) = offset :=
  if_neg (Int.not_le.2 h)

/-- Before the listed changes nothing changes. -/
theorem offsetAfter_of_lt (h : ∀ change ∈ changes, instant < change.1) :
    offsetAfter offset instant changes = offset := by
  cases changes with
  | nil => rfl
  | cons change changes => exact offsetAfter_cons_of_lt (h change List.mem_cons_self)

/-- Where the offset changes after a change, more than a day has passed. -/
theorem day_before_change {start : Int}
    (hstart : ∀ change ∈ changes, start + daySeconds < change.1)
    (hchanges : offsetAfter offset (instant - 1) changes ≠ offsetAfter offset instant changes) :
    start + daySeconds < instant := by
  have hsteady {time : Int} (h : time ≤ start + daySeconds) :
      offsetAfter offset time changes = offset :=
    offsetAfter_of_lt fun other hother => Int.lt_of_le_of_lt h (hstart other hother)
  by_contra hnot
  rw [hsteady (Int.not_lt.1 hnot), hsteady (by omega)] at hchanges
  exact hchanges rfl

/-- Once the clock was changed it never falls behind what it showed then: more than a day has passed
when it is set back, and it is set back by at most a day. -/
theorem Rare.le_clock {start : Int} (h : Rare offset changes)
    (hstart : ∀ change ∈ changes, start + daySeconds < change.1) (hle : start ≤ instant) :
    start + offset ≤ instant + offsetAfter offset instant changes := by
  induction changes generalizing start offset with
  | nil => exact Int.add_le_add_right hle offset
  | cons change changes ih =>
    obtain ⟨hlater, hjump, hrest⟩ := h.uncons
    have hfirst := hstart change List.mem_cons_self
    unfold daySeconds at hfirst
    by_cases hreached : change.1 ≤ instant
    · rw [offsetAfter_cons_of_le hreached]
      have hnext := ih hrest hlater hreached
      omega
    · rw [offsetAfter_cons_of_lt (Int.not_le.1 hreached)]
      omega

/-- Instants from a start on, or all of them if there is none. -/
def Since (start : Option Int) (instant : Int) : Prop :=
  ∀ since ∈ start, since ≤ instant

/-- The search compares an instant with its start so. -/
theorem all_le_iff {start : Option Int} : start.all (· ≤ instant) = true ↔ Since start instant := by
  unfold Since
  rw [Option.all_eq_true]
  exact forall₂_congr fun since _ => decide_eq_true_iff

/-- A start that is given has come at every later instant. -/
theorem since_some_iff {since : Int} : Since (some since) instant ↔ since ≤ instant := by
  simp [Since]

/-- The instant at which the clock shows a time is this time less the offset. -/
theorem Since.of_shown {start : Option Int} (h : Since start instant)
    (hshown : instant + offset = shown) : Since start (shown - offset) := by
  have hinstant : instant = shown - offset := by omega
  rwa [← hinstant]

/-- The clock shows a time at an instant, and does not reach it before from a start on. -/
structure FirstShown (start : Option Int) (offset shown : Int) (changes : List (Int × Int))
    (found : Int) : Prop where
  /-- The start has come. -/
  since : Since start found
  /-- The clock shows the time. -/
  shows : found + offsetAfter offset found changes = shown
  /-- It does not reach it before. -/
  least : ∀ instant, Since start instant → shown ≤ instant + offsetAfter offset instant changes →
    found ≤ instant

/-- A time that the clock shows before it is changed is first shown then. -/
theorem firstShown_before {start : Option Int} (hsince : Since start (shown - offset))
    (hbefore : ∀ change ∈ changes.head?, shown - offset < change.1) :
    FirstShown start offset shown changes (shown - offset) := by
  refine ⟨hsince, ?_, fun instant _ hreached => ?_⟩
  · cases changes with
    | nil => exact Int.sub_add_cancel _ _
    | cons change changes =>
      rw [offsetAfter_cons_of_lt (hbefore change rfl)]
      exact Int.sub_add_cancel _ _
  · cases changes with
    | nil =>
      rw [offsetAfter] at hreached
      omega
    | cons change changes =>
      have hlt := hbefore change rfl
      rw [offsetAfter] at hreached
      split at hreached <;> omega

/-- A time that it does not show before the change is first shown when it is from the change on. -/
theorem Rare.firstShown_behind {start : Option Int} {change : Int × Int} {found : Int}
    (hrare : Rare offset (change :: changes))
    (hstart : ∀ since ∈ start, ∀ later ∈ change :: changes, since + daySeconds < later.1)
    (hnot : ¬ (Since start (shown - offset) ∧ shown - offset < change.1))
    (h : FirstShown (some change.1) change.2 shown changes found) :
    FirstShown start offset shown (change :: changes) found := by
  have hchange : change.1 ≤ found := since_some_iff.1 h.since
  have hshown : found + offsetAfter offset found (change :: changes) = shown := by
    rw [offsetAfter_cons_of_le hchange]
    exact h.shows
  have hbegun (since : Int) (hmem : since ∈ start) : since ≤ found := by
    have hfirst := hstart since hmem change List.mem_cons_self
    unfold daySeconds at hfirst
    omega
  refine ⟨hbegun, hshown, fun instant hinstant hreached => ?_⟩
  by_cases hpast : change.1 ≤ instant
  · rw [offsetAfter_cons_of_le hpast] at hreached
    exact h.least instant (since_some_iff.2 hpast) hreached
  · rw [offsetAfter_cons_of_lt (Int.not_le.1 hpast)] at hreached
    -- the clock reaches the time before the change without showing it, so it was past the time
    -- when the search starts, and does not fall behind again
    refine absurd ⟨fun since hmem => ?_, by omega⟩ hnot
    have hahead := hrare.le_clock (hstart since hmem) (hbegun since hmem)
    omega

/-- What is found is the first instant from the start on at which the clock reaches the time. -/
theorem Rare.earliestAfter?_some {start : Option Int} {found : Int} (hrare : Rare offset changes)
    (hstart : ∀ since ∈ start, ∀ change ∈ changes, since + daySeconds < change.1)
    (h : earliestAfter? start offset shown changes = some found) :
    FirstShown start offset shown changes found := by
  induction changes generalizing start offset with
  | nil =>
    rw [earliestAfter?] at h
    split at h
    · next hsince =>
      obtain rfl := Option.some.inj h
      exact firstShown_before (all_le_iff.1 hsince) fun _ hnone => nomatch hnone
    · cases h
  | cons change changes ih =>
    obtain ⟨hlater, -, hrest⟩ := hrare.uncons
    rw [earliestAfter?] at h
    split at h
    · next hfound =>
      rw [Bool.and_eq_true, all_le_iff, decide_eq_true_eq] at hfound
      obtain rfl := Option.some.inj h
      refine firstShown_before hfound.1 fun first hfirst => ?_
      obtain rfl := Option.some.inj hfirst
      exact hfound.2
    · next hnot =>
      rw [Bool.and_eq_true, all_le_iff, decide_eq_true_eq] at hnot
      refine hrare.firstShown_behind hstart hnot (ih hrest (fun since hmem => ?_) h)
      obtain rfl := Option.some.inj hmem
      exact hlater

/-- Where nothing is found the clock never shows the time from the start on. -/
theorem earliestAfter?_none {start : Option Int}
    (h : earliestAfter? start offset shown changes = none) (hinstant : Since start instant) :
    instant + offsetAfter offset instant changes ≠ shown := by
  induction changes generalizing start offset with
  | nil =>
    rw [earliestAfter?] at h
    split at h
    · cases h
    · next hnot => exact fun hshown => hnot (all_le_iff.2 (hinstant.of_shown hshown))
  | cons change changes ih =>
    rw [earliestAfter?] at h
    split at h
    · cases h
    · next hnot =>
      rw [Bool.and_eq_true, all_le_iff, decide_eq_true_eq] at hnot
      by_cases hpast : change.1 ≤ instant
      · rw [offsetAfter_cons_of_le hpast]
        exact ih h (since_some_iff.2 hpast)
      · rw [offsetAfter_cons_of_lt (Int.not_le.1 hpast)]
        exact fun hshown => hnot ⟨hinstant.of_shown hshown, by omega⟩

/-- Where the offset changes the clock stays behind what it showed before until then, and does not
fall behind what it shows from then on. -/
theorem Rare.clock_split (h : Rare offset changes)
    (hchanges : offsetAfter offset (instant - 1) changes ≠ offsetAfter offset instant changes) :
    (∀ earlier, earlier < instant → earlier + offsetAfter offset earlier changes ≤
        instant - 1 + offsetAfter offset (instant - 1) changes) ∧
      ∀ later, instant ≤ later → instant + offsetAfter offset instant changes ≤
        later + offsetAfter offset later changes := by
  induction changes generalizing offset with
  | nil => exact absurd rfl hchanges
  | cons change changes ih =>
    obtain ⟨hlater, hjump, hrest⟩ := h.uncons
    rcases Int.lt_trichotomy instant change.1 with hlt | heq | hgt
    · rw [offsetAfter_cons_of_lt hlt, offsetAfter_cons_of_lt (by omega)] at hchanges
      exact absurd rfl hchanges
    · subst heq
      constructor
      · intro earlier hearlier
        rw [offsetAfter_cons_of_lt hearlier, offsetAfter_cons_of_lt (by omega)]
        omega
      · intro later hle
        have hnow : offsetAfter change.2 change.1 changes = change.2 := by
          refine offsetAfter_of_lt fun other hother => ?_
          have hbehind := hlater other hother
          unfold daySeconds at hbehind
          omega
        rw [offsetAfter_cons_of_le hle, offsetAfter_cons_of_le (Int.le_refl _), hnow]
        exact hrest.le_clock hlater hle
    · have hreached : change.1 ≤ instant - 1 := by omega
      rw [offsetAfter_cons_of_le hreached, offsetAfter_cons_of_le (by omega)] at hchanges
      obtain ⟨hbehind, hahead⟩ := ih hrest hchanges
      constructor
      · intro earlier hearlier
        rw [offsetAfter_cons_of_le hreached]
        by_cases hpast : change.1 ≤ earlier
        · rw [offsetAfter_cons_of_le hpast]
          exact hbehind earlier hearlier
        · -- a day after the change the clock is past all that it showed before the change
          have hday := hbehind _ (day_before_change hlater hchanges)
          have hsteady : offsetAfter change.2 (change.1 + daySeconds) changes = change.2 :=
            offsetAfter_of_lt hlater
          rw [hsteady] at hday
          rw [offsetAfter_cons_of_lt (by omega)]
          unfold daySeconds at hday
          omega
      · intro later hle
        rw [offsetAfter_cons_of_le (Int.le_of_lt hgt), offsetAfter_cons_of_le (by omega)]
        exact hahead later hle

end

variable {zone : Zone} {date : Date} {shown instant : Int}

/-- A zone shows every time that is found for it at the first instant at which its clock reaches
it. -/
theorem Rare.earliest?_some (h : Rare zone.first zone.changes) {found : Int}
    (hfound : zone.earliest? shown = some found) :
    zone.clockAt found = shown ∧ ∀ instant, shown ≤ zone.clockAt instant → found ≤ instant := by
  have hfirst : FirstShown none zone.first shown zone.changes found :=
    h.earliestAfter?_some (fun _ hmem => nomatch hmem) hfound
  exact ⟨hfirst.shows, fun instant => hfirst.least instant fun _ hmem => nomatch hmem⟩

/-- It never shows a time for which no instant is found. -/
theorem earliest?_none (h : zone.earliest? shown = none) (instant : Int) :
    zone.clockAt instant ≠ shown :=
  earliestAfter?_none h fun _ hmem => nomatch hmem

/-- The first instant at which the clock reaches a time is found if it shows the time then. -/
theorem Rare.earliest?_eq (h : Rare zone.first zone.changes) (hshown : zone.clockAt instant = shown)
    (hleast : ∀ earlier, shown ≤ zone.clockAt earlier → instant ≤ earlier) :
    zone.earliest? shown = some instant := by
  cases hfound : zone.earliest? shown with
  | none => exact absurd hshown (earliest?_none hfound instant)
  | some found =>
    obtain ⟨hsame, hfirst⟩ := h.earliest?_some hfound
    have hle := hfirst instant (Int.le_of_eq hshown.symm)
    have hge := hleast found (Int.le_of_eq hsame.symm)
    rw [Int.le_antisymm hle hge]

/-- Where the clock skips a time it has shown only earlier ones before and shows only later ones
from then on. -/
theorem Rare.skips (h : Rare zone.first zone.changes) (hskips : zone.Skips shown instant)
    (other : Int) :
    (other < instant → zone.clockAt other < shown) ∧
      (instant ≤ other → zone.clockAt instant ≤ zone.clockAt other) := by
  obtain ⟨hbefore, hbehind⟩ := hskips
  have hchanges : offsetAfter zone.first (instant - 1) zone.changes ≠
      offsetAfter zone.first instant zone.changes := by
    intro hsame
    unfold clockAt offsetAt at hbefore hbehind
    omega
  obtain ⟨hearlier, hlater⟩ := h.clock_split hchanges
  exact ⟨fun hlt => Int.lt_of_le_of_lt (hearlier other hlt) hbefore, hlater other⟩

/-- The search for the start of a day ends at the first minute that the clock shows. -/
theorem startOfDay?_eq_some {minutes : Nat} {found : Int} (hminutes : minutes ≤ searchedMinutes)
    (hfound : zone.earliest? (date.number * daySeconds + 60 * minutes) = some found)
    (hinside : inCalendar (found * 1000) = true)
    (hskipped : ∀ earlier < minutes,
      zone.earliest? (date.number * daySeconds + 60 * (earlier : Nat)) = none) :
    zone.startOfDay? date = some (found * 1000) := by
  obtain ⟨behind, hbehind⟩ := Nat.exists_eq_add_of_le hminutes
  have hsplit : List.range (searchedMinutes + 1) =
      List.range minutes ++ minutes :: (List.range behind).map (minutes + 1 + ·) := by
    rw [hbehind, Nat.add_assoc, List.range_add, List.range_succ_eq_map]
    simp [Function.comp_def, Nat.add_assoc, Nat.add_comm 1]
  unfold startOfDay?
  rw [hsplit, List.findSome?_append, List.findSome?_eq_none_iff.2 fun earlier hearlier => ?_]
  · rw [Option.none_or, List.findSome?_cons]
    simp only [Int.ofNat_eq_natCast, hfound, hinside, if_true]
  · simp only [Int.ofNat_eq_natCast, hskipped earlier (List.mem_range.1 hearlier)]

/-- Where it ends the clock shows a minute that is searched, and no earlier minute is found inside
the calendar. -/
theorem startOfDay?_found {start : Int} (h : zone.startOfDay? date = some start) :
    ∃ minutes ≤ searchedMinutes, ∃ found, start = found * 1000 ∧
      zone.earliest? (date.number * daySeconds + 60 * (minutes : Nat)) = some found ∧
      inCalendar start = true ∧
      ∀ earlier < minutes, ∀ other,
        zone.earliest? (date.number * daySeconds + 60 * (earlier : Nat)) = some other →
          inCalendar (other * 1000) = false := by
  unfold startOfDay? at h
  obtain ⟨before, minutes, behind, hrange, hhit, hmissed⟩ := List.findSome?_eq_some_iff.1 h
  rw [List.range_eq_range', List.range'_eq_append_iff] at hrange
  obtain ⟨count, hcount, rfl, hrest⟩ := hrange
  have hminutes : minutes = count ∧ count ≤ searchedMinutes := by
    have hhead := congrArg List.head? hrest
    rw [List.head?_cons, List.head?_range'] at hhead
    split at hhead
    · contradiction
    · obtain rfl := Option.some.inj hhead
      omega
  obtain ⟨rfl, hminutes⟩ := hminutes
  dsimp only [Int.ofNat_eq_natCast] at hhit hmissed
  split at hhit
  · next found hfound =>
    split at hhit
    · next hinside =>
      obtain rfl := Option.some.inj hhit
      refine ⟨minutes, hminutes, found, rfl, hfound, hinside, ?_⟩
      intro earlier hearlier other hother
      have hmiss := hmissed earlier (by simpa using hearlier)
      rw [hother] at hmiss
      simpa using hmiss
    · contradiction
  · contradiction

/-- Of two days that have a start the later one starts later. -/
theorem Rare.startOfDay?_lt (h : Rare zone.first zone.changes) {later : Date}
    (hdates : date.number < later.number) {start start' : Int}
    (hstart : zone.startOfDay? date = some start)
    (hstart' : zone.startOfDay? later = some start') : start < start' := by
  obtain ⟨minutes, hminutes, found, rfl, hfound, -⟩ := startOfDay?_found hstart
  obtain ⟨minutes', -, found', rfl, hfound', -⟩ := startOfDay?_found hstart'
  obtain ⟨hshown, hleast⟩ := h.earliest?_some hfound
  obtain ⟨hshown', -⟩ := h.earliest?_some hfound'
  -- the searched minutes of the earlier day are over before the later one
  have hbefore : zone.clockAt found < zone.clockAt found' := by
    unfold searchedMinutes at hminutes
    unfold daySeconds at hshown hshown'
    omega
  have hle := hleast found' (by omega)
  have hne : found ≠ found' := by
    rintro rfl
    exact absurd hbefore (Int.lt_irrefl _)
  omega

/-- It ends nowhere if the clock skips midnight and all minutes that are searched. -/
theorem startOfDay?_eq_none (hskipped : ∀ minutes ≤ searchedMinutes,
      zone.earliest? (date.number * daySeconds + 60 * (minutes : Nat)) = none) :
    zone.startOfDay? date = none := by
  unfold startOfDay?
  rw [List.findSome?_eq_none_iff]
  intro minutes hminutes
  rw [List.mem_range] at hminutes
  simp only [Int.ofNat_eq_natCast, hskipped minutes (Nat.le_of_lt_succ hminutes)]

/-- An instant has the date of the day that the clock shows. -/
theorem date_eq_iff (hdate : date.Valid) {millis : Int} :
    zone.date millis = date ↔
      date.number * daySeconds ≤ zone.clockAt (millis / 1000) ∧
        zone.clockAt (millis / 1000) < date.number * daySeconds + daySeconds := by
  have hday : zone.date millis = Date.ofNumber (zone.clockAt (millis / 1000) / daySeconds) := rfl
  rw [hday, Date.ofNumber_eq_iff hdate]
  unfold daySeconds
  omega

/-- The first instant at which the clock reaches midnight is the first of the day if it shows a time
of the day then. -/
theorem isLeast_date (hdate : date.Valid) {found : Int}
    (hreached : date.number * daySeconds ≤ zone.clockAt found)
    (hsameDay : zone.clockAt found < date.number * daySeconds + daySeconds)
    (hleast : ∀ instant, date.number * daySeconds ≤ zone.clockAt instant → found ≤ instant) :
    IsLeast {millis | zone.date millis = date} (found * 1000) := by
  constructor
  · have hsecond : found * 1000 / 1000 = found := Int.mul_ediv_cancel found (by decide)
    refine (date_eq_iff hdate).2 ?_
    rw [hsecond]
    exact ⟨hreached, hsameDay⟩
  · intro millis hmillis
    have hle := hleast (millis / 1000) ((date_eq_iff hdate).1 hmillis).1
    omega

/-- Instants at which the clock shows the first hours of a day lie in the calendar, if the day is
more than two days inside it. -/
theorem Regular.inCalendar (h : zone.Regular)
    (hinside : Date.earliest.number + 2 < date.number ∧ date.number + 2 < Date.latest.number)
    {minutes : Nat} (hminutes : minutes ≤ searchedMinutes)
    (hshown : zone.clockAt instant = date.number * daySeconds + 60 * minutes) :
    inCalendar (instant * 1000) = true := by
  have hoffset := h.bounded _ (offsetAfter_mem zone.first instant zone.changes)
  unfold clockAt offsetAt daySeconds at hshown
  unfold searchedMinutes at hminutes
  have hfirst : (Date.mk Date.firstYear 1 1).number = Date.earliest.number := rfl
  have hlast : (Date.mk Date.lastYear 12 31).number = Date.latest.number := rfl
  unfold AlertDetail.inCalendar dayMillis
  rw [hfirst, hlast, Bool.and_eq_true, decide_eq_true_eq, decide_eq_true_eq]
  omega

/-- A day whose midnight the clock shows starts when it first does. -/
theorem Regular.startOfDay?_of_shown (h : zone.Regular) (hdate : date.Valid)
    (hinside : Date.earliest.number + 2 < date.number ∧ date.number + 2 < Date.latest.number)
    (hshown : zone.clockAt instant = date.number * daySeconds) :
    ∃ start, zone.startOfDay? date = some start ∧
      IsLeast {millis | zone.date millis = date} start := by
  have hmidnight : date.number * daySeconds + 60 * ((0 : Nat) : Int) =
      date.number * daySeconds := by
    rw [Int.natCast_zero, Int.mul_zero, Int.add_zero]
  cases hfound : zone.earliest? (date.number * daySeconds) with
  | none => exact absurd hshown (earliest?_none hfound instant)
  | some found =>
    obtain ⟨hsame, hleast⟩ := h.earliest?_some hfound
    have hcalendar : AlertDetail.inCalendar (found * 1000) = true :=
      h.inCalendar hinside (Nat.zero_le _) (hsame.trans hmidnight.symm)
    refine ⟨found * 1000, startOfDay?_eq_some (Nat.zero_le _) ?_ hcalendar ?_, ?_⟩
    · rw [hmidnight]
      exact hfound
    · intro earlier hearlier
      exact absurd hearlier (Nat.not_lt_zero earlier)
    · refine isLeast_date hdate (Int.le_of_eq hsame.symm) ?_ hleast
      rw [hsame]
      exact Int.lt_add_of_pos_right _ (by decide)

/-- A day whose midnight the clock skips to a whole minute, within what is searched, starts then. -/
theorem Regular.startOfDay?_of_skips (h : zone.Regular) (hdate : date.Valid)
    (hinside : Date.earliest.number + 2 < date.number ∧ date.number + 2 < Date.latest.number)
    {minutes : Nat} (hminutes : minutes ≤ searchedMinutes)
    (hskips : zone.Skips (date.number * daySeconds) instant)
    (hclock : zone.clockAt instant = date.number * daySeconds + 60 * (minutes : Nat)) :
    ∃ start, zone.startOfDay? date = some start ∧
      IsLeast {millis | zone.date millis = date} start := by
  have hbefore {other : Int} (hreached : date.number * daySeconds ≤ zone.clockAt other) :
      instant ≤ other := by
    by_contra hlt
    have hbehind := (h.skips hskips other).1 (Int.not_le.1 hlt)
    omega
  have hfound : zone.earliest? (date.number * daySeconds + 60 * (minutes : Nat)) = some instant :=
    h.earliest?_eq hclock fun earlier hreached => hbefore (by omega)
  refine ⟨instant * 1000, startOfDay?_eq_some hminutes hfound
    (h.inCalendar hinside hminutes hclock) ?_, ?_⟩
  · -- the minutes before are skipped as well
    intro earlier hearlier
    cases hnone : zone.earliest? (date.number * daySeconds + 60 * (earlier : Nat)) with
    | none => rfl
    | some other =>
      obtain ⟨hshown, -⟩ := h.earliest?_some hnone
      have hpast := (h.skips hskips other).2 (hbefore (by omega))
      omega
  · have hsameDay : 60 * ((minutes : Nat) : Int) < daySeconds := by
      unfold searchedMinutes at hminutes
      unfold daySeconds
      omega
    refine isLeast_date hdate ?_ ?_ fun other => hbefore
    · rw [hclock]
      omega
    · rw [hclock]
      exact Int.add_lt_add_left hsameDay _

/-- A day of which the clock shows none of the minutes that are searched has no start. -/
theorem Regular.startOfDay?_of_skipped (h : zone.Regular)
    (hskipped : ∀ minutes ≤ searchedMinutes, ∀ instant,
      zone.clockAt instant ≠ date.number * daySeconds + 60 * (minutes : Nat)) :
    zone.startOfDay? date = none := by
  refine startOfDay?_eq_none fun minutes hminutes => ?_
  cases hfound : zone.earliest? (date.number * daySeconds + 60 * (minutes : Nat)) with
  | none => rfl
  | some found => exact absurd (h.earliest?_some hfound).1 (hskipped minutes hminutes found)

/-- A window whose first day or whose tomorrow has no start is refused. -/
theorem ofWindow_of_no_start (hnone : zone.startOfDay? date = none) {now window : Int}
    (hday : zone.date (now - AnalysisRange.effectiveWindow window) = date ∨
      (zone.date now).next? = some date) :
    ∃ message, AnalysisRange.ofWindow now window zone = .error (.validation message) := by
  have hstart {other : Date} (h : zone.startOfDay? other = none) :
      AnalysisRange.startOfDay zone other =
        .error (.validation ("no local midnight on " ++ other.text)) := by
    simp only [AnalysisRange.startOfDay, h]
  unfold AnalysisRange.ofWindow
  dsimp only
  cases inCalendar (now - AnalysisRange.effectiveWindow window) with
  | false => exact ⟨_, rfl⟩
  | true =>
    cases hnext : (zone.date now).next? with
    | none => exact ⟨_, rfl⟩
    | some tomorrow =>
      cases hfirst : zone.startOfDay? (zone.date (now - AnalysisRange.effectiveWindow window)) with
      | none =>
        rw [hstart hfirst]
        exact ⟨_, rfl⟩
      | some start =>
        have hlast : zone.startOfDay? tomorrow = none := by
          rcases hday with rfl | hsame
          · cases hnone.symm.trans hfirst
          · cases hnext.symm.trans hsame
            exact hnone
        have hstarted : AnalysisRange.startOfDay zone
            (zone.date (now - AnalysisRange.effectiveWindow window)) = .ok start := by
          simp only [AnalysisRange.startOfDay, hfirst]
        rw [if_pos rfl]
        dsimp only
        rw [hstarted, hstart hlast]
        exact ⟨_, rfl⟩

/-- Take a zone whose clock is changed rarely and not by much, and a date more than two days inside
the calendar. If the clock shows midnight of the date, or skips it to a whole minute at most three
hours after it, the start of the day is the first of all instants of that date. If it shows neither
midnight nor any of the minutes of these three hours, the day has no start, and a window that begins
on it or whose tomorrow it is has no range. -/
theorem startOfDay?_isLeast (hzone : zone.Regular) (hdate : date.Valid)
    (hinside : Date.earliest.number + 2 < date.number ∧ date.number + 2 < Date.latest.number) :
    let midnight := date.number * daySeconds
    ((∃ instant, zone.clockAt instant = midnight) ∨
        (∃ instant, ∃ minutes ≤ 180, zone.Skips midnight instant ∧
          zone.clockAt instant = midnight + 60 * (minutes : Nat)) →
      ∃ start, zone.startOfDay? date = some start ∧
        IsLeast {millis | zone.date millis = date} start) ∧
    ((∀ minutes ≤ 180, ∀ instant, zone.clockAt instant ≠ midnight + 60 * (minutes : Nat)) →
      zone.startOfDay? date = none ∧
        ∀ now window, zone.date (now - AnalysisRange.effectiveWindow window) = date ∨
            (zone.date now).next? = some date →
          ∃ message, AnalysisRange.ofWindow now window zone = .error (.validation message)) := by
  intro midnight
  constructor
  · rintro (⟨instant, hshown⟩ | ⟨instant, minutes, hminutes, hskips, hclock⟩)
    · exact hzone.startOfDay?_of_shown hdate hinside hshown
    · exact hzone.startOfDay?_of_skips hdate hinside hminutes hskips hclock
  · intro hskipped
    have hnone : zone.startOfDay? date = none := hzone.startOfDay?_of_skipped hskipped
    exact ⟨hnone, fun now window hday => ofWindow_of_no_start hnone hday⟩

/-- Clocks that skipped the first hour of a day, so that the day began at one; and clocks that
skipped a whole day, which has no start, so that no window could be opened on the day before. -/
theorem startOfDay?_isLeast_skipped :
    let saoPaulo : Zone := ⟨"America/Sao_Paulo", -10800,
      [(1541300400, -7200), (1550368800, -10800)]⟩
    let apia : Zone := ⟨"Pacific/Apia", -36000, [(1325239200, 50400)]⟩
    saoPaulo.startOfDay? ⟨2018, 11, 4⟩ = some 1541300400000 ∧
      IsLeast {millis | saoPaulo.date millis = ⟨2018, 11, 4⟩} 1541300400000 ∧
      saoPaulo.reading 1541300400000 = ⟨⟨2018, 11, 4⟩, 3600⟩ ∧
      apia.startOfDay? ⟨2011, 12, 30⟩ = none ∧
      ∃ message, AnalysisRange.ofWindow 1325196000000 0 apia = .error (.validation message) := by
  intro saoPaulo apia
  have hsaoPaulo : saoPaulo.Regular := ⟨⟨by decide, by decide⟩, by decide⟩
  have hapia : apia.Regular := ⟨⟨by decide, by decide⟩, by decide⟩
  have hstart : saoPaulo.startOfDay? ⟨2018, 11, 4⟩ = some 1541300400000 := by
    decide +kernel
  have hsecond : saoPaulo.Skips ((Date.mk 2018 11 4).number * daySeconds) 1541300400 ∧
      saoPaulo.clockAt 1541300400 = (Date.mk 2018 11 4).number * daySeconds + 60 * (60 : Nat) := by
    unfold Skips
    decide +kernel
  have hshort : (Date.mk 2018 11 4).Valid := ⟨by decide, by decide⟩
  obtain ⟨start, hfound, hleast⟩ := (startOfDay?_isLeast hsaoPaulo hshort (by decide +kernel)).1
    (.inr ⟨1541300400, 60, by decide, hsecond.1, hsecond.2⟩)
  obtain rfl := Option.some.inj (hfound.symm.trans hstart)
  have hnumber : (Date.mk 2011 12 30).number * daySeconds = 1325203200 := by
    decide +kernel
  have hskipped : ∀ minutes ≤ 180, ∀ instant, apia.clockAt instant ≠
      (Date.mk 2011 12 30).number * daySeconds + 60 * (minutes : Nat) := by
    intro minutes hminutes instant
    rw [hnumber]
    simp only [apia, clockAt, offsetAt, offsetAfter]
    split <;> omega
  have hlost : (Date.mk 2011 12 30).Valid := ⟨by decide, by decide⟩
  obtain ⟨hnone, hwindow⟩ :=
    (startOfDay?_isLeast hapia hlost (by decide +kernel)).2 hskipped
  exact ⟨hstart, hleast, by decide +kernel, hnone, hwindow _ _ (.inr (by decide +kernel))⟩

end AlertDetail.Zone

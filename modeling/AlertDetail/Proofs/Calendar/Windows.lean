import AlertDetail.Calendar.ZoneTable
import AlertDetail.Proofs.Calendar.Months
import AlertDetail.Proofs.Calendar.StartOfDay
import Mathlib.Data.Int.LeastGreatest

/-!
# Windows that a view opens with

The range of a window goes from the start of the day on which the window began to the start of
tomorrow. It holds the whole window up to the present with two exceptions, both where a clock is
changed at midnight. A midnight that is skipped to a time between two minutes leaves a rest of a
minute before the first minute that is searched for, so a window that began in this rest begins
before its range. And where the clock is set back over midnight tomorrow has been there already, so
the range ends before the present.
-/

namespace AlertDetail.Zone

/-- A zone as records have it: its clock is changed rarely and not by much, and not before the
calendar is a day old. -/
structure Recorded (zone : Zone) : Prop extends Regular zone where
  /-- The first day of the calendar has no changes. -/
  begun : ∀ change ∈ zone.changes, Date.earliest.number * daySeconds + daySeconds < change.1

/-- Changes that are more than a day apart one after the other are so altogether. -/
theorem apart_of_isChain {changes : List (Int × Int)}
    (h : changes.IsChain fun change later => change.1 + daySeconds < later.1) :
    changes.Pairwise fun change later => change.1 + daySeconds < later.1 := by
  have htrans : IsTrans (Int × Int) fun change later => change.1 + daySeconds < later.1 :=
    ⟨fun first second third hfirst hsecond => by
      unfold daySeconds at hfirst hsecond ⊢
      omega⟩
  exact List.isChain_iff_pairwise.1 h

/-- The zones of the table are recorded so. -/
theorem recorded_of_mem_tabulated : ∀ zone ∈ tabulated, zone.Recorded := by
  have hlisted : ∀ zone ∈ tabulated,
      (zone.changes.IsChain fun change later => change.1 + daySeconds < later.1) ∧
      ((zone.first :: zone.changes.map (·.2)).IsChain
        fun offset next => (next - offset).natAbs ≤ 86400) ∧
      (∀ offset ∈ zone.first :: zone.changes.map (·.2), offset.natAbs ≤ 2 * 86400) ∧
      ∀ change ∈ zone.changes, Date.earliest.number * daySeconds + daySeconds < change.1 := by
    decide +kernel
  intro zone hzone
  obtain ⟨hapart, hjumps, hbounded, hbegun⟩ := hlisted zone hzone
  exact ⟨⟨⟨apart_of_isChain hapart, hjumps⟩, hbounded⟩, hbegun⟩

variable {zone : Zone} {date tomorrow : Date} {shown instant : Int}

/-- An instant in seconds lies in the calendar from the start of its first day on. -/
theorem le_of_inCalendar (h : inCalendar (instant * 1000) = true) :
    Date.earliest.number * daySeconds ≤ instant := by
  unfold inCalendar dayMillis at h
  unfold daySeconds
  rw [Bool.and_eq_true, decide_eq_true_eq, decide_eq_true_eq] at h
  have hfirst : (Date.mk Date.firstYear 1 1).number = Date.earliest.number := rfl
  omega

/-- A second in which an instant of the calendar falls lies in it. -/
theorem inCalendar_second {millis : Int} (h : inCalendar millis = true) :
    inCalendar (millis / 1000 * 1000) = true := by
  unfold inCalendar dayMillis at h ⊢
  rw [Bool.and_eq_true, decide_eq_true_eq, decide_eq_true_eq] at h ⊢
  omega

/-- What lies between two instants of the calendar lies in it. -/
theorem inCalendar_between {later : Int} (hlow : Date.earliest.number * daySeconds ≤ instant)
    (hhigh : instant ≤ later) (h : inCalendar (later * 1000) = true) :
    inCalendar (instant * 1000) = true := by
  unfold inCalendar dayMillis at h ⊢
  unfold daySeconds at hlow
  rw [Bool.and_eq_true, decide_eq_true_eq, decide_eq_true_eq] at h ⊢
  have hfirst : (Date.mk Date.firstYear 1 1).number = Date.earliest.number := rfl
  omega

/-- What the clock shows before the calendar begins it never shows again. -/
theorem Recorded.clock_lt (h : zone.Recorded)
    (hbefore : instant < Date.earliest.number * daySeconds) {later : Int} (hlt : instant < later) :
    zone.clockAt instant < zone.clockAt later := by
  have hsteady {time : Int} (htime : time ≤ Date.earliest.number * daySeconds + daySeconds) :
      zone.clockAt time = time + zone.first := by
    have hoffset : zone.offsetAt time = zone.first :=
      offsetAfter_of_lt fun change hchange => Int.lt_of_le_of_lt htime (h.begun change hchange)
    rw [clockAt, hoffset]
  have hday : (0 : Int) < daySeconds := by decide
  rw [hsteady (by omega)]
  by_cases hsoon : later ≤ Date.earliest.number * daySeconds
  · rw [hsteady (by omega)]
    omega
  · have hahead := h.le_clock h.begun (show Date.earliest.number * daySeconds ≤ later by omega)
    unfold clockAt offsetAt
    omega

/-- Every time is first reached by the clock at some instant. -/
theorem Regular.exists_first (h : zone.Regular) (shown : Int) :
    ∃ instant, shown ≤ zone.clockAt instant ∧
      ∀ other, shown ≤ zone.clockAt other → instant ≤ other := by
  have hoffset (time : Int) : (zone.offsetAt time).natAbs ≤ 2 * 86400 :=
    h.bounded _ (offsetAfter_mem zone.first time zone.changes)
  refine Int.exists_least_of_bdd ⟨shown - 2 * 86400, fun time hreached => ?_⟩
    ⟨shown + 2 * 86400, ?_⟩
  · have hbound := hoffset time
    unfold clockAt at hreached
    omega
  · have hbound := hoffset (shown + 2 * 86400)
    unfold clockAt
    omega

/-- Where the clock reaches a time and falls behind it later, it is shown when it is first
reached. -/
theorem Regular.earliest?_of_set_back (h : zone.Regular) {later : Int}
    (hreached : shown ≤ zone.clockAt instant) (hle : instant ≤ later)
    (hbehind : zone.clockAt later < shown) :
    ∃ found ≤ instant, zone.earliest? shown = some found := by
  obtain ⟨found, hfound, hleast⟩ := h.exists_first shown
  have hbefore : found ≤ instant := hleast instant hreached
  refine ⟨found, hbefore, h.earliest?_eq ?_ hleast⟩
  by_contra hne
  have hskips : zone.Skips shown found := by
    refine ⟨?_, by omega⟩
    by_contra hnot
    have hle := hleast (found - 1) (by omega)
    omega
  have hahead := (h.skips hskips later).2 (by omega)
  omega

/-- A day starts at or before an instant exactly if the clock has shown a whole minute of the day by
then. -/
theorem Recorded.startOfDay?_le_iff (h : zone.Recorded) (hdate : date.Valid) {start millis : Int}
    (hstart : zone.startOfDay? date = some start) :
    start ≤ millis ↔ ∃ shown ≤ millis, inCalendar shown = true ∧ zone.date shown = date ∧
      (zone.reading shown).second % 60 = 0 := by
  obtain ⟨minutes, hminutes, found, rfl, hfound, hinside, hearlier⟩ := startOfDay?_found hstart
  obtain ⟨hshown, hleast⟩ := h.earliest?_some hfound
  have hsecond : found * 1000 / 1000 = found := Int.mul_ediv_cancel found (by decide)
  constructor
  · intro hle
    refine ⟨found * 1000, hle, hinside, ?_, ?_⟩
    · rw [date_eq_iff hdate, hsecond, hshown]
      unfold searchedMinutes at hminutes
      unfold daySeconds
      omega
    · unfold reading
      dsimp only
      rw [hsecond, hshown]
      unfold daySeconds
      omega
  · rintro ⟨shown, hle, hcalendar, hsame, hwhole⟩
    obtain ⟨hfrom, hbelow⟩ := (date_eq_iff hdate).1 hsame
    unfold reading at hwhole
    dsimp only at hwhole
    have hreached : date.number * daySeconds + 60 * (minutes : Nat) ≤
        zone.clockAt (shown / 1000) := by
      by_contra hnot
      -- an earlier minute is shown inside the calendar, so it was found outside of it
      obtain ⟨earlier, hsince⟩ : ∃ earlier : Nat,
          zone.clockAt (shown / 1000) = date.number * daySeconds + 60 * earlier := by
        refine ⟨((zone.clockAt (shown / 1000) - date.number * daySeconds) / 60).toNat, ?_⟩
        unfold daySeconds at hfrom hbelow hwhole ⊢
        omega
      cases hother : zone.earliest? (date.number * daySeconds + 60 * (earlier : Nat)) with
      | none => exact earliest?_none hother _ hsince
      | some other =>
        obtain ⟨hothers, hfirst⟩ := h.earliest?_some hother
        have hbefore : other ≤ shown / 1000 := hfirst _ (by omega)
        have houtside := hearlier earlier (by omega) other hother
        have hlow : other < Date.earliest.number * daySeconds := by
          by_contra hlow
          rw [inCalendar_between (Int.not_lt.1 hlow) hbefore (inCalendar_second hcalendar)]
            at houtside
          contradiction
        rcases Int.lt_or_eq_of_le hbefore with hlt | rfl
        · have hahead := h.clock_lt hlow hlt
          omega
        · have hhigh := le_of_inCalendar (inCalendar_second hcalendar)
          omega
    have hfirst := hleast _ hreached
    omega

/-- Tomorrow starts by now exactly if it has been there before. -/
theorem Recorded.startOfTomorrow_le_iff (h : zone.Recorded) {now stop : Int}
    (hnext : (zone.date now).next? = some tomorrow)
    (hstop : zone.startOfDay? tomorrow = some stop) :
    stop ≤ now ↔ ∃ earlier ≤ now, (zone.date now).next? = some (zone.date earlier) := by
  have htoday : (zone.date now).Valid := Date.valid_ofNumber _
  obtain ⟨hvalid, hnumber⟩ := Date.valid_next hnext
  obtain ⟨minutes, hminutes, found, rfl, hfound, hinside, hearlier⟩ := startOfDay?_found hstop
  obtain ⟨hshown, hleast⟩ := h.earliest?_some hfound
  have hsecond : found * 1000 / 1000 = found := Int.mul_ediv_cancel found (by decide)
  have hday : zone.clockAt (now / 1000) < tomorrow.number * daySeconds := by
    have hover := ((date_eq_iff htoday).1 rfl).2
    unfold daySeconds at hover ⊢
    omega
  constructor
  · intro hle
    refine ⟨found * 1000, hle, ?_⟩
    rw [hnext, Option.some.injEq, eq_comm, date_eq_iff hvalid, hsecond, hshown]
    unfold searchedMinutes at hminutes
    unfold daySeconds
    omega
  · rintro ⟨earlier, hle, hsame⟩
    rw [hnext, Option.some.injEq, eq_comm, date_eq_iff hvalid] at hsame
    have hseconds : earlier / 1000 ≤ now / 1000 := Int.ediv_le_ediv (by decide) hle
    obtain ⟨first, hbefore, hfirst⟩ := h.earliest?_of_set_back hsame.1 hseconds hday
    obtain ⟨hmidnight, hreached⟩ := h.earliest?_some hfirst
    have hfound' : first ≤ found := hreached found (by omega)
    have hlow : Date.earliest.number * daySeconds ≤ first := by
      by_contra hlow
      have hahead := h.clock_lt (Int.not_le.1 hlow) (show first < now / 1000 by
        rcases Int.lt_or_eq_of_le (Int.le_trans hbefore hseconds) with hlt | rfl
        · exact hlt
        · omega)
      omega
    have hmidnight' : minutes = 0 := by
      by_contra hpositive
      have houtside := hearlier 0 (Nat.pos_of_ne_zero hpositive) first (by simpa using hfirst)
      rw [inCalendar_between hlow hfound' hinside] at houtside
      contradiction
    subst hmidnight'
    have hback := hleast first (by
      rw [Int.natCast_zero, Int.mul_zero, Int.add_zero]
      exact Int.le_of_eq hmidnight.symm)
    omega

end AlertDetail.Zone

namespace AlertDetail.AnalysisRange

open Zone

variable {zone : Zone} {now window : Int} {range : AnalysisRange}

/-- A day that has a start. -/
theorem startOfDay_eq_ok {date : Date} {start : Int} (h : startOfDay zone date = .ok start) :
    zone.startOfDay? date = some start := by
  unfold startOfDay at h
  split at h
  · next instant hstart => rwa [← Except.ok.inj h]
  · contradiction

/-- The range of a window goes from the start of the day on which the window began to the start of
tomorrow. -/
theorem ofWindow_eq_ok (h : ofWindow now window zone = .ok range) :
    inCalendar (now - effectiveWindow window) = true ∧
      ∃ tomorrow, (zone.date now).next? = some tomorrow ∧
        zone.startOfDay? (zone.date (now - effectiveWindow window)) = some range.start ∧
        zone.startOfDay? tomorrow = some range.stop ∧ range.start < range.stop := by
  unfold ofWindow at h
  dsimp only at h
  cases hinside : inCalendar (now - effectiveWindow window) with
  | false =>
    rw [hinside] at h
    contradiction
  | true =>
    rw [hinside] at h
    cases hnext : (zone.date now).next? with
    | none =>
      rw [hnext] at h
      contradiction
    | some tomorrow =>
      rw [hnext] at h
      dsimp only at h
      cases hstart : startOfDay zone (zone.date (now - effectiveWindow window)) with
      | error cause =>
        rw [hstart] at h
        contradiction
      | ok start =>
        cases hstop : startOfDay zone tomorrow with
        | error cause =>
          rw [hstart, hstop] at h
          contradiction
        | ok stop =>
          rw [hstart, hstop] at h
          obtain ⟨hlt, rfl⟩ := new_eq_ok_iff.1 h
          exact ⟨rfl, tomorrow, rfl, startOfDay_eq_ok hstart, startOfDay_eq_ok hstop, hlt⟩

/-- So it starts before it ends, -/
theorem lt_of_ofWindow (h : ofWindow now window zone = .ok range) : range.start < range.stop := by
  obtain ⟨-, -, -, -, -, hlt⟩ := ofWindow_eq_ok h
  exact hlt

/-- as does every range whose bounds are checked. -/
theorem lt_of_new {start stop : Int} (h : new start stop = .ok range) :
    range.start < range.stop := by
  obtain ⟨hlt, rfl⟩ := new_eq_ok_iff.1 h
  exact hlt

/-- Take a recorded zone and a window that has a range. The range starts when the window began or
before, unless the clock has shown no whole minute of that day by then; and it ends after the
present, unless tomorrow has been there before. -/
theorem ofWindow_contains (hzone : zone.Recorded) (h : ofWindow now window zone = .ok range) :
    let began := now - effectiveWindow window
    (range.start ≤ began ↔ ∃ shown ≤ began, inCalendar shown = true ∧
        zone.date shown = zone.date began ∧ (zone.reading shown).second % 60 = 0) ∧
      (now < range.stop ↔
        ∀ earlier ≤ now, (zone.date now).next? ≠ some (zone.date earlier)) := by
  intro began
  obtain ⟨-, tomorrow, hnext, hstart, hstop, -⟩ := ofWindow_eq_ok h
  refine ⟨hzone.startOfDay?_le_iff (Date.valid_ofNumber _) hstart, ?_⟩
  have hover := hzone.startOfTomorrow_le_iff hnext hstop
  rw [← Int.not_le, hover]
  push Not
  rfl

/-- Half an hour before the clocks of Newfoundland were set back over midnight, when the range ended
with the day; -/
theorem ofWindow_contains_before_set_back :
    ofTable? "America/St_Johns" = some stJohns ∧
      ofWindow 1289095200000 0 stJohns = .ok ⟨1288837800000, 1289097000000⟩ ∧
      ∀ earlier ≤ 1289095200000,
        (stJohns.date 1289095200000).next? ≠ some (stJohns.date earlier) := by
  have hnamed : ofTable? "America/St_Johns" = some stJohns := by decide +kernel
  have hlisted : stJohns ∈ tabulated := by decide +kernel
  have hrange : ofWindow 1289095200000 0 stJohns = .ok ⟨1288837800000, 1289097000000⟩ := by
    decide +kernel
  have hcontains := ofWindow_contains (recorded_of_mem_tabulated _ hlisted) hrange
  exact ⟨hnamed, hrange, hcontains.2.1 (by decide)⟩

/-- and half an hour after it, when the day was there again and its range had ended; and a window
that began in the rest of a minute after the clocks of London had skipped a midnight. -/
theorem ofWindow_misses :
    (ofTable? "America/St_Johns" = some stJohns ∧
      ofWindow 1289098800000 0 stJohns = .ok ⟨1288924200000, 1289097000000⟩ ∧
      ¬ (1289098800000 : Int) < 1289097000000) ∧
    ofTable? "Europe/London" = some london ∧
      ofWindow (-3852489510000) 0 london = .ok ⟨-3852662280000, -3852403200000⟩ ∧
      ¬ (-3852662280000 : Int) ≤ -3852489510000 - effectiveWindow 0 := by
  decide +kernel

end AlertDetail.AnalysisRange

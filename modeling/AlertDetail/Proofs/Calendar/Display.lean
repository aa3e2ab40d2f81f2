import AlertDetail.Calendar.Display
import AlertDetail.Proofs.Calendar.Dates

/-!
# What the ends of a stretch of time say

Inside the calendar an end is written by the day, the hour and the minute that the clock of the zone
shows then, and these are the only ones. Outside the calendar it is written as a bare number.
-/

namespace AlertDetail.Zone

/-- A text is how an instant is written as one end of a stretch of time. -/
inductive Written (zone : Zone) (instant : Int) : String → Prop
  | shown {date : Date} {hour minute : Nat} (hinside : inCalendar instant = true)
    (hdate : date.Valid) (hhour : hour < 24) (hminute : minute < 60)
    (hclock : zone.clockAt (instant / 1000) / 60 = (date.number * 24 + hour) * 60 + minute) :
    Written zone instant
      (date.text ++ " " ++ Date.twoDigits hour ++ ":" ++ Date.twoDigits minute)
  | number (houtside : inCalendar instant = false) : Written zone instant (toString instant)

variable (zone : Zone) (instant : Int)

/-- A reading of the clock is the minutes that the clock shows, cut into days, hours and minutes. -/
theorem clockAt_reading : zone.clockAt (instant / 1000) / 60 =
    ((zone.reading instant).date.number * 24 + (zone.reading instant).hour) * 60 +
      (zone.reading instant).minute := by
  unfold reading Reading.hour Reading.minute daySeconds
  dsimp only
  rw [Date.number_ofNumber]
  omega

/-- Hours and minutes of a reading stay below those of a day and of an hour. -/
theorem reading_lt : (zone.reading instant).hour < 24 ∧ (zone.reading instant).minute < 60 := by
  unfold reading Reading.hour Reading.minute daySeconds
  dsimp only
  omega

variable {zone instant}

/-- An instant is written in one way only, that of the reports. -/
theorem written_iff {text : String} :
    zone.Written instant text ↔ text = zone.minuteText instant := by
  constructor
  · intro h
    cases h with
    | @shown date hour minute hinside hdate hhour hminute hclock =>
      have hread := zone.clockAt_reading instant
      obtain ⟨hhour', hminute'⟩ := zone.reading_lt instant
      have hday : (zone.reading instant).date = date := by
        have hnumber : (zone.reading instant).date.number = date.number := by omega
        rw [← Date.ofNumber_number hdate, ← hnumber]
        exact (Date.ofNumber_number (Date.valid_ofNumber _)).symm
      have hhours : (zone.reading instant).hour = hour := by omega
      have hminutes : (zone.reading instant).minute = minute := by omega
      simp only [minuteText, hinside, if_true, hday, hhours, hminutes]
    | number houtside => simp only [minuteText, houtside, Bool.false_eq_true, if_false]
  · rintro rfl
    unfold minuteText
    split
    · next hinside =>
      obtain ⟨hhour, hminute⟩ := zone.reading_lt instant
      exact .shown hinside (Date.valid_ofNumber _) hhour hminute (zone.clockAt_reading instant)
    · next houtside => exact .number (Bool.eq_false_iff.2 houtside)

end AlertDetail.Zone

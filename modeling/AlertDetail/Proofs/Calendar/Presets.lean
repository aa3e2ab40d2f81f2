import AlertDetail.Proofs.Calendar.Months
import AlertDetail.Proofs.Calendar.StartOfDay

/-!
# Ranges of presets

The ranges of all presets end at the start of tomorrow, and the longer one starts earlier: whatever
the day of the month and wherever the clock of the zone was changed, the first day of a longer
preset is an earlier day, and earlier days start earlier.
-/

namespace AlertDetail.RangePreset

variable {preset : RangePreset} {now : Int} {zone : Zone} {range : AnalysisRange}

/-- The range of a preset goes from the start of its first day to the start of tomorrow. -/
theorem range?_eq_some (h : preset.range? now zone = some range) :
    ∃ first tomorrow, preset.firstDay? (zone.date now) = some first ∧
      (zone.date now).next? = some tomorrow ∧ zone.startOfDay? first = some range.start ∧
      zone.startOfDay? tomorrow = some range.stop ∧ range.start < range.stop := by
  unfold range? at h
  simp only [bind, Option.bind_eq_some_iff] at h
  obtain ⟨first, hfirst, tomorrow, hnext, start, hstart, stop, hstop, hnew⟩ := h
  cases hrange : AnalysisRange.new start stop with
  | error cause =>
    rw [hrange] at hnew
    contradiction
  | ok valid =>
    obtain ⟨hlt, rfl⟩ := AnalysisRange.new_eq_ok_iff.1 hrange
    rw [hrange] at hnew
    obtain rfl := Option.some.inj hnew
    exact ⟨first, tomorrow, hfirst, hnext, hstart, hstop, hlt⟩

/-- So it starts before it ends. -/
theorem lt_of_range? (h : preset.range? now zone = some range) : range.start < range.stop := by
  obtain ⟨-, -, -, -, -, -, hlt⟩ := range?_eq_some h
  exact hlt

/-- A month ago is more than a week ago, and three months ago is before one month ago. -/
theorem firstDay?_earlier {today : Date} (htoday : today.Valid) :
    options.Pairwise fun shorter longer => ∀ first earlier,
      shorter.firstDay? today = some first → longer.firstDay? today = some earlier →
        earlier.number < first.number := by
  have hmonth {days : Int} {months : Nat} {first earlier : Date}
      (hfirst : today.minusDays? days = some first)
      (hearlier : today.minusMonths? months = some earlier) (hdays : days < 28)
      (hmonths : 0 < months) : earlier.number < first.number := by
    have hlong := htoday.minusMonths_le hearlier hmonths
    rw [Date.number_minusDays hfirst]
    omega
  unfold options
  simp only [List.pairwise_cons, List.mem_cons, List.not_mem_nil, or_false, forall_eq_or_imp,
    forall_eq, false_implies, implies_true, List.Pairwise.nil, and_true, firstDay?]
  refine ⟨⟨?week, ?_, ?_⟩, ⟨?_, ?_⟩, ?months⟩
  case week =>
    intro first earlier hfirst hearlier
    rw [Date.number_minusDays hfirst, Date.number_minusDays hearlier]
    omega
  case months =>
    intro first earlier hfirst hearlier
    exact htoday.minusMonths_lt hfirst hearlier (by decide)
  all_goals
    intro first earlier hfirst hearlier
    exact hmonth hfirst hearlier (by decide) (by decide)

/-- Where the clock of a zone is changed rarely and not by much, the ranges of the presets that have
one all end together, each starts before it ends, and of two of them the longer one starts
earlier. -/
theorem range?_nested (hzone : Zone.Rare zone.first zone.changes) (now : Int) :
    (options.Pairwise fun shorter longer => ∀ range wider,
      shorter.range? now zone = some range → longer.range? now zone = some wider →
        wider.stop = range.stop ∧ wider.start < range.start) ∧
      ∀ (preset : RangePreset) (range : AnalysisRange),
        preset.range? now zone = some range → range.start < range.stop := by
  have htoday : (zone.date now).Valid := Date.valid_ofNumber _
  constructor
  · refine (firstDay?_earlier htoday).imp fun hearlier range wider hrange hwider => ?_
    obtain ⟨first, tomorrow, hfirst, hnext, hstart, hstop, -⟩ := range?_eq_some hrange
    obtain ⟨first', tomorrow', hfirst', hnext', hstart', hstop', -⟩ := range?_eq_some hwider
    obtain rfl := Option.some.inj (hnext.symm.trans hnext')
    have hdates := hearlier first first' hfirst hfirst'
    exact ⟨Option.some.inj (hstop'.symm.trans hstop), hzone.startOfDay?_lt hdates hstart' hstart⟩
  · exact fun preset range hrange => lt_of_range? hrange

/-- A range whose first day began at one, because the clocks skipped its first hour, between those
of shorter and longer presets. -/
theorem range?_nested_skipped :
    let saoPaulo : Zone := ⟨"America/Sao_Paulo", -10800,
      [(1541300400, -7200), (1550368800, -10800)]⟩
    let noon : Int := 1543932000000
    hours48.range? noon saoPaulo = some ⟨1543716000000, 1543975200000⟩ ∧
      week1.range? noon saoPaulo = some ⟨1543284000000, 1543975200000⟩ ∧
      month1.range? noon saoPaulo = some ⟨1541300400000, 1543975200000⟩ ∧
      month3.range? noon saoPaulo = some ⟨1536030000000, 1543975200000⟩ ∧
      (options.Pairwise fun shorter longer => ∀ range wider,
        shorter.range? noon saoPaulo = some range → longer.range? noon saoPaulo = some wider →
          wider.stop = range.stop ∧ wider.start < range.start) := by
  intro saoPaulo noon
  have hzone : Zone.Rare saoPaulo.first saoPaulo.changes := ⟨by decide, by decide⟩
  exact ⟨by decide +kernel, by decide +kernel, by decide +kernel, by decide +kernel,
    (range?_nested hzone noon).1⟩

end AlertDetail.RangePreset

import AlertDetail.Quality
import Mathlib.Algebra.Order.Field.Basic
import Mathlib.Algebra.Order.Field.Rat

/-!
# Rates of quality

Anomalies are counted by their verdicts one by one, so the counts of two sets add up to those of
both, and their order does not matter. A counted verdict is that of a review, and a review is that
of an anomaly, so each rate is the share of a part in a whole, unless it is not defined because
there is no whole. The cards show the rates as they are.
-/

namespace AlertDetail

namespace QualityCounts

/-! ## Counting -/

/-- Counts of two sets taken together. -/
instance : Add QualityCounts where
  add first second := {
    total := first.total + second.total
    responded := first.responded + second.responded
    truePositives := first.truePositives + second.truePositives
    falsePositives := first.falsePositives + second.falsePositives
    falseNegatives := first.falseNegatives + second.falseNegatives }

/-- Anomalies of two sets are counted apart. -/
theorem tally_append (first second : List Anomaly) :
    tally (first ++ second) = tally first + tally second := by
  simp only [tally, List.filterMap_append, List.length_append, List.count_append]
  rfl

/-- The order of the anomalies does not count. -/
theorem tally_perm {first second : List Anomaly} (h : first.Perm second) :
    tally first = tally second := by
  have hverdicts := h.filterMap verdict?
  simp only [tally, h.length_eq, hverdicts.length_eq, hverdicts.count_eq]

/-- What a single anomaly counts as: a review if it has a verdict other than that of an anomaly that
nobody reviewed, and one of the three counted verdicts if it is one. -/
def single (verdict : Option String) : QualityCounts where
  total := 1
  responded := if verdict.any (· ≠ unreviewed) then 1 else 0
  truePositives := if verdict = some "TRUE_POSITIVE" then 1 else 0
  falsePositives := if verdict = some "FALSE_POSITIVE" then 1 else 0
  falseNegatives := if verdict = some "FALSE_NEGATIVE" then 1 else 0

theorem tally_singleton (anomaly : Anomaly) :
    tally [anomaly] = single anomaly.statusClassification := by
  have hverdicts : [anomaly].filterMap verdict? = (verdict? anomaly).toList := by
    cases hverdict : verdict? anomaly <;> simp [hverdict]
  rw [tally, hverdicts, verdict?]
  cases anomaly.statusClassification with
  | none => rfl
  | some verdict =>
    by_cases hreviewed : verdict = unreviewed
    · subst hreviewed
      rfl
    · have hkept : (some verdict).filter (· ≠ unreviewed) = some verdict :=
        Option.filter_eq_some_iff.2 ⟨rfl, decide_eq_true hreviewed⟩
      rw [hkept]
      simp [single, hreviewed, List.count_singleton]

/-- Counts are nested: verdicts of three kinds, reviews, anomalies. -/
structure Nested (counts : QualityCounts) : Prop where
  /-- No review has two of the three verdicts. -/
  verdicts_le :
    counts.truePositives + counts.falsePositives + counts.falseNegatives ≤ counts.responded
  /-- No anomaly is reviewed twice. -/
  responded_le : counts.responded ≤ counts.total

/-- Nested counts stay nested when they are taken together. -/
theorem Nested.add {first second : QualityCounts} (h : first.Nested) (h' : second.Nested) :
    (first + second).Nested where
  verdicts_le := by
    have hfirst := h.verdicts_le
    have hsecond := h'.verdicts_le
    show first.truePositives + second.truePositives +
      (first.falsePositives + second.falsePositives) +
      (first.falseNegatives + second.falseNegatives) ≤ first.responded + second.responded
    omega
  responded_le := Nat.add_le_add h.responded_le h'.responded_le

/-- A review has one verdict, so a single anomaly counts under one of the three at most. -/
theorem nested_single (verdict : Option String) : (single verdict).Nested where
  verdicts_le := by
    cases verdict with
    | none => exact Nat.le_refl 0
    | some verdict =>
      by_cases htrue : verdict = "TRUE_POSITIVE"
      · subst htrue
        decide
      · by_cases hfalse : verdict = "FALSE_POSITIVE"
        · subst hfalse
          decide
        · by_cases hmissed : verdict = "FALSE_NEGATIVE"
          · subst hmissed
            decide
          · simp [single, htrue, hfalse, hmissed]
  responded_le := by
    rw [single]
    dsimp only
    split
    · exact Nat.le_refl 1
    · exact Nat.zero_le 1

/-- The counts of anomalies are nested. -/
theorem nested_tally (anomalies : List Anomaly) : (tally anomalies).Nested := by
  induction anomalies with
  | nil => exact ⟨Nat.le_refl 0, Nat.le_refl 0⟩
  | cons anomaly rest ih =>
    rw [← List.singleton_append, tally_append, tally_singleton]
    exact (nested_single _).add ih

/-! ## Shares -/

/-- A rate tells the share of a part in a whole: it is not defined exactly if there is no whole, and
otherwise it is the quotient, whose exact value lies between zero and one. -/
structure Rate.Tells (rate : Rate) (part whole : Nat) : Prop where
  /-- Without a whole there is no rate. -/
  eq_none_iff : rate.value? = none ↔ whole = 0
  /-- Otherwise it is the quotient. -/
  quotient : 0 < whole → rate.value? = some (Float.ofNat part / Float.ofNat whole)
  /-- The part does not exceed the whole. -/
  part_le : part ≤ whole
  /-- The exact quotient is not negative. -/
  nonneg : (0 : ℚ) ≤ part / whole
  /-- The exact quotient is at most one. -/
  le_one : (part : ℚ) / whole ≤ 1

/-- Every rate whose part does not exceed the whole is such a share. -/
theorem Rate.tells {part whole : Nat} (h : part ≤ whole) : Rate.Tells ⟨part, whole⟩ part whole where
  eq_none_iff := by
    rw [value?]
    split
    · next hpos => exact iff_of_false (Option.some_ne_none _) (Nat.ne_of_gt hpos)
    · next hzero => exact iff_of_true rfl (Nat.eq_zero_of_not_pos hzero)
  quotient hpos := if_pos hpos
  part_le := h
  nonneg := div_nonneg (Nat.cast_nonneg part) (Nat.cast_nonneg whole)
  le_one := div_le_one_of_le₀ (Nat.cast_le.2 h) (Nat.cast_nonneg whole)

end QualityCounts

namespace StatCard

/-! ## Cards -/

/-- A defined rate ends in the percent sign, so its text is not that of an undefined one. -/
theorem percentText_eq_iff {value : Option Float} : percentText value = "N/A" ↔ value = none := by
  cases value with
  | none => exact iff_of_true rfl rfl
  | some rate =>
    refine iff_of_false (fun h => ?_) (Option.some_ne_none rate)
    have hlast := congrArg (·.toList.getLast?) h
    simp [percentText, String.toList_append] at hlast

/-- A count is written in digits, so its text is not that of an undefined rate either. -/
theorem toString_ne_undefined (n : Nat) : toString n ≠ "N/A" := by
  intro h
  have hmem : 'N' ∈ (Nat.repr n).toList := by
    rw [show Nat.repr n = "N/A" from h]
    decide
  rw [Nat.toList_repr] at hmem
  exact absurd (Nat.isDigit_of_mem_toDigits (by decide) (by decide) hmem) (by decide)

/-- Only what is not defined is shown as such. -/
theorem display_eq_iff {anomalies : List Anomaly} {preview edit : Bool} {card : StatCard}
    (h : card ∈ ofAnomalies anomalies preview edit) :
    card.display = "N/A" ↔ card.value = none := by
  unfold ofAnomalies at h
  rcases List.mem_cons.1 h with rfl | hrate
  · exact iff_of_false (toString_ne_undefined _) (Option.some_ne_none _)
  · split at hrate
    · simp only [List.mem_cons, List.not_mem_nil, or_false] at hrate
      rcases hrate with rfl | rfl | rfl <;> exact percentText_eq_iff
    · cases hrate

end StatCard

/-- The counts of anomalies are nested, do not depend on their order, and are those of single
anomalies taken together; the rates are shares that follow from the counts. The cards show the
number of anomalies and, but for the draft of a new alert, the three rates as they are; what is not
defined is shown as such, and nothing else. -/
theorem QualityCounts.rates_of_tally (anomalies : List Anomaly) (preview edit : Bool) :
    let counts := tally anomalies
    let cards := StatCard.ofAnomalies anomalies preview edit
    let shown := fun (title : String) (rate : Rate) =>
      (title, rate.value?, StatCard.percentText rate.value?)
    (counts.truePositives + counts.falsePositives + counts.falseNegatives ≤ counts.responded ∧
        counts.responded ≤ counts.total ∧ counts.total = anomalies.length) ∧
      (∀ others, anomalies.Perm others → tally others = counts) ∧
      ((∀ anomaly, tally [anomaly] = single anomaly.statusClassification) ∧
        ∀ others, tally (anomalies ++ others) = counts + tally others) ∧
      (counts.responseRate.Tells counts.responded counts.total ∧
        counts.precision.Tells counts.truePositives
          (counts.truePositives + counts.falsePositives) ∧
        counts.detectedShare.Tells counts.truePositives
          (counts.truePositives + counts.falseNegatives)) ∧
      cards.map (fun card => (card.title, card.value, card.display)) =
        ("Anomalies", some (Float.ofNat counts.total), toString counts.total) ::
          (if preview && !edit then [] else [shown "Response Rate" counts.responseRate,
            shown "Precision" counts.precision, shown "Recall" counts.detectedShare]) ∧
      ∀ card ∈ cards, card.display = "N/A" ↔ card.value = none := by
  intro counts cards shown
  have hnested := nested_tally anomalies
  refine ⟨⟨hnested.verdicts_le, hnested.responded_le, rfl⟩, fun others h => (tally_perm h).symm,
    ⟨tally_singleton, tally_append anomalies⟩, ⟨?_, ?_, ?_⟩, ?_,
    fun card => StatCard.display_eq_iff⟩
  · exact Rate.tells hnested.responded_le
  · exact Rate.tells (Nat.le_add_right _ _)
  · exact Rate.tells (Nat.le_add_right _ _)
  · cases preview <;> cases edit <;> rfl

/-- Two of four anomalies are reviewed, one of them with a verdict that is not counted and the other
one as refuted, so nothing is known of what should have been detected. -/
theorem QualityCounts.rates_of_tally_nothing_confirmed :
    let anomaly := fun verdict => ({
      metricUrn := "m:n:7", startTime := 0, endTime := 5
      statusClassification := verdict } : Anomaly)
    let anomalies := [anomaly (some "USER_REPORTED"), anomaly none, anomaly (some "NONE"),
      anomaly (some "FALSE_POSITIVE")]
    let counts : QualityCounts := {
      total := 4, responded := 2, truePositives := 0, falsePositives := 1, falseNegatives := 0 }
    let lastCard := StatCard.rate "Recall" "% of all anomalies detected by the system"
      counts.detectedShare
    tally anomalies = counts ∧ anomalies.Perm anomalies.reverse ∧
      tally anomalies.reverse = counts ∧ 0 < counts.total ∧
      counts.responseRate.value? = some (Float.ofNat 2 / Float.ofNat 4) ∧
      counts.precision.value? = some (Float.ofNat 0 / Float.ofNat 1) ∧
      counts.detectedShare.value? = none ∧
      lastCard ∈ StatCard.ofAnomalies anomalies false false ∧ lastCard.display = "N/A" := by
  intro anomaly anomalies counts lastCard
  obtain ⟨-, hperm, -, ⟨hresponse, hprecision, hrecall⟩, -, hdisplay⟩ :=
    rates_of_tally anomalies false false
  have htally : tally anomalies = counts := by decide
  have hreverse : anomalies.Perm anomalies.reverse := (List.reverse_perm anomalies).symm
  have hcard : lastCard ∈ StatCard.ofAnomalies anomalies false false := by
    rw [StatCard.ofAnomalies, htally]
    exact .tail _ (.tail _ (.tail _ (.head _)))
  rw [htally] at hresponse hprecision hrecall
  have hnone : counts.detectedShare.value? = none := hrecall.eq_none_iff.2 rfl
  exact ⟨htally, hreverse, (hperm _ hreverse).trans htally, by decide,
    hresponse.quotient (by decide), hprecision.quotient (by decide), hnone, hcard,
    (hdisplay lastCard hcard).2 hnone⟩

end AlertDetail

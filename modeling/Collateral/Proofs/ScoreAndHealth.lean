import Collateral.Desk.Report
import Collateral.Proofs.ReachedHealth

/-!
Contract: the score of a projected date and the health of a detail, over one margin.

With a multiplier of two the score divides the excess by the margin and then by two. The health
divides it by twice the margin. Exactly these are the same number, and each is rounded twice on its
way. A margin is a whole number of units of the last place, and so is twice the margin. So even the
least margin is doubled with an error in proportion to its size, and neither quotient strays by more
than about one unit for want of places and one and a half for every whole unit of the number.

Owns: the quotient behind a health, the error of both quotients, and their distance.
-/

namespace Collateral

/-! ## Inexact divisors -/

/-- A divisor that is inexact in proportion to its size makes its quotient so. -/
private theorem abs_div_sub_div_le {excess divisor doubled : Rat} (positive : 0 < divisor)
    (twice : |doubled - divisor| ≤ 1 / 10 ^ 28 * (16 / 25 * divisor)) :
    |excess / doubled - excess / divisor| ≤ 1 / 10 ^ 28 * (2 / 3 * |excess / divisor|) := by
  have doubledPos : 0 < doubled := by linarith [(abs_le.1 twice).1]
  have stray : excess / doubled - excess / divisor =
      (divisor - doubled) / doubled * (excess / divisor) := by
    field_simp
  have share : |(divisor - doubled) / doubled| ≤ 1 / 10 ^ 28 * (2 / 3) := by
    rw [abs_div, abs_of_pos doubledPos, div_le_iff₀ doubledPos, abs_sub_comm]
    linarith [(abs_le.1 twice).1]
  rw [stray, abs_mul, ← mul_assoc]
  exact mul_le_mul_of_nonneg_right share (abs_nonneg _)

section Quotients

variable {excess margin rate scored doubled graded : Rat}

/-- The error of a quotient that is halved after it is rounded. -/
private theorem abs_scored_sub_le
    (ratio : |rate - excess / margin| ≤ 1 / 10 ^ 28 * (1 / 2 + 16 / 25 * |excess / margin|))
    (halved : |scored - rate / 2| ≤ 1 / 10 ^ 28 * (1 / 2 + 16 / 25 * |rate / 2|)) :
    |scored - excess / (2 * margin)| ≤ 1 / 10 ^ 28 * (1 + 3 / 2 * |excess / (2 * margin)|) := by
  have whole : excess / margin = 2 * (excess / (2 * margin)) := by
    rw [← mul_div_assoc, mul_div_mul_left _ _ two_ne_zero]
  rw [whole, abs_mul, abs_two] at ratio
  generalize excess / (2 * margin) = exact at ratio ⊢
  have size := abs_nonneg exact
  have half : |rate / 2 - exact| ≤ 1 / 10 ^ 28 * (1 / 4 + 16 / 25 * |exact|) := by
    have parts : rate / 2 - exact = (rate - 2 * exact) / 2 := by ring
    rw [parts, abs_div, abs_two, div_le_iff₀ two_pos]
    linarith
  have reach := abs_add_le (rate / 2 - exact) exact
  rw [sub_add_cancel] at reach
  linarith [abs_sub_le scored (rate / 2) exact]

/-- The error of a quotient by a rounded divisor. -/
private theorem abs_graded_sub_le (positive : 0 < margin)
    (twice : |doubled - 2 * margin| ≤ 1 / 10 ^ 28 * (16 / 25 * |2 * margin|))
    (divided : |graded - excess / doubled| ≤
      1 / 10 ^ 28 * (1 / 2 + 16 / 25 * |excess / doubled|)) :
    |graded - excess / (2 * margin)| ≤ 1 / 10 ^ 28 * (1 + 3 / 2 * |excess / (2 * margin)|) := by
  have divisorPos : 0 < 2 * margin := by linarith
  rw [abs_of_pos divisorPos] at twice
  have stray : |excess / doubled - excess / (2 * margin)| ≤ _ :=
    abs_div_sub_div_le divisorPos twice
  generalize excess / (2 * margin) = exact at stray ⊢
  have size := abs_nonneg exact
  have reach := abs_add_le (excess / doubled - exact) exact
  rw [sub_add_cancel] at reach
  linarith [abs_sub_le graded (excess / doubled) exact]

end Quotients

/-! ## Both scores -/

section Health

variable [Rounding] {excess margin quotient : Decimal}

/-- The steps of the quotient behind a health, where both requirements are the same. -/
theorem Health.quotient?_ok :
    Health.quotient? excess margin margin = .ok (some quotient) ↔
      ∃ doubled, Decimal.mul 2 margin = .ok doubled ∧ doubled ≠ 0 ∧
        excess.div doubled = .ok quotient := by
  have larger : max margin margin = margin := ite_self margin
  rw [Health.quotient?, larger, Outcome.bind_ok]
  apply exists_congr
  intro doubled
  apply and_congr_right
  intro _
  by_cases none : doubled = 0
  · simp [none]
  · simp [none, Outcome.map_ok]

/-- Without twice the margin there is no quotient. -/
theorem Health.quotient?_none :
    Health.quotient? excess margin margin = .ok none ↔ Decimal.mul 2 margin = .ok 0 := by
  have larger : max margin margin = margin := ite_self margin
  rw [Health.quotient?, larger, Outcome.bind_ok]
  constructor
  · rintro ⟨doubled, doubledIs, skipped⟩
    by_cases zero : doubled = 0
    · exact zero ▸ doubledIs
    · simp [zero, Outcome.map_ok] at skipped
  · intro zero
    exact ⟨0, zero, rfl⟩

/-- A health is read off the quotient behind it. -/
theorem Detail.health_ok {detail : Detail} {health : Health}
    (answered : detail.health = .ok health) :
    ∃ quotient?, Health.quotient? detail.excess.value detail.margin.value detail.margin.value =
        .ok quotient? ∧
      health = (quotient?.map fun quotient => ⟨quotient.toBinary⟩).getD .full := by
  unfold Detail.health Health.ofFigures at answered
  split at answered
  next => cases answered
  next =>
    obtain ⟨quotient?, found, collected⟩ := Outcome.bind_ok.1 answered
    refine ⟨quotient?, Outcome.liftArithmetic_ok.1 found, ?_⟩
    cases quotient? <;> exact (Outcome.pure_ok.1 collected).symm

end Health

/-- Twice a margin is inexact in proportion to its size. -/
private theorem abs_doubled_sub_le {margin doubled : Decimal}
    (doubledIs : Decimal.mul 2 margin = .ok doubled) :
    |doubled.toRat - 2 * margin.toRat| ≤ 1 / 10 ^ 28 * (16 / 25 * |2 * margin.toRat|) := by
  have fit := Decimal.mul_ok.1 doubledIs
  rw [Decimal.toRat_two, ← Nat.cast_ofNat] at fit
  exact_mod_cast Decimal.nearest?_error_of_multiple 2 fit

/-- **At a multiplier of two, a score and a health are the same up to rounding.** Over one excess and
one margin, both are one where the margin is zero. Otherwise they are read off quotients that lie
within three units of the twenty-eighth place for one and for every whole unit of the exact one. -/
theorem Snapshot.score_near_health {snapshot : Snapshot} {detail : Detail}
    (excess : snapshot.excess = detail.excess.value)
    (margin : snapshot.before = detail.margin.value) :
    (detail.margin.value = 0 → snapshot.score 2 = .ok 1.0 ∧ detail.health = .ok ⟨1.0⟩) ∧
    (0 < detail.margin.value → ∀ score health, snapshot.score 2 = .ok score →
      detail.health = .ok health → ∃ scored graded,
        Snapshot.quotient? snapshot.excess snapshot.before 2 = .ok (some scored) ∧
        Health.quotient? detail.excess.value detail.margin.value detail.margin.value =
          .ok (some graded) ∧
        score = scored.toBinary ∧ health.ratio = graded.toBinary ∧
        |scored.toRat - graded.toRat| ≤ 3 / 10 ^ 28 *
          (1 + |detail.excess.value.toRat / (2 * detail.margin.value.toRat)|)) := by
  rw [Snapshot.score, excess, margin]
  refine ⟨?none, ?some⟩
  case none =>
    intro zero
    have notNegative : ¬(detail.margin.value < 0 ∨ detail.margin.value < 0) := by
      rw [zero, or_self]
      exact lt_irrefl (Decimal.toRat 0)
    have doubled : Decimal.mul 2 detail.margin.value = .ok 0 := by
      have same : Decimal.toRat 2 * Decimal.toRat 0 = Decimal.toRat 0 := by
        rw [Decimal.toRat_zero, mul_zero]
      rw [zero, Decimal.mul_ok, same, Rounding.Lawful.fit_toRat]
    constructor
    · rw [zero]
      rfl
    · rw [Detail.health, Health.ofFigures, if_neg notNegative, Health.quotient?_none.2 doubled]
      rfl
  case some =>
    intro positive score health scoreIs healthIs
    have positive : 0 < detail.margin.value.toRat := by
      rw [← Decimal.toRat_zero]
      exact positive
    have marginSome : detail.margin.value ≠ 0 := Decimal.toRat_eq_zero.not.1 positive.ne'
    obtain ⟨scored, scoredIs, scoreRead⟩ := Snapshot.scoreOf_ok marginSome (by decide) scoreIs
    obtain ⟨graded?, gradedIs, healthRead⟩ := Detail.health_ok healthIs
    obtain ⟨-, -, rate, ratio, halved⟩ := Snapshot.quotient?_ok.1 scoredIs
    have ratio := Decimal.nearest?_error_half (Decimal.div_ok.1 ratio).2
    have halved := Decimal.nearest?_error_half (Decimal.div_ok.1 halved).2
    rw [Decimal.toRat_two] at halved
    have scoredNear := abs_scored_sub_le ratio halved
    cases graded? with
    | none =>
      have vanished := abs_doubled_sub_le (Health.quotient?_none.1 gradedIs)
      rw [Decimal.toRat_zero, zero_sub, abs_neg, abs_of_pos (by linarith)] at vanished
      linarith
    | some graded =>
      obtain ⟨doubled, doubledIs, -, divided⟩ := Health.quotient?_ok.1 gradedIs
      have divided := Decimal.nearest?_error_half (Decimal.div_ok.1 divided).2
      have gradedNear := abs_graded_sub_le positive (abs_doubled_sub_le doubledIs) divided
      rw [abs_sub_comm] at gradedNear
      refine ⟨scored, graded, scoredIs, gradedIs, scoreRead, by rw [healthRead]; rfl, ?_⟩
      have apart := abs_sub_le scored.toRat
        (detail.excess.value.toRat / (2 * detail.margin.value.toRat)) graded.toRat
      linarith

open Projection (day figure whole)

/-- An excess of one over a margin of three. -/
private def third : Detail := ⟨⟨"company"⟩, day 1, figure false 3, figure false 1⟩

private def thirdOn : Snapshot := ⟨day 1, whole 3, whole 3, whole 1, 0, []⟩

/-- A sixth is rounded up for the health, and comes out one unit less where a third is halved. -/
theorem Snapshot.score_near_health_third :
    ∃ scored graded : Decimal,
      thirdOn.score 2 = .ok scored.toBinary ∧ third.health = .ok ⟨graded.toBinary⟩ ∧
      graded.toRat - scored.toRat = 1 / 10 ^ 28 ∧
      |scored.toRat - graded.toRat| ≤ 3 / 10 ^ 28 *
        (1 + |third.excess.value.toRat / (2 * third.margin.value.toRat)|) := by
  have figures : (do
      let scored? ← Snapshot.quotient? thirdOn.excess thirdOn.before 2
      let graded? ← Health.quotient? third.excess.value third.margin.value third.margin.value
      return graded?.bind fun graded => scored?.map fun scored => graded.toRat - scored.toRat) =
        (.ok (some (1 / 10 ^ 28)) : Except Decimal.Error (Option Rat)) := by
    decide +kernel
  have excess : thirdOn.excess = third.excess.value := rfl
  have margin : thirdOn.before = third.margin.value := rfl
  have alike := (Snapshot.score_near_health excess margin).2 (by decide +kernel)
  have scoreable : (thirdOn.score 2).toBool := by decide +kernel
  have gradable : third.health.toBool := by decide +kernel
  cases scoreIs : thirdOn.score 2 with
  | error error => simp [scoreIs, Except.toBool] at scoreable
  | ok score =>
    cases healthIs : third.health with
    | error error => simp [healthIs, Except.toBool] at gradable
    | ok health =>
      obtain ⟨scored, graded, scoredIs, gradedIs, rfl, healthRead, near⟩ :=
        alike score health scoreIs healthIs
      rw [scoredIs, gradedIs] at figures
      refine ⟨scored, graded, rfl, by rw [← healthRead], ?_, near⟩
      exact Option.some.inj (Except.ok.inj figures)

end Collateral

import Collateral.Proofs.RateHistory

/-!
Contract: what is lost when an amount is converted there and back.

A table converts there at the rate that was set last, and back at the inverse that it rounded when
the rate was set. Two products are rounded besides. The inverse of a large rate keeps few digits, or
none, and what it lacks is lost on every unit that the amount is worth on the other side. So the loss
is counted in units of the last place, by the sizes of the amount, of its worth on the other side, and
of the inverse rate.

Owns: the error of a product of inexact factors, the error of a conversion there and back, and the
rates that a table uses for the two ways.
-/

namespace Collateral

/-! ## Inexact factors -/

/-- The error of a product is at most that of each factor at the size of the other one, and the
product of both errors. -/
private theorem abs_mul_sub_mul_le {left right left' right' leftError rightError : Rat}
    (leftNear : |left' - left| ≤ leftError) (rightNear : |right' - right| ≤ rightError) :
    |left' * right' - left * right| ≤
      |left| * rightError + leftError * |right| + leftError * rightError := by
  have parts : left' * right' - left * right =
      left * (right' - right) + (left' - left) * right + (left' - left) * (right' - right) := by
    ring
  have leftErrorNonneg : 0 ≤ leftError := (abs_nonneg _).trans leftNear
  rw [parts]
  apply (abs_add_three _ _ _).trans
  rw [abs_mul, abs_mul, abs_mul]
  gcongr

/-- Two products and an inverse, each of them rounded, move an amount by less than one unit of the
last place for every unit that it is worth on the other side, for every unit of the inverse rate,
and besides, and by two for every unit of its own. -/
private theorem abs_back_sub_le {amount rate there inverse back : Rat} (positive : 0 < rate)
    (out : |there - amount * rate| ≤ 1 / 10 ^ 28 * (1 / 2 + 16 / 25 * |amount * rate|))
    (inverted : |inverse - 1 / rate| ≤ 1 / 10 ^ 28 * (1 / 2 + 16 / 25 * |1 / rate|))
    (home : |back - there * inverse| ≤ 1 / 10 ^ 28 * (1 / 2 + 16 / 25 * |there * inverse|)) :
    |back - amount| ≤
      1 / 10 ^ 28 * (rate * |amount| + 1 / rate + 2 * |amount| + 1) := by
  have inversePositive : 0 < 1 / rate := one_div_pos.2 positive
  have worthNonneg : 0 ≤ |amount| * rate := mul_nonneg (abs_nonneg amount) positive.le
  have product := abs_mul_sub_mul_le out inverted
  have unrounded : amount * rate * (1 / rate) = amount := by field_simp
  rw [unrounded, abs_mul, abs_of_pos positive, abs_of_pos inversePositive] at product
  -- The amount is its worth on the other side at the exact inverse, so all errors are linear.
  have cancelled : |amount| * rate * (1 / rate) = |amount| := by field_simp
  generalize 1 / rate = exactInverse at product inversePositive cancelled ⊢
  generalize worthIs : |amount| * rate = worth at product worthNonneg cancelled
  have collected : worth * (1 / 10 ^ 28 * (1 / 2 + 16 / 25 * exactInverse)) +
      1 / 10 ^ 28 * (1 / 2 + 16 / 25 * worth) * exactInverse +
      1 / 10 ^ 28 * (1 / 2 + 16 / 25 * worth) * (1 / 10 ^ 28 * (1 / 2 + 16 / 25 * exactInverse)) =
        1 / 10 ^ 28 * (worth / 2 + exactInverse / 2 + 32 / 25 * |amount|) +
          1 / 10 ^ 56 * (1 / 4 + 8 / 25 * worth + 8 / 25 * exactInverse + 256 / 625 * |amount|) := by
    rw [← cancelled]
    ring
  rw [collected] at product
  have reach := abs_add_le (there * inverse - amount) amount
  rw [sub_add_cancel] at reach
  have size : 0 ≤ |amount| := abs_nonneg amount
  rw [mul_comm rate, worthIs]
  linarith [abs_sub_le back (there * inverse) amount]

/-! ## The two ways -/

namespace Spot

/-- A table answers a pair with the rate that the requests quote for it. -/
private theorem rate?_of_quoted (first : Currency) {requests : List Request} {pair : FxPair}
    {rate : Decimal} (found : Quoted requests pair rate) :
    (serveAll { anchor := first } requests).rate? pair = .ok (some rate) := by
  rw [rate?, (direct?_serveAll first requests pair rate).2 found]
  rfl

/-- **Converting there and back loses almost nothing.** Whatever else was set or refused, at the rate
that was set last an amount comes back within so many units of the twenty-eighth place as the amount
is worth on the other side, the inverse rate, twice the amount, and one come to together. -/
theorem convert_convert_near {first : Currency} {requests : List Request} {pair : FxPair}
    {rate amount there back : Decimal} (differ : pair.base ≠ pair.quote)
    (last : lastSetting? requests pair = some (pair, rate))
    (out : (serveAll { anchor := first } requests).convert amount pair = .ok there)
    (home : (serveAll { anchor := first } requests).convert there pair.inverse = .ok back) :
    |back.toRat - amount.toRat| ≤
      1 / 10 ^ 28 * (rate.toRat * |amount.toRat| + 1 / rate.toRat + 2 * |amount.toRat| + 1) := by
  have positive : 0 < rate.toRat := (of_lastSetting? last).1
  obtain ⟨inverse, divided⟩ := exists_inverse positive
  have lastInverse : lastSetting? requests pair.inverse = some (pair.inverse.inverse, rate) := by
    rw [lastSetting?_inverse]
    exact last
  have outward := rate?_of_quoted first (.given differ last)
  have inward := rate?_of_quoted first (.inverted differ.symm lastInverse divided)
  have product := Decimal.mul_ok.1 ((convert_ok_iff_mul outward).1 out)
  have product' := Decimal.mul_ok.1 ((convert_ok_iff_mul inward).1 home)
  have quotient := (Decimal.div_ok.1 divided).2
  rw [Decimal.toRat_one] at quotient
  exact abs_back_sub_le positive (Decimal.nearest?_error_half product)
    (Decimal.nearest?_error_half quotient) (Decimal.nearest?_error_half product')

/-- A rate of three times ten to the fifteenth, after another one for the opposite pair and before one
that is refused. Its inverse keeps thirteen digits. -/
private def thin : List Request :=
  [.set ⟨⟨"USD"⟩, ⟨"EUR"⟩⟩ 2,
    .set ⟨⟨"EUR"⟩, ⟨"USD"⟩⟩ (Projection.figure false 3000000000000000), .anchor ⟨"GBP"⟩,
    .set ⟨⟨"EUR"⟩, ⟨"USD"⟩⟩ 0]

/-- A million comes back short of one ten-millionth, which is a third of what it may be short of. -/
theorem convert_convert_near_thin :
    lastSetting? thin ⟨⟨"EUR"⟩, ⟨"USD"⟩⟩ =
        some (⟨⟨"EUR"⟩, ⟨"USD"⟩⟩, Projection.whole 3000000000000000) ∧
      ∃ there back : Decimal,
        (serveAll { anchor := ⟨"USD"⟩ } thin).convert (Projection.whole 1000000)
          ⟨⟨"EUR"⟩, ⟨"USD"⟩⟩ = .ok there ∧
        (serveAll { anchor := ⟨"USD"⟩ } thin).convert there ⟨⟨"USD"⟩, ⟨"EUR"⟩⟩ = .ok back ∧
        back.toRat = 1000000 - 1 / 10 ^ 7 ∧
        |back.toRat - (Projection.whole 1000000).toRat| ≤
          1 / 10 ^ 28 * ((Projection.whole 3000000000000000).toRat *
            |(Projection.whole 1000000).toRat| + 1 / (Projection.whole 3000000000000000).toRat +
              2 * |(Projection.whole 1000000).toRat| + 1) := by
  have last : lastSetting? thin ⟨⟨"EUR"⟩, ⟨"USD"⟩⟩ =
      some (⟨⟨"EUR"⟩, ⟨"USD"⟩⟩, Projection.whole 3000000000000000) := by decide +kernel
  have figures : (do
      let there ← (serveAll { anchor := ⟨"USD"⟩ } thin).convert (Projection.whole 1000000)
        ⟨⟨"EUR"⟩, ⟨"USD"⟩⟩
      let back ← (serveAll { anchor := ⟨"USD"⟩ } thin).convert there ⟨⟨"USD"⟩, ⟨"EUR"⟩⟩
      return back.toRat) = (.ok (1000000 - 1 / 10 ^ 7) : Except ConversionError Rat) := by
    decide +kernel
  obtain ⟨there, out, onward⟩ := Outcome.bind_ok.1 figures
  obtain ⟨back, home, backIs⟩ := Outcome.bind_ok.1 onward
  exact ⟨last, there, back, out, home, Outcome.pure_ok.1 backIs,
    convert_convert_near (by decide) last out home⟩

end Spot

end Collateral

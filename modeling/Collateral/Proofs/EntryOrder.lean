import Collateral.Desk.Monitor
import Collateral.Proofs.Lossless
import Collateral.Proofs.Overflows
import Collateral.Proofs.Recommendation
import Collateral.Proofs.TargetOrder

/-!
Contract: the figures of a book whose entries come, or are added up, in another order.

The order of entries is an accident of how a book was put together. For its margin it decides in
which order balances are converted, and so which of several failed conversions is reported, but
nothing else: collateral and debts are served in orders of their own. A total does see the order in
which it is added up, since every sum on the way is rounded. The search for a deposit starts from
the total, so its last digits see the order as well, and nothing but the deposits sees theirs.

Owns: the buckets and the margin of rearranged books, how far totals and deposits in two orders lie
apart, and what reports and checks in two orders share.
-/

namespace Collateral

open Outcome (FailsBy)

/-! ## Margins -/

namespace Margin

section Rearranged

variable [Rounding] {terms : Terms} {left right : Book}

/-- Rearranged books have the same buckets, rearranged. -/
theorem buckets_perm (rearranged : left.balances.entries.Perm right.balances.entries)
    {results : List Bucket} (built : buckets terms left = .ok results) :
    ∃ results', buckets terms right = .ok results' ∧ results.Perm results' :=
  Outcome.mapM_perm (rearranged.filter _) built

/-- **The margin of a book does not depend on the order of its entries.** If one order of the entries
has a margin, any other one has the same. If one fails, the other does, and for the same cause unless
a balance cannot be converted. -/
theorem ofBook_perm (rearranged : left.balances.entries.Perm right.balances.entries) :
    (∀ margin, ofBook terms left = .ok margin ↔ ofBook terms right = .ok margin) ∧
      (ofBook terms left = ofBook terms right ∨ ∃ failure failure',
        buckets terms left = .error failure ∧ buckets terms right = .error failure') := by
  cases built : buckets terms left with
  | ok results =>
    obtain ⟨results', built', permutation⟩ := buckets_perm rearranged built
    have charges := Netting.charge_perm (buckets_distinct built) permutation
    have same : ofBook terms left = ofBook terms right := by
      simp only [ofBook, built, built', bind, Except.bind, charges]
    exact ⟨fun margin => by rw [same], .inl same⟩
  | error failure =>
    cases built' : buckets terms right with
    | ok results' =>
      obtain ⟨results, collected, -⟩ := buckets_perm rearranged.symm built'
      cases built.symm.trans collected
    | error failure' =>
      refine ⟨fun margin => ?_, .inr ⟨failure, failure', rfl, rfl⟩⟩
      rw [ofBook, ofBook, built, built']
      simp [bind, Except.bind]

end Rearranged

/-! ### Equal haircuts and equal debts -/

open Projection (whole)

private def third : Decimal := Figure.value ⟨false, 3333333333333333333333333333, 28, by decide⟩

private theorem third_nonneg : 0 ≤ third := by decide +kernel

/-- About a third for haircut of every currency. -/
private def thirds : Terms where
  domestic := ⟨"USD"⟩
  spot := Spot.quotes ⟨⟨"USD"⟩, Table.ofList
    [(⟨⟨"EUR"⟩, ⟨"USD"⟩⟩, 2), (⟨⟨"GBP"⟩, ⟨"USD"⟩⟩, 2),
      (⟨⟨"CHF"⟩, ⟨"USD"⟩⟩, Figure.value ⟨false, 11111111111111111111111111111, 28, by decide⟩)]⟩
  haircuts := .uniform ⟨"broker"⟩ third third_nonneg
  multiplier := 2

private def euroFirst : Book :=
  ⟨Table.ofList [(⟨"USD"⟩, Figure.tenth.value), (⟨"EUR"⟩, -whole 250), (⟨"CHF"⟩, whole 777),
    (⟨"GBP"⟩, -whole 250)]⟩

private def poundFirst : Book :=
  ⟨Table.ofList [(⟨"GBP"⟩, -whole 250), (⟨"CHF"⟩, whole 777), (⟨"USD"⟩, Figure.tenth.value),
    (⟨"EUR"⟩, -whole 250)]⟩

/-- Both haircuts and both debts are alike, products are rounded, and the margin is the same. -/
theorem ofBook_perm_alike :
    euroFirst.balances.entries.Perm poundFirst.balances.entries ∧
      ofBook thirds euroFirst =
        .ok (Figure.value ⟨false, 57562222222222222222222222214, 26, by decide⟩) ∧
      ofBook thirds poundFirst =
        .ok (Figure.value ⟨false, 57562222222222222222222222214, 26, by decide⟩) := by
  have rearranged : euroFirst.balances.entries.Perm poundFirst.balances.entries := by decide +kernel
  have margined : ofBook thirds euroFirst =
    .ok (Figure.value ⟨false, 57562222222222222222222222214, 26, by decide⟩) := by decide +kernel
  exact ⟨rearranged, margined, ((ofBook_perm rearranged).1 _).1 margined⟩

end Margin

/-! ## Totals -/

namespace Book

section Totals

variable [Rounding] {left right : Book} {domestic : Currency} {spot : Quotes}
  {order other : SummationOrder} {total total' : Decimal}

theorem worth_perm (rearranged : left.balances.entries.Perm right.balances.entries) :
    left.worth spot domestic = right.worth spot domestic :=
  (rearranged.map _).sum_eq

theorem gross_perm (rearranged : left.balances.entries.Perm right.balances.entries) :
    left.gross spot domestic = right.gross spot domestic :=
  (rearranged.map _).sum_eq

/-- **Totals in two orders differ by rounding alone**, one rounding for every balance in each. -/
theorem abs_totalIn_sub_le {grain : Rat} [Rounding.Lawful grain]
    (rearranged : left.balances.entries.Perm right.balances.entries)
    (totaled : @totalIn _ order left domestic spot = .ok total)
    (totaled' : @totalIn _ other right domestic spot = .ok total') :
    |total.toRat - total'.toRat| ≤
      2 * (drift grain left.balances.entries.length * (1 + left.gross spot domestic)) := by
  have near : |total.toRat - left.worth spot domestic| ≤ _ :=
    @near_totalIn _ grain _ order _ _ _ _ totaled
  have near' : |total'.toRat - right.worth spot domestic| ≤ _ :=
    @near_totalIn _ grain _ other _ _ _ _ totaled'
  -- Both are measured against one exact sum, which has no order.
  rw [← worth_perm rearranged, ← gross_perm rearranged, ← rearranged.length_eq] at near'
  calc |total.toRat - total'.toRat|
      ≤ |total.toRat - left.worth spot domestic| + |left.worth spot domestic - total'.toRat| :=
        abs_sub_le _ _ _
    _ ≤ _ := by
        rw [abs_sub_comm (left.worth spot domestic), two_mul]
        exact add_le_add near near'

/-- Where one order has a total, every other order has one, unless it overflows on the way. -/
theorem totalIn_ok_or_overflows (rearranged : left.balances.entries.Perm right.balances.entries)
    (totaled : @totalIn _ order left domestic spot = .ok total) :
    (∃ total', @totalIn _ other right domestic spot = .ok total') ∨
      ∃ operation, @totalIn _ other right domestic spot =
        .error (.arithmetic (.overflow operation)) := by
  have fails : FailsBy (fun error => ∃ operation, error = .arithmetic (.overflow operation))
      (@totalIn _ other right domestic spot) := by
    apply FailsBy.foldlM
    intro entry member sum
    have held := rearranged.mem_iff.2 (right.summands_perm.mem_iff.1 member)
    obtain ⟨value, converted⟩ := @converts_of_totalIn _ _ _ order _ _ totaled entry held
    refine (FailsBy.of_ok converted).bind fun value _ => (sum.add_failsBy value).mapError ?_
    rintro error ⟨operation, rfl⟩
    exact ⟨operation, rfl⟩
  cases outcome : @totalIn _ other right domestic spot with
  | ok total' => exact .inl ⟨total', rfl⟩
  | error error =>
    obtain ⟨operation, rfl⟩ := fails error outcome
    exact .inr ⟨operation, rfl⟩

end Totals

/-- Where no sum on the way is rounded, the order of summation does not count. -/
theorem totalIn_eq_of_lossless {left right : Book} {domestic : Currency} {spot : Quotes}
    {order other : SummationOrder}
    (rearranged : left.balances.entries.Perm right.balances.entries)
    (exact : Rounding.Lossless fun _ => @totalIn _ order left domestic spot)
    (exact' : Rounding.Lossless fun _ => @totalIn _ other right domestic spot) :
    @totalIn _ order left domestic spot = @totalIn _ other right domestic spot := by
  obtain ⟨total, totaled⟩ := exact
  obtain ⟨total', totaled'⟩ := exact'
  have apart := @abs_totalIn_sub_le .exact _ _ _ _ order other _ _ 0 _ rearranged totaled totaled'
  rw [drift_of_exact, zero_mul, mul_zero, abs_nonpos_iff, sub_eq_zero] at apart
  obtain rfl := Decimal.toRat_injective apart
  have sum := @totalIn_refines _ _ Rounding.exact_stricter order left domestic spot total totaled
  have sum' := @totalIn_refines _ _ Rounding.exact_stricter other right domestic spot total totaled'
  exact sum.trans sum'.symm

end Book

/-! ## Deposits -/

namespace Deposit

variable {order other : SummationOrder} {target : Float} {effort : Effort}

/-- The order of summation reaches a deposit through the total alone. Where the total loses nothing to
rounding, it does not reach it at all. -/
theorem solve_eq_of_lossless {problem : Problem}
    (exact : Rounding.Lossless fun _ =>
      @Book.totalIn _ order problem.book problem.domestic problem.spot)
    (exact' : Rounding.Lossless fun _ =>
      @Book.totalIn _ other problem.book problem.domestic problem.spot) :
    @solve _ order problem target effort = @solve _ other problem target effort := by
  unfold solve
  rw [Book.totalIn_eq_of_lossless (.refl _) exact exact']

section Distance

variable [Rounding]

/-- **Deposits in two orders lie close together**, in proportion to how fast the residual rises.
Both are zero where the book has no margin; otherwise they are no further apart than what the two
searches accept, what is flat and what rounding moves. -/
theorem ascent_mul_abs_solve_sub_le {grain : Rat} [Rounding.Lawful grain] {terms : Terms}
    {book : Book} {cash cash' : Decimal} (small : grain ≤ 1) (par : terms.AtPar)
    (multiplierNonneg : 0 ≤ terms.multiplier.toRat)
    (solved : @solve _ order (Problem.ofTerms terms book) target effort = .ok cash)
    (solved' : @solve _ other (Problem.ofTerms terms book) target effort = .ok cash') :
    cash = 0 ∧ cash' = 0 ∨
      ∃ total total' margin factor accepted accepted',
        @Problem.Sought _ order (Problem.ofTerms terms book) target effort.tolerance total margin
          factor accepted ∧
        @Problem.Sought _ other (Problem.ofTerms terms book) target effort.tolerance total' margin
          factor accepted' ∧
        ascent terms factor.toRat * |cash.toRat - cash'.toRat| ≤
          accepted.toRat + accepted'.toRat + coverCost terms factor.toRat * (1 / 10 ^ 6) +
            (1 + coverCost terms factor.toRat) * (blur grain terms book factor.toRat cash.toRat +
              blur grain terms book factor.toRat cash'.toRat) := by
  obtain ⟨margin, margined, outcome⟩ := @sought_of_solve _ _ _ order _ _ _ solved
  obtain ⟨margin', margined', outcome'⟩ := @sought_of_solve _ _ _ other _ _ _ solved'
  obtain rfl := Except.ok.inj (margined.symm.trans margined')
  rcases outcome with ⟨none, cashIs⟩ | ⟨some, total, factor, accepted, sought, holds⟩
  · rcases outcome' with ⟨-, cashIs'⟩ | ⟨some, -⟩
    · exact .inl ⟨cashIs, cashIs'⟩
    · exact absurd none some
  rcases outcome' with ⟨none, -⟩ | ⟨-, total', factor', accepted', sought', holds'⟩
  · exact absurd none some
  obtain ⟨decimal, targetIs, factored⟩ := @Problem.Sought.factored _ order _ _ _ _ _ _ _ sought
  obtain ⟨decimal', targetIs', factored'⟩ := @Problem.Sought.factored _ other _ _ _ _ _ _ _ sought'
  obtain rfl := Option.some.inj (targetIs.symm.trans targetIs')
  obtain rfl := Except.ok.inj (factored.symm.trans factored')
  refine .inr ⟨total, total', margin, factor, accepted, accepted', sought, sought', ?_⟩
  have factorNonneg := factor_nonneg targetIs factored
  rcases le_total cash'.toRat cash.toRat with fewer | more
  · rw [abs_of_nonneg (sub_nonneg.2 fewer)]
    exact holds.ascent_mul_sub_le small par multiplierNonneg factorNonneg le_rfl holds' fewer
  · rw [abs_sub_comm, abs_of_nonneg (sub_nonneg.2 more)]
    have apart :=
      holds'.ascent_mul_sub_le small par multiplierNonneg factorNonneg le_rfl holds more
    linarith

end Distance

/-- A deposit whose last digit is another when the three balances are added up backwards. -/
example :
    let owed : Decimal := Figure.value ⟨true, 10111111111111111111111111111, 26, by decide⟩
    let problem := Problem.ofTerms Margin.thirds
      ⟨Table.ofList [(⟨"CHF"⟩, 1), (⟨"USD"⟩, owed), (⟨"EUR"⟩, Projection.whole 50)]⟩
    @solve _ .arrival problem 1 ({} : Settings).search.effort =
        .ok (Figure.value ⟨false, 57777777777777777777777777774, 27, by decide⟩) ∧
      @solve _ ⟨List.reverse, List.reverse_perm⟩ problem 1 ({} : Settings).search.effort =
        .ok (Figure.value ⟨false, 57777777777777777777777777773, 27, by decide⟩) := by
  decide +kernel

end Deposit

/-! ## Reports and checks -/

/-- Reports of one company on one date that differ in the recommended deposits at most, and in the
projection that assumes them. -/
structure Report.AlikeButDeposits (custom : Option Decimal) (left right : Report) : Prop where
  detail_eq : left.detail = right.detail
  pendingCash_eq : left.pendingCash = right.pendingCash
  multiplier_eq : left.multiplier = right.multiplier
  baseline_eq : left.baseline = right.baseline
  pending_eq : left.pending = right.pending
  /-- A custom amount is assumed in place of what is recommended. -/
  theoretical_eq : custom.isSome → left.theoretical = right.theoretical

namespace Desk

variable [Rounding] {desk : Desk} {company : Company} {date : Date} {custom : Option Decimal}
  {order other : SummationOrder}

/-- **Reports in two orders are alike but for the deposits.** -/
theorem report_alikeButDeposits {report report' : Report}
    (reported : desk.reportIn order company date custom = .ok (some report))
    (reported' : desk.reportIn other company date custom = .ok (some report')) :
    report.AlikeButDeposits custom report' := by
  obtain ⟨made, -⟩ := @report_ok _ order _ _ _ _ _ reported
  obtain ⟨made', -⟩ := @report_ok _ other _ _ _ _ _ reported'
  have pendingCash := made.pendingCash_eq.trans made'.pendingCash_eq.symm
  have pending' := made'.pending
  rw [← pendingCash] at pending'
  refine ⟨Except.ok.inj (made.detail.symm.trans made'.detail), pendingCash,
    made.multiplier_eq.trans made'.multiplier_eq.symm,
    Except.ok.inj (made.baseline.symm.trans made'.baseline),
    Except.ok.inj (made.pending.symm.trans pending'), fun given => ?_⟩
  obtain ⟨amount, rfl⟩ := Option.isSome_iff_exists.1 given
  obtain ⟨_, rfl, projected⟩ := made.theoretical
  obtain ⟨_, rfl, projected'⟩ := made'.theoretical
  exact Except.ok.inj (projected.symm.trans projected')

/-- **Checks in two orders come to one alert,** and keep one record. -/
theorem checkIn_alert_eq {check check' : Check}
    (done : desk.checkIn order company date = .ok check)
    (done' : desk.checkIn other company date = .ok check') :
    check.alert = check'.alert ∧ check.record = check'.record := by
  obtain ⟨report?, reported, rest⟩ := Outcome.bind_ok.1 done
  obtain ⟨report?', reported', rest'⟩ := Outcome.bind_ok.1 done'
  have broker := @report_isSome _ order _ _ _ _ _ reported
  have broker' := @report_isSome _ other _ _ _ _ _ reported'
  cases report? with
  | none =>
    obtain rfl := Option.not_isSome_iff_eq_none.1 (by rw [broker', ← broker]; nofun)
    rw [← Outcome.pure_ok.1 rest, ← Outcome.pure_ok.1 rest']
    exact ⟨rfl, rfl⟩
  | some report =>
    obtain ⟨report', rfl⟩ := Option.isSome_iff_exists.1 (broker'.trans broker.symm)
    have alike := report_alikeButDeposits reported reported'
    -- The alert is read from the pending projection, which assumes no recommended deposit.
    have worst : report.worst? = report'.worst? := by
      rw [Report.worst?, Report.worst?, alike.multiplier_eq, alike.pending_eq]
    have best : report.best? = report'.best? := by
      rw [Report.best?, Report.best?, alike.multiplier_eq, alike.pending_eq]
    simp only [Outcome.bind_ok, Outcome.liftArithmetic_ok, Outcome.pure_ok] at rest rest'
    rw [worst, best, alike.multiplier_eq] at rest
    obtain ⟨least?, chosen, least, scored, most?, chosenMost, most, scoredMost, rfl⟩ := rest
    obtain ⟨_, chosen', _, scored', _, chosenMost', _, scoredMost', rfl⟩ := rest'
    obtain rfl := Except.ok.inj (chosen.symm.trans chosen')
    obtain rfl := Except.ok.inj (scored.symm.trans scored')
    obtain rfl := Except.ok.inj (chosenMost.symm.trans chosenMost')
    obtain rfl := Except.ok.inj (scoredMost.symm.trans scoredMost')
    exact ⟨rfl, rfl⟩

end Desk

end Collateral

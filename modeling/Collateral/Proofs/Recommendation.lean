import Collateral.Proofs.BinaryDecimal
import Collateral.Proofs.CheckedSettings
import Collateral.Proofs.Projected
import Collateral.Proofs.Residual

/-!
Contract: what recommended deposits are, and how they compare.

The cash for a target is solved on the book of one projected date. That book is worth the cash in it,
since its positions stand at the rates of the desk. So the cash for the recommended target is enough
for the minimum target, as far as the search and rounding are exact; a minimum that was not solved is
zero.

Owns: the book on which deposits are solved and its worth, what a solved deposit has been accepted
for, and the order of the minimum and the recommended deposit.
-/

namespace Collateral

/-- Checked settings have a multiplier above zero. -/
theorem Settings.multiplier_pos {settings : Settings} (checked : settings.check = .ok ()) :
    0 < settings.multiplier.value.toRat := by
  simpa using Decimal.lt_iff.1 (check_ok.1 checked).multiplier_pos

/-- The factor of a target above minus one is not below zero. -/
theorem Deposit.factor_nonneg [Rounding] {grain : Rat} [Rounding.Lawful grain] {target : Float}
    {decimal factor : Decimal} (targetIs : target? target = some decimal)
    (factored : Decimal.add 1 decimal = .ok factor) : 0 ≤ factor.toRat := by
  have above : -1 < decimal := by simpa using (Option.filter_eq_some_iff.1 targetIs).2
  have aboveRat := Decimal.lt_iff.1 above
  rw [Decimal.toRat_neg, Decimal.toRat_one] at aboveRat
  refine Rounding.fit_nonneg ?_ (Decimal.add_ok.1 factored)
  rw [Decimal.toRat_one]
  linarith

namespace Desk

section Solved

variable [Rounding] [SummationOrder] {desk : Desk} {terms : Terms} {book : Book}

/-- The factor and the acceptance with which the cash for a target is sought. -/
def Seeks (desk : Desk) (terms : Terms) (book : Book) (target : Float)
    (factor accepted : Decimal) : Prop :=
  ∃ decimal total margin, Deposit.target? target = some decimal ∧
    Decimal.add 1 decimal = .ok factor ∧ book.totalIn terms.domestic terms.spot = .ok total ∧
    Margin.ofBook terms book = .ok margin ∧
    Deposit.acceptance desk.settings.search.tolerance.value total margin = .ok accepted

/-- A target has the same factor for all books. -/
theorem Seeks.factor_eq {other : Book} {target : Float}
    {factor factor' accepted accepted' : Decimal}
    (seeks : desk.Seeks terms book target factor accepted)
    (seeks' : desk.Seeks terms other target factor' accepted') : factor = factor' := by
  obtain ⟨decimal, -, -, targetIs, factored, -⟩ := seeks
  obtain ⟨decimal', -, -, targetIs', factored', -⟩ := seeks'
  obtain rfl := Option.some.inj (targetIs.symm.trans targetIs')
  exact Except.ok.inj (factored.symm.trans factored')

/-- All targets are sought with the same acceptance. -/
theorem Seeks.accepted_eq {target target' : Float} {factor factor' accepted accepted' : Decimal}
    (seeks : desk.Seeks terms book target factor accepted)
    (seeks' : desk.Seeks terms book target' factor' accepted') : accepted = accepted' := by
  obtain ⟨decimal, total, margin, -, -, totaled, margined, acceptedIs⟩ := seeks
  obtain ⟨decimal', total', margin', -, -, totaled', margined', acceptedIs'⟩ := seeks'
  obtain rfl := Except.ok.inj (totaled.symm.trans totaled')
  obtain rfl := Except.ok.inj (margined.symm.trans margined')
  exact Except.ok.inj (acceptedIs.symm.trans acceptedIs')

theorem Seeks.factor_nonneg {grain : Rat} [Rounding.Lawful grain] {target : Float}
    {factor accepted : Decimal} (seeks : desk.Seeks terms book target factor accepted) :
    0 ≤ factor.toRat := by
  obtain ⟨decimal, -, -, targetIs, factored, -⟩ := seeks
  exact Deposit.factor_nonneg targetIs factored

/-- A higher target has no smaller factor. -/
theorem Seeks.factor_le {grain : Rat} [Rounding.Lawful grain] {target target' : Float}
    {factor factor' accepted accepted' : Decimal} (ordered : target ≤ target')
    (seeks : desk.Seeks terms book target factor accepted)
    (seeks' : desk.Seeks terms book target' factor' accepted') : factor.toRat ≤ factor'.toRat := by
  obtain ⟨decimal, -, -, targetIs, factored, -⟩ := seeks
  obtain ⟨decimal', -, -, targetIs', factored', -⟩ := seeks'
  have targets := Decimal.le_iff.1 (Deposit.target?_mono ordered targetIs targetIs')
  exact Rounding.Lawful.fit_mono (add_le_add_right targets _) (Decimal.add_ok.1 factored)
    (Decimal.add_ok.1 factored')

/-- The cash for a target is zero for a book without margin, and otherwise it has been accepted at the
factor of the target. -/
theorem requiredCash_ok (haircut : desk.calculator = .haircut) {target : Float} {cash : Decimal}
    (required : desk.requiredCash terms book target = .ok cash) :
    ∃ margin, Margin.ofBook terms book = .ok margin ∧
      (margin = 0 ∧ cash = 0 ∨
        margin ≠ 0 ∧ ∃ factor accepted, desk.Seeks terms book target factor accepted ∧
          Deposit.Accepted terms book factor accepted cash) := by
  have margins : desk.calculator.ofBook terms = Margin.ofBook terms := by rw [haircut]; rfl
  rw [requiredCash, margins] at required
  obtain ⟨margin, margined, outcome⟩ := Deposit.sought_of_solve required
  refine ⟨margin, margined, outcome.imp_right ?_⟩
  rintro ⟨some, total, factor, accepted, sought, holds⟩
  obtain ⟨decimal, targetIs, factored⟩ := sought.factored
  exact ⟨some, factor, accepted, ⟨decimal, total, margin, targetIs, factored, sought.totaled,
    margined, sought.accepted_eq⟩, holds⟩

/-- Of the cash for two targets of one book, that for the lower target is no more, as far as the
search and rounding are exact. -/
theorem requiredCash_le {grain : Rat} [Rounding.Lawful grain] (small : grain ≤ 1)
    (haircut : desk.calculator = .haircut) (par : terms.AtPar)
    (multiplierNonneg : 0 ≤ terms.multiplier.toRat) {target target' : Float}
    {cash cash' : Decimal} (ordered : target ≤ target')
    (required : desk.requiredCash terms book target = .ok cash)
    (required' : desk.requiredCash terms book target' = .ok cash') :
    cash = 0 ∧ cash' = 0 ∨
      ∃ factor factor' accepted slack, desk.Seeks terms book target factor accepted ∧
        desk.Seeks terms book target' factor' accepted ∧
        slack = Deposit.orderSlack grain terms book factor.toRat factor'.toRat accepted.toRat
          accepted.toRat cash.toRat cash'.toRat ∧
        0 ≤ slack ∧ cash.toRat ≤ cash'.toRat + slack := by
  obtain ⟨margin, margined, outcome⟩ := requiredCash_ok haircut required
  obtain ⟨margin', margined', outcome'⟩ := requiredCash_ok haircut required'
  obtain rfl := Except.ok.inj (margined.symm.trans margined')
  rcases outcome with ⟨none, cashIs⟩ | ⟨some, factor, accepted, seeks, holds⟩
  · rcases outcome' with ⟨-, cashIs'⟩ | ⟨some, -⟩
    · exact .inl ⟨cashIs, cashIs'⟩
    · exact absurd none some
  · rcases outcome' with ⟨none, -⟩ | ⟨-, factor', accepted', seeks', holds'⟩
    · exact absurd none some
    · obtain rfl := seeks.accepted_eq seeks'
      have acceptedNonneg := holds.accepted_nonneg
      refine .inr ⟨factor, factor', accepted, _, seeks, seeks', rfl, ?_, ?_⟩
      · exact Deposit.orderSlack_nonneg multiplierNonneg seeks.factor_nonneg seeks'.factor_nonneg
          acceptedNonneg acceptedNonneg _ _
      · exact holds.le_of_factor_le small par multiplierNonneg seeks.factor_nonneg
          (seeks.factor_le ordered seeks') holds'

end Solved

section Recommended

variable [Rounding] [SummationOrder] {desk : Desk} {company : Company} {broker : BrokerAccount}
  {summary : Summary} {additional : Table Currency Decimal} {worst : Snapshot}

theorem recommendationFor_ok {result : Recommendation}
    (recommended : desk.recommendationFor company broker summary additional worst = .ok result) :
    ∃ book terms score, depositBook company summary additional worst = .ok book ∧
      desk.terms company broker = .ok terms ∧ worst.score desk.multiplier = .ok score ∧
      (desk.settings.minimumTarget ≤ score ∧ result.minimum = 0 ∨
        ¬desk.settings.minimumTarget ≤ score ∧
          desk.requiredCash terms book desk.settings.minimumTarget = .ok result.minimum) ∧
      desk.requiredCash terms book desk.settings.recommendedTarget = .ok result.recommended := by
  obtain ⟨book, booked, afterBook⟩ := Outcome.bind_ok.1 recommended
  obtain ⟨terms, termed, afterTerms⟩ := Outcome.bind_ok.1 afterBook
  obtain ⟨score, scored, afterScore⟩ := Outcome.bind_ok.1 afterTerms
  rw [Outcome.liftArithmetic_ok] at booked scored
  split at afterScore
  next meets =>
    obtain ⟨zero, zeroIs, afterMinimum⟩ := Outcome.bind_ok.1 afterScore
    obtain ⟨solved, solvedIs, collected⟩ := Outcome.bind_ok.1 afterMinimum
    rw [← Outcome.pure_ok.1 collected, ← Outcome.pure_ok.1 zeroIs]
    exact ⟨book, terms, score, booked, termed, scored, .inl ⟨meets, rfl⟩, solvedIs⟩
  next misses =>
    obtain ⟨minimum, minimumIs, afterMinimum⟩ := Outcome.bind_ok.1 afterScore
    obtain ⟨solved, solvedIs, collected⟩ := Outcome.bind_ok.1 afterMinimum
    rw [← Outcome.pure_ok.1 collected]
    exact ⟨book, terms, score, booked, termed, scored, .inr ⟨misses, minimumIs⟩, solvedIs⟩

/-- Where nothing is projected nothing is recommended, and there is nothing to solve. -/
theorem recommendation_of_projection_nil {date : Date} {kind : AccountKind} {days : Nat}
    (projected : desk.projection company date kind additional days = .ok []) :
    desk.recommendation company date kind additional days = .ok {} := by
  rw [recommendation, projected]
  rfl

/-- A recommendation is empty where nothing is projected, and otherwise belongs to the worst date. -/
theorem recommendation_ok {date : Date} {kind : AccountKind} {days : Nat}
    {points : List Snapshot} {result : Recommendation}
    (projected : desk.projection company date kind additional days = .ok points)
    (recommended : desk.recommendation company date kind additional days = .ok result) :
    result = {} ∨ ∃ broker summary worst, desk.standing? company.id kind = some (broker, summary) ∧
      Snapshot.worst? desk.multiplier points = .ok (some worst) ∧
      desk.recommendationFor company broker summary additional worst = .ok result := by
  obtain ⟨points', projected', afterPoints⟩ := Outcome.bind_ok.1 recommended
  obtain rfl := Except.ok.inj (projected.symm.trans projected')
  obtain ⟨worst?, chosen, afterWorst⟩ := Outcome.bind_ok.1 afterPoints
  rw [Outcome.liftArithmetic_ok] at chosen
  split at afterWorst
  next worst broker summary standing =>
    exact .inr ⟨broker, summary, worst, standing, chosen, afterWorst⟩
  next => exact .inl (Outcome.pure_ok.1 afterWorst).symm

/-- The cash that a report's theoretical projection assumes: a custom amount alone, or else what is
recommended together with the pending cash. -/
def TheoreticalCash (custom : Option Decimal) (report : Report) (cash : Decimal) : Prop :=
  match custom with
  | some amount => cash = amount
  | none => report.recommendation.recommended.add report.pendingCash = .ok cash

variable {date : Date} {custom : Option Decimal} {report : Report}

/-- What goes into a report besides the recommendation: the margin of the day, and the projections
without further cash, with the pending and with the theoretical cash. -/
structure Reports (desk : Desk) (company : Company) (date : Date) (custom : Option Decimal)
    (report : Report) : Prop where
  detail : desk.detail company date .live = .ok report.detail
  pendingCash_eq : report.pendingCash = custom.getD (desk.store.pendingOf company.id)
  multiplier_eq : report.multiplier = desk.multiplier
  baseline : desk.projection company date .live .empty desk.settings.daysToProject =
    .ok report.baseline
  pending : desk.projection company date .live
    (Table.empty.insert company.currency report.pendingCash) desk.settings.daysToProject =
      .ok report.pending
  theoretical : ∃ cash, TheoreticalCash custom report cash ∧
    desk.projection company date .live (Table.empty.insert company.currency cash)
      desk.settings.daysToProject = .ok report.theoretical

/-- A report recommends what is recommended with the pending cash. -/
theorem report_ok (reported : desk.report company date custom = .ok (some report)) :
    desk.Reports company date custom report ∧
      desk.recommendation company date .live
        (Table.empty.insert company.currency report.pendingCash) desk.settings.daysToProject =
          .ok report.recommendation := by
  unfold Desk.report at reported
  split at reported
  next => simp at reported
  next =>
    obtain ⟨found, recommended, afterFound⟩ := Outcome.bind_ok.1 reported
    cases custom with
    | none =>
      simp only [Outcome.bind_ok, Outcome.liftArithmetic_ok, Outcome.pure_ok, Option.some.injEq]
        at afterFound
      obtain ⟨cash, added, baseline, withNone, pending, withPending, theoretical, withCash, detail,
        detailed, rfl⟩ := afterFound
      exact ⟨⟨detailed, rfl, rfl, withNone, withPending, cash, added, withCash⟩, recommended⟩
    | some amount =>
      simp only [Outcome.bind_ok, Outcome.pure_ok, Option.some.injEq] at afterFound
      obtain ⟨cash, given, baseline, withNone, pending, withPending, theoretical, withCash, detail,
        detailed, rfl⟩ := afterFound
      exact ⟨⟨detailed, rfl, rfl, withNone, withPending, cash, given.symm, withCash⟩, recommended⟩

/-- A company has a report exactly when it has a live broker account. -/
theorem report_isSome {report? : Option Report}
    (reported : desk.report company date custom = .ok report?) :
    report?.isSome = (desk.store.broker? company.id .live).isSome := by
  unfold Desk.report at reported
  cases broker : desk.store.broker? company.id .live with
  | none =>
    rw [broker, if_pos Option.isNone_none] at reported
    rw [← Outcome.pure_ok.1 reported]
    rfl
  | some account =>
    rw [broker, if_neg (by simp)] at reported
    cases custom <;>
    · simp only [Outcome.bind_ok] at reported
      obtain ⟨_, -, _, -, _, -, _, -, _, -, _, -, collected⟩ := reported
      rw [← Outcome.pure_ok.1 collected]
      rfl

end Recommended

section Ordered

variable [Rounding] [SummationOrder] {desk : Desk} {company : Company} {date : Date}
  {custom : Option Decimal} {report : Report}

/-- How far the figures of a report can stand in another order where both were solved on the book of
its worst pending date. -/
def SolvedSlack (desk : Desk) (company : Company) (grain : Rat) (report : Report) (slack : Rat) :
    Prop :=
  ∃ broker summary worst book terms factor factor' accepted,
    desk.standing? company.id .live = some (broker, summary) ∧
    report.worst? = .ok (some worst) ∧
    depositBook company summary (Table.empty.insert company.currency report.pendingCash) worst =
      .ok book ∧
    desk.terms company broker = .ok terms ∧
    desk.Seeks terms book desk.settings.minimumTarget factor accepted ∧
    desk.Seeks terms book desk.settings.recommendedTarget factor' accepted ∧
    slack = Deposit.orderSlack grain terms book factor.toRat factor'.toRat accepted.toRat
      accepted.toRat report.recommendation.minimum.toRat report.recommendation.recommended.toRat

omit [Rounding] [SummationOrder] in
private theorem withdrawal_le {slack : Rat} (nonneg : 0 ≤ slack)
    (less : report.recommendation.minimum.toRat ≤
      report.recommendation.recommended.toRat + slack) :
    report.maximumWithdrawal.toRat ≤ report.recommendedWithdrawal.toRat + slack := by
  rw [Report.maximumWithdrawal, Report.recommendedWithdrawal, Decimal.toRat_min, Decimal.toRat_min,
    Decimal.toRat_zero, ← min_add_add_right]
  exact min_le_min less (by simpa using nonneg)

/-- **The minimum is no more than what is recommended**, as far as the search and rounding are exact,
and so a recommended withdrawal is no larger than the maximum. The exception is a minimum that was
not solved because the worst pending date meets its target already: it is zero, while cash may be
taken out. -/
theorem report_minimum_le {grain : Rat} [Rounding.Lawful grain] (small : grain ≤ 1)
    (haircut : desk.calculator = .haircut) (checked : desk.settings.check = .ok ())
    (ordered : desk.settings.minimumTarget ≤ desk.settings.recommendedTarget)
    (reported : desk.report company date custom = .ok (some report)) :
    (∃ slack : Rat, (slack = 0 ∨ desk.SolvedSlack company grain report slack) ∧
      report.recommendation.minimum.toRat ≤ report.recommendation.recommended.toRat + slack ∧
      report.maximumWithdrawal.toRat ≤ report.recommendedWithdrawal.toRat + slack) ∨
    report.recommendation.minimum = 0 ∧ report.recommendation.recommended < 0 ∧
      ∃ worst score, report.worst? = .ok (some worst) ∧
        worst.score report.multiplier = .ok score ∧ desk.settings.minimumTarget ≤ score := by
  obtain ⟨made, recommended⟩ := report_ok reported
  have multiplier := made.multiplier_eq
  rcases recommendation_ok made.pending recommended with
    empty | ⟨broker, summary, worst, standing, chosen, found⟩
  · have less : report.recommendation.minimum.toRat ≤
        report.recommendation.recommended.toRat + 0 := by rw [empty, add_zero]
    exact .inl ⟨0, .inl rfl, less, withdrawal_le le_rfl less⟩
  rw [← multiplier] at chosen
  obtain ⟨book, terms, score, booked, termed, scored, minimumIs, recommendedIs⟩ :=
    recommendationFor_ok found
  rw [← multiplier] at scored
  rcases minimumIs with ⟨meets, none⟩ | ⟨-, minimumIs⟩
  -- A minimum that was not solved is above the recommended figure only if that is a withdrawal.
  · by_cases withdrawn : report.recommendation.recommended < 0
    · exact .inr ⟨none, withdrawn, worst, score, chosen, scored, meets⟩
    · have less : report.recommendation.minimum.toRat ≤
          report.recommendation.recommended.toRat + 0 := by
        rw [none, add_zero]
        exact not_lt.1 (Decimal.lt_iff.not.1 withdrawn)
      exact .inl ⟨0, .inl rfl, less, withdrawal_le le_rfl less⟩
  -- Otherwise both figures were solved on one book.
  obtain ⟨-, -, multiplied⟩ := terms_ok termed
  have multiplierNonneg : 0 ≤ terms.multiplier.toRat := by
    rw [multiplied]
    exact (Settings.multiplier_pos checked).le
  rcases requiredCash_le small haircut (terms_atPar termed) multiplierNonneg ordered minimumIs
    recommendedIs with
    ⟨none, none'⟩ | ⟨factor, factor', accepted, slack, seeks, seeks', slackIs, nonneg, less⟩
  · have less : report.recommendation.minimum.toRat ≤
        report.recommendation.recommended.toRat + 0 := by rw [none, none', add_zero]
    exact .inl ⟨0, .inl rfl, less, withdrawal_le le_rfl less⟩
  · exact .inl ⟨slack, .inr ⟨broker, summary, worst, book, terms, factor, factor', accepted, standing,
      chosen, booked, termed, seeks, seeks', slackIs⟩, less, withdrawal_le nonneg less⟩

end Ordered

/-! ## Solved figures, and two ways out of order -/

open Projection (day fifth figure whole)

/-- Both figures are solved where the worst date scores an eighth. -/
theorem report_minimum_le_solved :
    ∃ report, (sample {} (figure false 250) [sampleEntry (day 10) 1000 1000]).report
        sampleCompany (day 10) none = .ok (some report) ∧
      report.recommendation = ⟨whole 50, whole 150⟩ ∧
      ∃ slack : Rat, (slack = 0 ∨ (sample {} (figure false 250)
          [sampleEntry (day 10) 1000 1000]).SolvedSlack sampleCompany (1 / 10 ^ 28) report slack) ∧
        report.recommendation.minimum.toRat ≤
          report.recommendation.recommended.toRat + slack := by
  obtain ⟨report, reported, figures⟩ : ∃ report,
      (sample {} (figure false 250) [sampleEntry (day 10) 1000 1000]).report
        sampleCompany (day 10) none = .ok (some report) ∧
      report.recommendation = ⟨whole 50, whole 150⟩ := by
    apply exists_of_decide
    decide +kernel
  refine ⟨report, reported, figures, ?_⟩
  rcases report_minimum_le (by norm_num) rfl (by decide +kernel) (by decide +kernel) reported with
    ⟨slack, slackIs, less, -⟩ | ⟨-, withdrawn, -⟩
  · exact ⟨slack, slackIs, less⟩
  · rw [figures] at withdrawn
    exact absurd withdrawn (by decide +kernel)

/-- The minimum of a report stands above what is recommended, by more than a thousandth of both. -/
def OutOfOrder [SummationOrder] (desk : Desk) (company : Company) (date : Date) : Prop :=
  desk.settings.check = .ok () ∧ desk.settings.minimumTarget ≤ desk.settings.recommendedTarget ∧
    ∃ report, desk.report company date none = .ok (some report) ∧
      report.recommendation.recommended.toRat + 1 / 1000 *
        (|report.recommendation.minimum.toRat| + |report.recommendation.recommended.toRat| + 1) <
      report.recommendation.minimum.toRat

/-- A date that scores two needs no minimum, and six hundred may be taken out. With a tolerance of a
fifth, the search for the lower target ends above the search for the higher one. -/
theorem report_minimum_gt :
    (sample {} (figure false 1000) [sampleEntry (day 10) 1000 1000]).OutOfOrder
        sampleCompany (day 10) ∧
      (sample { minimumTarget := 0.4, recommendedTarget := 0.5,
                search.tolerance := fifth } 0
          [sampleEntry (day 10) 1500 1000]).OutOfOrder sampleCompany (day 10) :=
  ⟨⟨by decide +kernel, by decide +kernel, exists_of_decide (by decide +kernel)⟩,
    ⟨by decide +kernel, by decide +kernel, exists_of_decide (by decide +kernel)⟩⟩

end Desk

end Collateral

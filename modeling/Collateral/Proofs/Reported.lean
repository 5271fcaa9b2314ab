import Collateral.Proofs.Recommendation

/-!
Contract: how the three projections of a report compare.

A report projects a company three times: without further cash, with the pending cash, and with the
cash that is meant to be there in the end. The walk over the dates takes no notice of that cash, so
the hedge of every date and its margin before the deposit are the same three times. Only the excess
and the margin after the deposit see the cash, and the excess sees nothing else.

Owns: what projections with different cash share, what an amount of cash makes of a snapshot, and
the comparison of the three projections.
-/

namespace Collateral

/-- Snapshots of one date that differ by no more than the cash they assume. -/
structure Snapshot.Alike (left right : Snapshot) : Prop where
  date_eq : left.date = right.date
  positions_eq : left.positions = right.positions
  totalHedge_eq : left.totalHedge = right.totalHedge
  before_eq : left.before = right.before

section Shared

variable [Rounding]

/-- A snapshot that assumes an amount of domestic cash besides the broker's own. -/
inductive Snapshot.Assumes (summary : Summary) (cash : Decimal) (point : Snapshot) : Prop where
  /-- Nothing is hedged, so the whole equity is in excess. -/
  | idle (positions : point.positions = []) (excess : point.excess = summary.equity.value)
      (before : point.before = 0) (after : point.after = 0)
  /-- What is in excess is all the cash, less the margin before the deposit. -/
  | hedged (positions : point.positions ≠ []) (worth : Decimal)
      (paid : summary.cash.value.add cash = .ok worth)
      (left : worth.sub point.before = .ok point.excess)

namespace Projection

variable {setting : Setting} {additional additional' : Table Currency Decimal} {date : Date}
  {held : Hedge} {point point' : Snapshot}

/-! ## One date -/

theorem snapshot_assumes (taken : snapshot setting additional date held = .ok point) :
    point.Assumes setting.summary ((additional.get? setting.terms.domestic).getD 0) := by
  by_cases none : held.positions = []
  · obtain rfl := snapshot_idle none taken
    exact .idle rfl rfl rfl rfl
  · obtain ⟨-, -, worth, paid, left⟩ := snapshot_hedged none taken
    have positions : point.positions = held.positions := (snapshot_ok taken).2.2
    exact .hedged (positions ▸ none) worth paid left

/-- Further cash does not touch what a snapshot holds of its hedge. -/
theorem snapshot_alike (taken : snapshot setting additional date held = .ok point)
    (taken' : snapshot setting additional' date held = .ok point') : point.Alike point' := by
  obtain ⟨dateIs, total, positions⟩ := snapshot_ok taken
  obtain ⟨dateIs', total', positions'⟩ := snapshot_ok taken'
  refine ⟨dateIs.trans dateIs'.symm, positions.trans positions'.symm, total.trans total'.symm, ?_⟩
  by_cases none : held.positions = []
  · rw [snapshot_idle none taken, snapshot_idle none taken']
  · have before := (snapshot_hedged none taken).1
    have before' := (snapshot_hedged none taken').1
    exact Except.ok.inj (before.symm.trans before')

/-- Without further cash the deposit changes nothing. -/
theorem snapshot_after_empty (taken : snapshot setting .empty date held = .ok point) :
    point.after = point.before := by
  by_cases none : held.positions = []
  · rw [snapshot_idle none taken]
  · obtain ⟨-, after, -⟩ := snapshot_hedged none taken
    exact (Outcome.pure_ok.1 after).symm

/-! ## All dates -/

variable {asOf : Date} {days : Nat} {accounts : List HedgedAccount} {points points' : List Snapshot}

/-- Projections that differ by their cash visit the same dates and find the same hedges. -/
theorem run_alike (ran : run setting asOf days accounts additional = .ok points)
    (ran' : run setting asOf days accounts additional' = .ok points') :
    List.Forall₂ Snapshot.Alike points points' := by
  rw [run, walk_eq_mapM _ (eventDates_ascending _ _ _)] at ran ran'
  apply Outcome.forall₂_of_mapM _ ran ran'
  intro date point point' taken taken'
  obtain ⟨held, hedged, snapped⟩ := Outcome.bind_ok.1 taken
  obtain ⟨held', hedged', snapped'⟩ := Outcome.bind_ok.1 taken'
  obtain rfl := Except.ok.inj (hedged.symm.trans hedged')
  exact snapshot_alike snapped snapped'

end Projection

namespace Desk

variable {desk : Desk} {company : Company} {date : Date} {days : Nat} {kind : AccountKind}
  {additional additional' : Table Currency Decimal} {points points' : List Snapshot}
  {point : Snapshot}

/-! ## The projections of a desk -/

/-- Whether a desk projects anything, and on which terms, does not depend on further cash. -/
theorem projection_alike
    (projected : desk.projection company date kind additional days = .ok points)
    (projected' : desk.projection company date kind additional' days = .ok points') :
    List.Forall₂ Snapshot.Alike points points' := by
  unfold projection at projected projected'
  cases standing : desk.standing? company.id kind with
  | none =>
    rw [standing] at projected projected'
    rw [← Outcome.pure_ok.1 projected, ← Outcome.pure_ok.1 projected']
    exact .nil
  | some found =>
    rw [standing] at projected projected'
    simp only at projected projected'
    split at projected
    next none =>
      rw [if_pos none] at projected'
      rw [← Outcome.pure_ok.1 projected, ← Outcome.pure_ok.1 projected']
      exact .nil
    next some =>
      rw [if_neg some] at projected'
      obtain ⟨terms, termed, ran⟩ := Outcome.bind_ok.1 projected
      obtain ⟨terms', termed', ran'⟩ := Outcome.bind_ok.1 projected'
      obtain rfl := Except.ok.inj (termed.symm.trans termed')
      exact Projection.run_alike ran ran'

/-- A point of a desk's projection is a snapshot on the terms of the company's broker account. -/
private theorem exists_snapshot_of_mem_projection
    (projected : desk.projection company date kind additional days = .ok points)
    (member : point ∈ points) :
    ∃ broker summary terms held, desk.standing? company.id kind = some (broker, summary) ∧
      terms.domestic = company.currency ∧
      Projection.snapshot ⟨desk.calculator, terms, summary⟩ additional point.date held =
        .ok point := by
  cases standing : desk.standing? company.id kind with
  | none =>
    unfold projection at projected
    rw [standing] at projected
    rw [← Outcome.pure_ok.1 projected] at member
    exact absurd member List.not_mem_nil
  | some found =>
    obtain ⟨terms, termed, ran⟩ :=
      projection_ok standing projected (List.ne_nil_of_mem member)
    obtain ⟨held, -, taken⟩ := Projection.exists_hedge_of_mem_run ran member
    exact ⟨found.1, found.2, terms, held, rfl, (terms_ok termed).1, taken⟩

/-- All points assume an amount of domestic cash besides what the company's broker holds. -/
def AssumedBy (desk : Desk) (company : Company) (kind : AccountKind) (cash : Decimal)
    (points : List Snapshot) : Prop :=
  ∀ point ∈ points, ∃ broker summary, desk.standing? company.id kind = some (broker, summary) ∧
    point.Assumes summary cash

theorem projection_assumedBy
    (projected : desk.projection company date kind additional days = .ok points) :
    desk.AssumedBy company kind ((additional.get? company.currency).getD 0) points := by
  intro point member
  obtain ⟨broker, summary, terms, held, standing, domestic, taken⟩ :=
    exists_snapshot_of_mem_projection projected member
  have assumes := Projection.snapshot_assumes taken
  rw [domestic] at assumes
  exact ⟨broker, summary, standing, assumes⟩

theorem projection_after_empty
    (projected : desk.projection company date kind .empty days = .ok points) :
    ∀ point ∈ points, point.after = point.before := by
  intro point member
  obtain ⟨broker, summary, terms, held, -, -, taken⟩ :=
    exists_snapshot_of_mem_projection projected member
  exact Projection.snapshot_after_empty taken

/-! ## The projections of a report -/

variable {custom : Option Decimal} {report : Report}

omit [Rounding] in
private theorem getD_get?_single (currency : Currency) (cash : Decimal) :
    ((Table.empty.insert currency cash).get? currency).getD 0 = cash := by
  rw [Table.get?_insert, if_pos rfl, Option.getD_some]

/-- **The three projections of a report differ by the cash they assume, and by nothing else.** They
agree point by point in date, hedge and margin before the deposit. Without further cash the deposit
changes nothing. Where nothing is hedged the whole equity is in excess, and otherwise the excess is
what the broker's cash and the assumed cash leave over that margin. -/
theorem report_projections_alike [SummationOrder]
    (reported : desk.report company date custom = .ok (some report)) :
    List.Forall₂ Snapshot.Alike report.baseline report.pending ∧
      List.Forall₂ Snapshot.Alike report.baseline report.theoretical ∧
      (∀ point ∈ report.baseline, point.after = point.before) ∧
      desk.AssumedBy company .live 0 report.baseline ∧
      report.pendingCash = custom.getD (desk.store.pendingOf company.id) ∧
      desk.AssumedBy company .live report.pendingCash report.pending ∧
      ∃ cash, TheoreticalCash custom report cash ∧
        desk.AssumedBy company .live cash report.theoretical := by
  obtain ⟨made, -⟩ := report_ok reported
  obtain ⟨cash, cashIs, withCash⟩ := made.theoretical
  have assumedPending := projection_assumedBy made.pending
  have assumedCash := projection_assumedBy withCash
  rw [getD_get?_single] at assumedPending assumedCash
  exact ⟨projection_alike made.baseline made.pending, projection_alike made.baseline withCash,
    projection_after_empty made.baseline, projection_assumedBy made.baseline, made.pendingCash_eq,
    assumedPending, cash, cashIs, assumedCash⟩

end Desk

end Shared

/-! ## A report over a hedged and an idle date -/

namespace Desk

open Projection (day figure whole)

/-- Exposure in foreign currencies gives way to exposure in dollars. A deposit is announced. -/
def rollingOff : Desk :=
  let desk := sample {} (figure false 250) [sampleEntry (day 10) 1000 1000,
    ⟨day 12, [(⟨"USD"⟩, whole 7)]⟩]
  { desk with store := desk.store.apply (.setPending sampleCompany.id (whole 40)) }

/-- A hundred and ten are recommended on top of the forty that are announced. -/
theorem report_projections_alike_rollingOff :
    ∃ report, rollingOff.report sampleCompany (day 10) none = .ok (some report) ∧
      (report.baseline.map Snapshot.excess = [whole 50, 0] ∧
        report.pending.map Snapshot.excess = [whole 90, 0] ∧
        report.theoretical.map Snapshot.excess = [whole 200, 0]) ∧
      List.Forall₂ Snapshot.Alike report.baseline report.pending ∧
      List.Forall₂ Snapshot.Alike report.baseline report.theoretical ∧
      (∀ point ∈ report.baseline, point.after = point.before) ∧
      rollingOff.AssumedBy sampleCompany .live 0 report.baseline ∧
      rollingOff.AssumedBy sampleCompany .live (whole 40) report.pending ∧
      rollingOff.AssumedBy sampleCompany .live (whole 150) report.theoretical := by
  obtain ⟨report, reported, figures, recommended⟩ : ∃ report,
      rollingOff.report sampleCompany (day 10) none = .ok (some report) ∧
      (report.baseline.map Snapshot.excess = [whole 50, 0] ∧
        report.pending.map Snapshot.excess = [whole 90, 0] ∧
        report.theoretical.map Snapshot.excess = [whole 200, 0]) ∧
      report.recommendation.recommended = whole 110 := by
    apply exists_of_decide
    decide +kernel
  obtain ⟨alike, alike', after, assumed, pendingIs, assumedPending, cash, cashIs, assumedCash⟩ :=
    report_projections_alike reported
  have pending : report.pendingCash = whole 40 := pendingIs.trans (by decide +kernel)
  have theoretical : cash = whole 150 := by
    rw [TheoreticalCash, recommended, pending] at cashIs
    exact Except.ok.inj (cashIs.symm.trans (by decide +kernel))
  rw [pending] at assumedPending
  rw [theoretical] at assumedCash
  exact ⟨report, reported, figures, alike, alike', after, assumed, assumedPending, assumedCash⟩

end Desk

end Collateral

import Collateral.Desk.Monitor
import Collateral.Proofs.Recommendation
import Collateral.Proofs.StoredSchedules

/-!
Contract: a desk answers for companies of which it knows too little, and no error arises.

Every query asks for the broker account first, and for an active account and a summary next. Where
one of them is missing it answers before it converts, margins or solves anything. A company with all
three may still have nothing to project; then only the haircuts have been asked for, and checked
settings always have some.

Owns: the answers for companies without a broker account, for companies that are not margined, and
for companies whose exposure does not change within the horizon.
-/

namespace Collateral

open Projection (Plan)

/-- Without an entry within the horizon there is no date to visit. -/
theorem Projection.eventDates_eq_nil {plans : List Plan} {first last : Date}
    (quiet : ∀ plan ∈ plans, ∀ entry ∈ plan.entries, ¬(first ≤ entry.date ∧ entry.date ≤ last)) :
    eventDates (plans.map Plan.account) first last = [] := by
  apply List.eq_nil_iff_forall_not_mem.2
  intro date visited
  obtain ⟨⟨account, listed, dated⟩, lower, upper⟩ := mem_eventDates.1 visited
  obtain ⟨plan, planned, rfl⟩ := List.mem_map.1 listed
  obtain ⟨entry, member, rfl⟩ := Schedule.mem_dates_ofEntries.1 dated
  exact quiet plan planned entry member ⟨lower, upper⟩

theorem Store.mem_plansOf {store : Store} {company : CompanyId} {kind : AccountKind} {plan : Plan} :
    plan ∈ store.plansOf company kind ↔
      ∃ account ∈ store.accountsOf company kind, account.active = true ∧
        ∃ hedge, account.hedge = some hedge ∧
          plan = ⟨account.id, hedge.ratio.value, store.exposuresOf account.id⟩ := by
  simp only [plansOf, List.mem_filterMap, List.mem_filter, Option.map_eq_some_iff]
  constructor
  · rintro ⟨account, ⟨owned, active⟩, hedge, hedged, rfl⟩
    exact ⟨account, owned, active, hedge, hedged, rfl⟩
  · rintro ⟨account, owned, active, hedge, hedged, rfl⟩
    exact ⟨account, ⟨owned, active⟩, hedge, hedged, rfl⟩

namespace Desk

variable {desk : Desk} {company : Company} {date : Date} {kind : AccountKind} {days : Nat}
  {additional : Table Currency Decimal} {custom : Option Decimal} {proposed : List FxPosition}

/-! ## Companies that are not margined -/

theorem standing?_eq_none :
    desk.standing? company.id kind = none ↔
      desk.store.broker? company.id kind = none ∨
        desk.store.isActive company.id kind = false ∨
        desk.store.summary? company.id kind = none := by
  unfold standing?
  cases desk.store.broker? company.id kind with
  | none => simp
  | some account =>
    cases desk.store.isActive company.id kind with
    | false => simp
    | true => cases desk.store.summary? company.id kind <;> simp

section Answers

variable [Rounding]

theorem detail_of_unmargined (missing : desk.standing? company.id kind = none) :
    desk.detail company date kind = .ok (.empty company.id date) := by
  rw [detail, missing]
  rfl

theorem projection_of_unmargined (missing : desk.standing? company.id kind = none) :
    desk.projection company date kind additional days = .ok [] := by
  rw [projection, missing]
  rfl

theorem detailOfProposed_of_noBroker (missing : desk.store.broker? company.id kind = none) :
    desk.detailOfProposed company date kind proposed = .ok none := by
  rw [detailOfProposed, missing]
  rfl

theorem report_of_noBroker [SummationOrder] (missing : desk.store.broker? company.id .live = none) :
    desk.report company date custom = .ok none := by
  rw [report, missing]
  rfl

theorem check_of_noBroker [SummationOrder] (missing : desk.store.broker? company.id .live = none) :
    desk.check company date = .ok ⟨.noReport, none, none⟩ := by
  rw [check, report_of_noBroker missing]
  rfl

/-- The report of a company that has a broker account and no more holds nothing but the pending
cash. -/
theorem report_of_unmargined [SummationOrder] {grain : Rat} [Rounding.Lawful grain]
    (brokered : (desk.store.broker? company.id .live).isSome)
    (missing : desk.standing? company.id .live = none) :
    desk.report company date custom = .ok (some {
      detail := .empty company.id date
      recommendation := {}
      pendingCash := custom.getD (desk.store.pendingOf company.id)
      multiplier := desk.multiplier
      baseline := []
      pending := []
      theoretical := [] }) := by
  have projected (additional : Table Currency Decimal) :
      desk.projection company date .live additional desk.settings.daysToProject = .ok [] :=
    projection_of_unmargined missing
  unfold report
  rw [if_neg (by simpa [Option.isSome_iff_ne_none] using brokered)]
  simp only [projected, recommendation_of_projection_nil (projected _),
    detail_of_unmargined missing]
  cases custom with
  | some amount => rfl
  | none =>
    -- The cash of the theoretical projection is the pending cash plus nothing.
    have added (amount : Decimal) :
        liftM (Decimal.add 0 amount) = (.ok amount : Except Failure Decimal) := by
      rw [Decimal.zero_add_ok]
      rfl
    change (liftM (Decimal.add 0 _) : Except Failure Decimal) >>= _ = _
    rw [added]
    rfl

/-! ## Companies with nothing to project -/

/-- Without an entry within the horizon a margined company has an empty projection. -/
theorem projection_of_quiet (checked : desk.settings.check = .ok ())
    (quiet : ∀ plan ∈ desk.store.plansOf company.id kind, ∀ entry ∈ plan.entries,
      ¬(date ≤ entry.date ∧ entry.date ≤ date.ahead days)) :
    desk.projection company date kind additional days = .ok [] := by
  cases standing : desk.standing? company.id kind with
  | none => exact projection_of_unmargined standing
  | some found =>
    obtain ⟨broker, summary⟩ := found
    obtain ⟨haircuts, counted⟩ := exists_haircuts checked broker
    rw [projection_of_standing standing counted, Projection.run, Projection.eventDates_eq_nil quiet]
    rfl

/-- The answers about a company that has nothing to margin. -/
structure AnswersEmpty [SummationOrder] (desk : Desk) (company : Company) (date : Date)
    (kind : AccountKind) : Prop where
  detail : desk.detail company date kind = .ok ⟨company.id, date, 0, 0⟩
  projection : ∀ additional days,
    desk.projection company date kind additional days = .ok []
  recommendation : ∀ additional days,
    desk.recommendation company date kind additional days = .ok ⟨0, 0⟩

theorem answersEmpty_of_unmargined [SummationOrder]
    (missing : desk.standing? company.id kind = none) : desk.AnswersEmpty company date kind where
  detail := detail_of_unmargined missing
  projection _ _ := projection_of_unmargined missing
  recommendation _ _ := recommendation_of_projection_nil (projection_of_unmargined missing)

end Answers

/-- **Data that is missing never makes a desk fail.** Without a broker account all answers are
empty, and there is neither a report nor an alert. Without an active account or a summary the
answers are empty too, and a report holds nothing but the cash it was asked for. Without an entry
within the horizon nothing is projected or recommended. -/
theorem answers_of_missing [SummationOrder] (checked : desk.settings.check = .ok ()) :
    (desk.store.broker? company.id kind = none →
      desk.AnswersEmpty company date kind ∧
      (∀ proposed, desk.detailOfProposed company date kind proposed = .ok none) ∧
      (kind = .live →
        (∀ custom, desk.report company date custom = .ok none) ∧
        desk.check company date = .ok ⟨.noReport, none, none⟩)) ∧
    (desk.store.isActive company.id kind = false ∨ desk.store.summary? company.id kind = none →
      desk.AnswersEmpty company date kind ∧
      (kind = .live → (desk.store.broker? company.id kind).isSome →
        ∀ custom, desk.report company date custom = .ok (some {
          detail := ⟨company.id, date, 0, 0⟩
          recommendation := ⟨0, 0⟩
          pendingCash := custom.getD (desk.store.pendingOf company.id)
          multiplier := desk.multiplier
          baseline := []
          pending := []
          theoretical := [] }))) ∧
    ((∀ account ∈ desk.store.accountsOf company.id kind, account.active = true →
        account.hedge.isSome → ∀ entry ∈ desk.store.exposuresOf account.id,
        ¬(date ≤ entry.date ∧ entry.date ≤ date.ahead days)) →
      desk.projection company date kind additional days = .ok [] ∧
      desk.recommendation company date kind additional days = .ok ⟨0, 0⟩) := by
  refine ⟨?noBroker, ?unmargined, ?quiet⟩
  case noBroker =>
    intro missing
    refine ⟨?_, fun _ => detailOfProposed_of_noBroker missing, ?_⟩
    · exact answersEmpty_of_unmargined (standing?_eq_none.2 (.inl missing))
    · rintro rfl
      exact ⟨fun _ => report_of_noBroker missing, check_of_noBroker missing⟩
  case unmargined =>
    intro missing
    have unmargined := standing?_eq_none.2 (.inr missing)
    refine ⟨answersEmpty_of_unmargined unmargined, ?_⟩
    rintro rfl brokered custom
    exact report_of_unmargined brokered unmargined
  case quiet =>
    intro quiet
    have projected : desk.projection company date kind additional days = .ok [] := by
      apply projection_of_quiet checked
      intro plan planned
      obtain ⟨account, owned, active, hedge, hedged, rfl⟩ := Store.mem_plansOf.1 planned
      exact quiet account owned active (Option.isSome_of_mem hedged)
    exact ⟨projected, recommendation_of_projection_nil projected⟩

/-! ## Desks on which every conversion and every margin fails -/

open Projection (day whole)

/-- No spot rate is quoted, no haircut is published, and no book has a margin. The entries of the
only account lie before and behind the ten days from the tenth on. -/
private def lost : Desk :=
  let desk := sample {} 0 [sampleEntry (day 9) 3000 1000, sampleEntry (day 21) 3000 1000]
  { desk with
    calculator := {
      ofBook _ _ := .error (.arithmetic .divisionByZero)
      ofHoldings _ _ _ := .error (.arithmetic .divisionByZero) }
    store := { desk.store with
      spot := ⟨⟨"USD"⟩, .empty⟩
      holdings := Table.empty.insert sampleCompany.id { cash := ⟨Table.ofList [(⟨"GBP"⟩, 1)]⟩ }
      haircuts := .empty
      pending := Table.empty.insert sampleCompany.id (whole 7) } }

/-- The desk before the broker account is known. -/
private def unbrokered : Desk :=
  { lost with store := { lost.store with brokers := .empty } }

/-- The desk before the broker has reported. -/
private def unreported : Desk :=
  { lost with store := { lost.store with summaries := .empty } }

/-- Neither desk fails, nor does the full one as long as it is only asked for the ten days. -/
theorem answers_of_missing_lost :
    (lost.detail sampleCompany (day 10) .live).isOk = false ∧
    (lost.projection sampleCompany (day 10) .live .empty 11).isOk = false ∧
    unbrokered.AnswersEmpty sampleCompany (day 10) .live ∧
    unbrokered.check sampleCompany (day 10) = .ok ⟨.noReport, none, none⟩ ∧
    unreported.AnswersEmpty sampleCompany (day 10) .live ∧
    (unreported.report sampleCompany (day 10) none).map (Option.map Report.pendingCash) =
      .ok (some (whole 7)) ∧
    lost.projection sampleCompany (day 10) .live .empty 10 = .ok [] ∧
    lost.recommendation sampleCompany (day 10) .live .empty 10 = .ok ⟨0, 0⟩ := by
  have checked : lost.settings.check = .ok () := by decide +kernel
  have answers (desk : Desk) (sameSettings : desk.settings.check = .ok ()) :=
    @answers_of_missing desk sampleCompany (day 10) .live 10 .empty _ sameSettings
  obtain ⟨noBroker, -, -⟩ := answers unbrokered checked
  obtain ⟨-, noSummary, -⟩ := answers unreported checked
  obtain ⟨-, -, quiet⟩ := answers lost checked
  obtain ⟨unbrokeredEmpty, -, unbrokeredLive⟩ := noBroker (by decide +kernel)
  obtain ⟨unreportedEmpty, reportIs⟩ := noSummary (.inr (by decide +kernel))
  refine ⟨by decide +kernel, by decide +kernel, unbrokeredEmpty, (unbrokeredLive rfl).2,
    unreportedEmpty, ?_, quiet (by decide +kernel)⟩
  rw [reportIs rfl (by decide +kernel) none]
  decide +kernel

end Desk

end Collateral

import Collateral.Proofs.CheckedSettings
import Collateral.Proofs.Projected

/-!
Contract: a desk projects all that its store holds about a company.

Before it projects, a desk cuts every schedule off behind the horizon and leaves out the accounts of
which nothing remains. None of that shows. An entry behind the horizon is neither visited nor in
force on a date that is, and an account without any other entry has nothing in force there.

Owns: the plans of a company as the store holds them, and that cutting them off changes neither the
dates nor what is outstanding on them.
-/

namespace Collateral

/-- Entries behind a date are not in force on it. -/
theorem inForce?_upTo {entries : List Exposure} {date last : Date} (within : date ≤ last) :
    inForce? (entries.filter (·.date ≤ last)) date = inForce? entries date := by
  have due : (entries.filter (·.date ≤ last)).filter (·.date ≤ date) =
      entries.filter (·.date ≤ date) := by
    rw [List.filter_filter]
    apply List.filter_congr
    intro entry _
    simp only [Bool.and_eq_left_iff_imp, decide_eq_true_eq]
    intro due
    exact Date.le_trans due within
  rw [inForce?, due]
  rfl

namespace Projection

/-! ## Plans that are cut off -/

/-- A plan without its entries behind a date. -/
def Plan.upTo (last : Date) (plan : Plan) : Plan :=
  { plan with entries := plan.entries.filter (·.date ≤ last) }

/-- The plans without their entries behind a date, as far as anything is left of them. -/
def cutOff (last : Date) (plans : List Plan) : List Plan :=
  (plans.map (Plan.upTo last)).filter fun plan => !plan.entries.isEmpty

/-- What is outstanding on a date is what the plans hold up to it, or up to any later one. -/
theorem outstandingOn_cutOff {date last : Date} (within : date ≤ last) (plans : List Plan) :
    outstandingOn (cutOff last plans) date = outstandingOn plans date := by
  induction plans with
  | nil => rfl
  | cons plan plans inductionHypothesis =>
    have held : inForce? (plan.upTo last).entries date = inForce? plan.entries date :=
      inForce?_upTo within
    unfold outstandingOn cutOff at inductionHypothesis ⊢
    rw [List.map_cons, List.flatMap_cons, ← inductionHypothesis, ← held]
    by_cases nothing : (plan.upTo last).entries = []
    · -- Nothing of a plan that is left out is in force.
      rw [List.filter_cons_of_neg (by simp [nothing]), nothing]
      rfl
    · rw [List.filter_cons_of_pos (by simpa using nothing), List.flatMap_cons]
      rfl

private theorem mem_dates_cutOff {date last : Date} (within : date ≤ last) (plans : List Plan) :
    (∃ account ∈ (cutOff last plans).map Plan.account, date ∈ account.schedule.dates) ↔
      ∃ account ∈ plans.map Plan.account, date ∈ account.schedule.dates := by
  simp only [cutOff, List.mem_map, List.mem_filter, Plan.account, exists_exists_and_eq_and,
    Schedule.mem_dates_ofEntries, Bool.not_eq_true', List.isEmpty_eq_false_iff]
  constructor
  · rintro ⟨shorter, ⟨⟨plan, planned, rfl⟩, -⟩, entry, member, dated⟩
    exact ⟨plan, planned, entry, List.mem_of_mem_filter member, dated⟩
  · rintro ⟨plan, planned, entry, member, rfl⟩
    have kept : entry ∈ (plan.upTo last).entries :=
      List.mem_filter.2 ⟨member, decide_eq_true within⟩
    exact ⟨plan.upTo last, ⟨⟨plan, planned, rfl⟩, List.ne_nil_of_mem kept⟩, entry, kept, rfl⟩

/-- No date within the horizon is lost. -/
theorem eventDates_cutOff (plans : List Plan) (first last : Date) :
    eventDates ((cutOff last plans).map Plan.account) first last =
      eventDates (plans.map Plan.account) first last := by
  have irreflexive : Std.Irrefl (α := Date) (· < ·) := ⟨fun date => Int.lt_irrefl date.day⟩
  have antisymmetric : Std.Antisymm (α := Date) (· < ·) :=
    ⟨fun left right less greater => absurd less (Int.lt_asymm greater)⟩
  apply List.Pairwise.eq_of_mem_iff (eventDates_ascending _ _ _) (eventDates_ascending _ _ _)
  intro date
  rw [mem_eventDates, mem_eventDates]
  constructor
  · rintro ⟨dated, lower, upper⟩
    exact ⟨(mem_dates_cutOff upper plans).1 dated, lower, upper⟩
  · rintro ⟨dated, lower, upper⟩
    exact ⟨(mem_dates_cutOff upper plans).2 dated, lower, upper⟩

/-- Cutting plans off behind the horizon changes neither the snapshots nor a failure. -/
theorem run_cutOff [Rounding] (setting : Setting) (additional : Table Currency Decimal)
    (asOf : Date) (days : Nat) (plans : List Plan) :
    run setting asOf days ((cutOff (asOf.ahead days) plans).map Plan.account) additional =
      run setting asOf days (plans.map Plan.account) additional := by
  rw [run_eq_mapM, run_eq_mapM, eventDates_cutOff]
  apply Outcome.mapM_congr
  intro date visited
  have within : date ≤ asOf.ahead days := (mem_eventDates.1 visited).2.2
  rw [snapshotOn, snapshotOn, hedgeOn, hedgeOn, outstandingOn_cutOff within plans]

end Projection

/-! ## The plans of a company -/

/-- The entries of an account as the store holds them; none where nothing was set. -/
def Store.exposuresOf (store : Store) (account : AccountId) : List Exposure :=
  (store.exposures.get? account).getD []

/-- The active accounts of a company that have hedge settings, in order of arrival, with the ratios
of their settings and all their entries. -/
def Store.plansOf (store : Store) (company : CompanyId) (kind : AccountKind) :
    List Projection.Plan :=
  ((store.accountsOf company kind).filter Account.active).filterMap fun account =>
    account.hedge.map fun hedge =>
      ⟨account.id, hedge.ratio.value, store.exposuresOf account.id⟩

namespace Desk

open Projection (cutOff Plan)

variable {desk : Desk} {company : Company} {date : Date} {kind : AccountKind} {days : Nat}
  {additional : Table Currency Decimal} {broker : BrokerAccount} {summary : Summary}

/-- The accounts that a desk projects are the plans of the store, cut off. -/
theorem hedgedAccounts_eq (desk : Desk) (company : CompanyId) (kind : AccountKind) (last : Date) :
    desk.hedgedAccounts company kind last =
      (cutOff last (desk.store.plansOf company kind)).map Plan.account := by
  unfold hedgedAccounts Store.plansOf cutOff
  rw [List.map_filterMap, List.filter_filterMap, List.map_filterMap]
  congr 1
  funext account
  cases account.hedge with
  | none => rfl
  | some hedge =>
    have same : desk.store.exposuresUpTo account.id last =
        (desk.store.exposuresOf account.id).filter (·.date ≤ last) := rfl
    by_cases nothing : desk.store.exposuresUpTo account.id last = []
    · simp [nothing, Plan.upTo, ← same]
    · simp [nothing, Plan.upTo, Plan.account, ← same]

/-- A company is margined when it has a broker account, an active account and a summary. -/
theorem standing?_eq_some :
    desk.standing? company.id kind = some (broker, summary) ↔
      desk.store.broker? company.id kind = some broker ∧
        desk.store.isActive company.id kind = true ∧
        desk.store.summary? company.id kind = some summary := by
  unfold standing?
  cases desk.store.broker? company.id kind with
  | none => simp
  | some account =>
    cases desk.store.isActive company.id kind with
    | false => simp
    | true => cases desk.store.summary? company.id kind <;> simp

section Projected

variable [Rounding]

/-- The projection of a margined company is that of its plans. -/
theorem projection_of_standing {haircuts : Haircuts}
    (standing : desk.standing? company.id kind = some (broker, summary))
    (found : desk.haircuts broker = .ok haircuts) :
    desk.projection company date kind additional days =
      Projection.run ⟨desk.calculator,
          ⟨company.currency, desk.store.spot.quotes, haircuts, desk.multiplier⟩, summary⟩
        date days ((desk.store.plansOf company.id kind).map Plan.account) additional := by
  rw [← Projection.run_cutOff, ← hedgedAccounts_eq]
  unfold projection
  rw [standing]
  dsimp only
  split
  next nothing =>
    -- Without accounts there is no date to visit, so the terms are not asked for.
    rw [List.isEmpty_iff.1 nothing]
    rfl
  next =>
    rw [terms_of_haircuts company found]
    rfl

/-- **The projection of a desk is the projection of the raw data in its store.** For a company that
has a broker account, an active account and a summary, it answers as the engine does on the store's
spot rates, the haircuts that count for the broker, that summary, and the active accounts with hedge
settings in order of arrival, each with all its entries. Both may be the same failure. -/
theorem projection_eq_run_plansOf (checked : desk.settings.check = .ok ())
    (brokered : desk.store.broker? company.id kind = some broker)
    (active : desk.store.isActive company.id kind = true)
    (summarized : desk.store.summary? company.id kind = some summary) :
    ∃ haircuts, desk.CountsHaircuts broker haircuts ∧
      desk.projection company date kind additional days =
        Projection.run ⟨desk.calculator,
            ⟨company.currency, desk.store.spot.quotes, haircuts, desk.multiplier⟩, summary⟩
          date days ((desk.store.plansOf company.id kind).map Plan.account) additional := by
  obtain ⟨haircuts, found⟩ := exists_haircuts checked broker
  have standing := standing?_eq_some.2 ⟨brokered, active, summarized⟩
  exact ⟨haircuts, haircuts_ok.1 found, projection_of_standing standing found⟩

end Projected

/-! ## A desk with more than it projects -/

open Projection (day fifth figure whole)

/-- Besides the first account there is one with a late entry only, one that is not active and one
without hedge settings. A fifth of what the first account is exposed to is hedged, and its broker
publishes no haircuts. -/
private def crowded : Desk :=
  let desk := sample {} (figure false 250) []
  { desk with store := { desk.store with
      accounts := [
        ⟨⟨"first"⟩, sampleCompany.id, .live, true, some { ratio := fifth }⟩,
        ⟨⟨"late"⟩, sampleCompany.id, .live, true, some {}⟩,
        ⟨⟨"closed"⟩, sampleCompany.id, .live, false, some {}⟩,
        ⟨⟨"bare"⟩, sampleCompany.id, .live, true, none⟩]
      exposures := Table.ofList [
        (⟨"first"⟩, [sampleEntry (day 40) 1 1, sampleEntry (day 5) 3000 1000,
          sampleEntry (day 12) 1000 1000]),
        (⟨"late"⟩, [sampleEntry (day 16) 1 1]),
        (⟨"closed"⟩, [sampleEntry (day 11) 1 1]),
        (⟨"bare"⟩, [sampleEntry (day 11) 1 1])]
      haircuts := .empty } }

/-- One of two plans is projected, on its only date within the horizon. -/
theorem projection_eq_run_plansOf_crowded :
    (crowded.store.plansOf sampleCompany.id .live).map (·.entries.length) = [3, 1] ∧
    (crowded.hedgedAccounts sampleCompany.id .live ((day 10).ahead 5)).map HedgedAccount.id =
      [⟨"first"⟩] ∧
    (crowded.projection sampleCompany (day 10) .live .empty 5).map
        (List.map fun point => (point.date, point.before)) = .ok [(day 12, whole 40)] ∧
    ∃ haircuts, crowded.CountsHaircuts sampleBroker haircuts ∧
      crowded.projection sampleCompany (day 10) .live .empty 5 =
        Projection.run ⟨.haircut, ⟨⟨"USD"⟩, crowded.store.spot.quotes, haircuts, 2⟩,
            { cash := figure false 250 }⟩
          (day 10) 5 ((crowded.store.plansOf sampleCompany.id .live).map Plan.account) .empty := by
  have checked : crowded.settings.check = .ok () := by decide +kernel
  have brokered : crowded.store.broker? sampleCompany.id .live = some sampleBroker := by
    decide +kernel
  have active : crowded.store.isActive sampleCompany.id .live = true := by decide +kernel
  have summarized : crowded.store.summary? sampleCompany.id .live =
      some { cash := figure false 250 } := by decide +kernel
  refine ⟨by decide +kernel, by decide +kernel, by decide +kernel, ?_⟩
  exact projection_eq_run_plansOf checked brokered active summarized

end Desk

end Collateral

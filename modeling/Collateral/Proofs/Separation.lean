import Collateral.Proofs.EntryOrder
import Collateral.Proofs.StoredSchedules

/-!
Contract: companies do not see each other, and live accounts do not see demo accounts.

A store keeps several maps with different keys, and a query reads most of them. What it reads about
one company and one kind of account is a small part of the store, and a change that avoids this
part leaves it as it is. The answers depend on nothing else, so they do not move either, however
many such changes are made.

Nothing but the recommended deposits depends on the order in which a book is added up. An answer
that takes the same order before and after the changes is the same one; where the order changes too,
the alert and the rest of a report still do not. The rule for margins is any function of books, so
it may go through their balances in any order.

Owns: the part of a store that counts for a company and a kind of account, the changes that avoid
it, and that every answer is drawn from it, in every order of summation.
-/

namespace Collateral

/-! ## What counts for a company -/

/-- Two stores hold the same about a company and a kind of account. -/
structure Store.SameFor (company : CompanyId) (kind : AccountKind) (left right : Store) : Prop where
  spot : right.spot = left.spot
  accounts : right.accountsOf company kind = left.accountsOf company kind
  exposures : ∀ account ∈ left.accountsOf company kind,
    right.exposures.get? account.id = left.exposures.get? account.id
  broker : right.broker? company kind = left.broker? company kind
  haircuts : ∀ broker ∈ left.broker? company kind,
    right.haircuts? broker.broker = left.haircuts? broker.broker
  summary : right.summary? company kind = left.summary? company kind
  holdings : right.holdingsOf company = left.holdingsOf company
  pending : right.pendingOf company = left.pendingOf company
  health : ∀ date, right.health? company date = left.health? company date

namespace Store.SameFor

variable {company : CompanyId} {kind : AccountKind} {left middle right : Store}

theorem refl (store : Store) : store.SameFor company kind store :=
  ⟨rfl, rfl, fun _ _ => rfl, rfl, fun _ _ => rfl, rfl, rfl, rfl, fun _ => rfl⟩

theorem trans (first : left.SameFor company kind middle)
    (second : middle.SameFor company kind right) : left.SameFor company kind right where
  spot := second.spot.trans first.spot
  accounts := second.accounts.trans first.accounts
  exposures account owned :=
    (second.exposures account (first.accounts ▸ owned)).trans (first.exposures account owned)
  broker := second.broker.trans first.broker
  haircuts broker found :=
    (second.haircuts broker (first.broker ▸ found)).trans (first.haircuts broker found)
  summary := second.summary.trans first.summary
  holdings := second.holdings.trans first.holdings
  pending := second.pending.trans first.pending
  health date := (second.health date).trans (first.health date)

theorem isActive (same : left.SameFor company kind right) :
    right.isActive company kind = left.isActive company kind := by
  rw [Store.isActive, same.accounts, Store.isActive]

end Store.SameFor

/-! ## Changes that avoid it -/

/-- The change is to nothing that counts for a company and a kind of account. -/
def Change.Avoids (store : Store) (company : CompanyId) (kind : AccountKind) : Change → Prop
  | .addAccount account => ¬(account.company = company ∧ account.kind = kind)
  | .setHoldings owner _ | .setPending owner _ => owner ≠ company
  | .setBroker owner broker => ¬(owner = company ∧ broker.kind = kind)
  | .setSummary owner summarized _ => ¬(owner = company ∧ summarized = kind)
  | .setExposures account _ => ∀ owned ∈ store.accountsOf company kind, owned.id ≠ account
  | .setSpot _ => False
  | .setHaircuts haircuts => ∀ broker ∈ store.broker? company kind, broker.broker ≠ haircuts.broker
  | .recordHealth record => record.company ≠ company

namespace Store

variable {company : CompanyId} {kind : AccountKind} {store left right : Store} {change : Change}

/-- A change that avoids what counts for a company leaves it as it is. -/
theorem sameFor_apply (avoids : change.Avoids store company kind) :
    store.SameFor company kind (store.apply change) := by
  have untouched : store.SameFor company kind store := .refl store
  cases change with
  | addAccount account =>
    have accounts : (store.apply (.addAccount account)).accountsOf company kind =
        store.accountsOf company kind := by
      have foreign : ¬(account.company = company ∧ account.kind = kind) := avoids
      simp [apply, accountsOf, List.filter_append, foreign]
    exact { untouched with accounts }
  | setHoldings owner holdings =>
    have kept : (store.apply (.setHoldings owner holdings)).holdingsOf company =
        store.holdingsOf company := by
      simp only [apply, holdingsOf, Table.get?_insert, if_neg avoids]
    exact { untouched with holdings := kept }
  | setBroker owner broker =>
    have other : ¬(owner, broker.kind) = (company, kind) := fun same => avoids (Prod.ext_iff.1 same)
    have kept : (store.apply (.setBroker owner broker)).broker? company kind =
        store.broker? company kind := by
      simp only [apply, broker?, Table.get?_insert, if_neg other]
    exact { untouched with broker := kept }
  | setSummary owner summarized summary =>
    have other : ¬(owner, summarized) = (company, kind) := fun same => avoids (Prod.ext_iff.1 same)
    have kept : (store.apply (.setSummary owner summarized summary)).summary? company kind =
        store.summary? company kind := by
      simp only [apply, summary?, Table.get?_insert, if_neg other]
    exact { untouched with summary := kept }
  | setExposures account entries =>
    have kept : ∀ owned ∈ store.accountsOf company kind,
        (store.apply (.setExposures account entries)).exposures.get? owned.id =
          store.exposures.get? owned.id := by
      intro owned member
      have other : ¬account = owned.id := (avoids owned member).symm
      simp only [apply, Table.get?_insert, if_neg other]
    exact { untouched with exposures := kept }
  | setSpot spot => exact avoids.elim
  | setHaircuts haircuts =>
    have kept : ∀ broker ∈ store.broker? company kind,
        (store.apply (.setHaircuts haircuts)).haircuts? broker.broker =
          store.haircuts? broker.broker := by
      intro broker found
      have other : ¬haircuts.broker = broker.broker := (avoids broker found).symm
      simp only [apply, haircuts?, Table.get?_insert, if_neg other]
    exact { untouched with haircuts := kept }
  | setPending owner amount =>
    have kept : (store.apply (.setPending owner amount)).pendingOf company =
        store.pendingOf company := by
      simp only [apply, pendingOf, Table.get?_insert, if_neg avoids]
    exact { untouched with pending := kept }
  | recordHealth record =>
    have kept (date : Date) : (store.apply (.recordHealth record)).health? company date =
        store.health? company date := by
      have other : ¬(record.company, record.date) = (company, date) :=
        fun same => avoids (Prod.ext_iff.1 same).1
      simp only [apply, health?, Table.get?_insert, if_neg other]
    exact { untouched with health := kept }

/-- Whether a change avoids what counts for a company is decided by what counts for it. -/
theorem SameFor.avoids (same : left.SameFor company kind right)
    (avoids : change.Avoids left company kind) : change.Avoids right company kind := by
  cases change with
  | setExposures account entries => exact fun owned member => avoids owned (same.accounts ▸ member)
  | setHaircuts haircuts => exact fun broker found => avoids broker (same.broker ▸ found)
  | _ => exact avoids

/-- **A run of changes that avoid what counts for a company leaves it as it is.** -/
theorem sameFor_applyAll {changes : List Change}
    (avoid : ∀ change ∈ changes, change.Avoids store company kind) :
    store.SameFor company kind (store.applyAll changes) := by
  induction changes generalizing store with
  | nil => exact .refl store
  | cons change changes inductionHypothesis =>
    have first := sameFor_apply (avoid change List.mem_cons_self)
    have rest : ∀ later ∈ changes, later.Avoids (store.apply change) company kind :=
      fun later member => first.avoids (avoid later (List.mem_cons_of_mem change member))
    exact first.trans (inductionHypothesis rest)

end Store

/-! ## The answers -/

namespace Desk

/-- The desk with its rule for margins and its settings, over another store. -/
def onStore (desk : Desk) (store : Store) : Desk :=
  { desk with store }

section Answers

variable [Rounding] {desk : Desk} {store : Store} {company : Company} {kind : AccountKind}
  {date : Date} {days : Nat} {additional : Table Currency Decimal} {custom : Option Decimal}
  {proposed : List FxPosition} {broker : BrokerAccount}

omit [Rounding] in
theorem standing?_onStore (same : desk.store.SameFor company.id kind store) :
    (desk.onStore store).standing? company.id kind = desk.standing? company.id kind := by
  unfold standing? onStore
  rw [same.broker, same.isActive, same.summary]

omit [Rounding] in
theorem hedgedAccounts_onStore (same : desk.store.SameFor company.id kind store) (last : Date) :
    (desk.onStore store).hedgedAccounts company.id kind last =
      desk.hedgedAccounts company.id kind last := by
  unfold hedgedAccounts onStore
  rw [same.accounts]
  apply List.filterMap_congr
  intro account member
  have owned := List.mem_of_mem_filter member
  simp only [Store.exposuresUpTo, same.exposures account owned]
  rfl

theorem terms_onStore (same : desk.store.SameFor company.id kind store)
    (found : broker ∈ desk.store.broker? company.id kind) :
    (desk.onStore store).terms company broker = desk.terms company broker := by
  unfold terms haircuts onStore
  rw [same.haircuts broker found, same.spot]
  rfl

theorem detail_onStore (same : desk.store.SameFor company.id kind store) :
    (desk.onStore store).detail company date kind = desk.detail company date kind := by
  unfold detail
  rw [standing?_onStore same]
  cases standing : desk.standing? company.id kind with
  | none => rfl
  | some found =>
    obtain ⟨broker, summary⟩ := found
    have brokered := (standing?_eq_some.1 standing).1
    have holdings : (desk.onStore store).store.holdingsOf company.id =
        desk.store.holdingsOf company.id := same.holdings
    dsimp only
    rw [holdings]
    unfold computedDetail
    rw [terms_onStore same brokered]
    rfl

theorem projection_onStore (same : desk.store.SameFor company.id kind store) :
    (desk.onStore store).projection company date kind additional days =
      desk.projection company date kind additional days := by
  unfold projection
  rw [standing?_onStore same]
  cases standing : desk.standing? company.id kind with
  | none => rfl
  | some found =>
    obtain ⟨broker, summary⟩ := found
    have brokered := (standing?_eq_some.1 standing).1
    dsimp only
    rw [hedgedAccounts_onStore same, terms_onStore same brokered]
    rfl

theorem recommendationFor_onStore [SummationOrder] (same : desk.store.SameFor company.id kind store)
    (found : broker ∈ desk.store.broker? company.id kind) (summary : Summary) (worst : Snapshot) :
    (desk.onStore store).recommendationFor company broker summary additional worst =
      desk.recommendationFor company broker summary additional worst := by
  unfold recommendationFor
  rw [terms_onStore same found]
  rfl

theorem recommendation_onStore [SummationOrder] (same : desk.store.SameFor company.id kind store) :
    (desk.onStore store).recommendation company date kind additional days =
      desk.recommendation company date kind additional days := by
  unfold recommendation
  rw [projection_onStore same, standing?_onStore same]
  apply bind_congr
  intro projected
  change liftM (Snapshot.worst? desk.multiplier projected) >>= _ = _
  apply bind_congr
  intro worst?
  cases standing : desk.standing? company.id kind with
  | none => cases worst? <;> rfl
  | some found =>
    obtain ⟨broker, summary⟩ := found
    cases worst? with
    | none => rfl
    | some worst =>
      have brokered := (standing?_eq_some.1 standing).1
      exact recommendationFor_onStore same brokered summary worst

theorem detailOfProposed_onStore (same : desk.store.SameFor company.id kind store) :
    (desk.onStore store).detailOfProposed company date kind proposed =
      desk.detailOfProposed company date kind proposed := by
  have brokers : (desk.onStore store).store.broker? company.id kind =
      desk.store.broker? company.id kind := same.broker
  unfold detailOfProposed
  rw [brokers]
  cases found : desk.store.broker? company.id kind with
  | none => rfl
  | some broker =>
    dsimp only
    rw [terms_onStore same found]
    unfold onStore
    rw [same.summary, same.holdings, same.spot]

theorem reportedHealth_onStore (same : desk.store.SameFor company.id .live store) :
    (desk.onStore store).reportedHealth company.id = desk.reportedHealth company.id := by
  unfold reportedHealth onStore
  rw [same.isActive, same.summary]

theorem report_onStore [SummationOrder] (same : desk.store.SameFor company.id .live store) :
    (desk.onStore store).report company date custom = desk.report company date custom := by
  unfold report
  simp only [projection_onStore same, recommendation_onStore same, detail_onStore same]
  unfold onStore
  simp only [same.broker, same.pending]
  rfl

omit [Rounding] in
theorem alertFor_onStore (same : desk.store.SameFor company.id .live store) (worst : Float) :
    (desk.onStore store).alertFor company.id date worst = desk.alertFor company.id date worst := by
  have health : store.health? company.id = desk.store.health? company.id := funext same.health
  unfold alertFor wasLow onStore
  rw [health]

theorem check_onStore [SummationOrder] (same : desk.store.SameFor company.id .live store) :
    (desk.onStore store).check company date = desk.check company date := by
  unfold check
  simp only [report_onStore same, alertFor_onStore same]

end Answers

end Desk

/-! ## Runs for other companies -/

/-- The change is addressed to another company, or to an account or a broker that the company does
not have. -/
def Change.Foreign (store : Store) (company : CompanyId) : Change → Prop
  | .addAccount account => account.company ≠ company
  | .setHoldings owner _ | .setBroker owner _ | .setSummary owner _ _ | .setPending owner _ =>
    owner ≠ company
  | .setExposures account _ =>
    ∀ owned ∈ store.accounts, owned.company = company → owned.id ≠ account
  | .setSpot _ => False
  | .setHaircuts haircuts =>
    ∀ kind, ∀ broker ∈ store.broker? company kind, broker.broker ≠ haircuts.broker
  | .recordHealth record => record.company ≠ company

/-- The change adds an account, a broker account or a summary of one kind to a company. -/
def Change.OfKind (company : CompanyId) (kind : AccountKind) : Change → Prop
  | .addAccount account => account.company = company ∧ account.kind = kind
  | .setBroker owner broker => owner = company ∧ broker.kind = kind
  | .setSummary owner summarized _ => owner = company ∧ summarized = kind
  | _ => False

namespace Change

variable {store : Store} {company : CompanyId} {kind other : AccountKind} {change : Change}

theorem Foreign.avoids (foreign : change.Foreign store company) (kind : AccountKind) :
    change.Avoids store company kind := by
  cases change with
  | addAccount account => exact fun own => foreign own.1
  | setBroker owner broker => exact fun own => foreign own.1
  | setSummary owner summarized summary => exact fun own => foreign own.1
  | setExposures account entries =>
    intro owned member
    obtain ⟨member, own⟩ := List.mem_filter.1 member
    simp only [Bool.and_eq_true, decide_eq_true_eq] at own
    exact foreign owned member own.1
  | setHaircuts haircuts => exact foreign kind
  | _ => exact foreign

theorem OfKind.avoids (ofKind : change.OfKind company kind) (differs : kind ≠ other) :
    change.Avoids store company other := by
  cases change with
  | addAccount account => exact fun own => differs (ofKind.2.symm.trans own.2)
  | setBroker owner broker => exact fun own => differs (ofKind.2.symm.trans own.2)
  | setSummary owner summarized summary => exact fun own => differs (ofKind.2.symm.trans own.2)
  | _ => exact ofKind.elim

end Change

namespace Desk

/-- **Companies do not see each other.** No run of changes for other companies moves an answer about
a company, of either kind of account, whatever the rule for margins, and in whatever order the book
is added up for the deposits. Changes of the company's own demo accounts, broker account and summary
among them still move none of its live answers. When the changed desk adds up in another order, the
reports are alike but for the deposits, and the alert and the record of a check are the same. -/
theorem answers_of_foreign [Rounding] {desk : Desk} {company : Company} {changes : List Change} :
    ((∀ change ∈ changes, change.Foreign desk.store company.id) →
      ∀ date kind,
        (desk.onStore (desk.store.applyAll changes)).detail company date kind =
          desk.detail company date kind ∧
        (∀ additional days,
          (desk.onStore (desk.store.applyAll changes)).projection
              company date kind additional days =
            desk.projection company date kind additional days ∧
          ∀ order,
            (desk.onStore (desk.store.applyAll changes)).recommendationIn
                order company date kind additional days =
              desk.recommendationIn order company date kind additional days) ∧
        ∀ proposed,
          (desk.onStore (desk.store.applyAll changes)).detailOfProposed company date kind proposed =
            desk.detailOfProposed company date kind proposed) ∧
    ((∀ change ∈ changes,
        change.Foreign desk.store company.id ∨ change.OfKind company.id .demo) →
      (desk.onStore (desk.store.applyAll changes)).reportedHealth company.id =
        desk.reportedHealth company.id ∧
      ∀ date order,
        (∀ custom,
          (desk.onStore (desk.store.applyAll changes)).reportIn order company date custom =
            desk.reportIn order company date custom) ∧
        (desk.onStore (desk.store.applyAll changes)).checkIn order company date =
          desk.checkIn order company date ∧
        ∀ other,
          (∀ custom report report', desk.reportIn order company date custom = .ok (some report) →
            (desk.onStore (desk.store.applyAll changes)).reportIn other company date custom =
              .ok (some report') →
            report.AlikeButDeposits custom report') ∧
          ∀ check check', desk.checkIn order company date = .ok check →
            (desk.onStore (desk.store.applyAll changes)).checkIn other company date = .ok check' →
            check.alert = check'.alert ∧ check.record = check'.record) := by
  constructor
  · intro foreign date kind
    have same : desk.store.SameFor company.id kind (desk.store.applyAll changes) :=
      Store.sameFor_applyAll fun change member => (foreign change member).avoids kind
    refine ⟨detail_onStore same, fun additional days => ?_, fun _ => detailOfProposed_onStore same⟩
    exact ⟨projection_onStore same, fun order => recommendation_onStore same⟩
  · intro foreignOrDemo
    have same : desk.store.SameFor company.id .live (desk.store.applyAll changes) := by
      apply Store.sameFor_applyAll
      intro change member
      rcases foreignOrDemo change member with foreign | demo
      · exact foreign.avoids .live
      · exact demo.avoids nofun
    have reports (date : Date) (order : SummationOrder) (custom : Option Decimal) :
        (desk.onStore (desk.store.applyAll changes)).reportIn order company date custom =
          desk.reportIn order company date custom := report_onStore same
    have checks (date : Date) (order : SummationOrder) :
        (desk.onStore (desk.store.applyAll changes)).checkIn order company date =
          desk.checkIn order company date := check_onStore same
    refine ⟨reportedHealth_onStore same, fun date order => ?_⟩
    refine ⟨reports date order, checks date order, fun other => ⟨?_, ?_⟩⟩
    · intro custom report report' before after
      rw [reports] at after
      exact report_alikeButDeposits before after
    · intro check check' before after
      rw [checks] at after
      exact checkIn_alert_eq before after

/-! ## Two companies with accounts and brokers of their own -/

open Projection (day figure poundHaircuts whole)

private def busy : Desk :=
  sample {} (figure false 250) [sampleEntry (day 12) 3000 1000]

private def neighbour : Company := ⟨⟨"neighbour"⟩, ⟨"USD"⟩⟩

/-- Everything that can be set for a company besides the spot rates. -/
private def forNeighbour : List Change := [
  .addAccount ⟨⟨"second"⟩, neighbour.id, .live, true, some {}⟩,
  .setExposures ⟨"second"⟩ [sampleEntry (day 11) 9000 1000],
  .setBroker neighbour.id ⟨⟨"bank"⟩, "margin", .live⟩,
  .setHaircuts { poundHaircuts with broker := ⟨"bank"⟩ },
  .setSummary neighbour.id .live { cash := figure false 1 },
  .setHoldings neighbour.id { cash := ⟨Table.empty.insert ⟨"GBP"⟩ (whole 5)⟩ },
  .setPending neighbour.id (whole 1),
  .recordHealth ⟨neighbour.id, day 9, 0.1, 0.1⟩]

private def forDemo : List Change := [
  .addAccount ⟨⟨"trial"⟩, sampleCompany.id, .demo, true, some {}⟩,
  .setBroker sampleCompany.id ⟨⟨"bank"⟩, "trial", .demo⟩,
  .setSummary sampleCompany.id .demo { maintenance := figure false 7 }]

/-- The changes show in the answers they are meant for, and in no others. -/
theorem answers_of_foreign_busy :
    let changed := busy.onStore (busy.store.applyAll (forNeighbour ++ forDemo))
    (busy.check neighbour (day 10)).map Check.alert = .ok .noReport ∧
    (changed.check neighbour (day 10)).map Check.alert = .ok .depositRequired ∧
    busy.detail sampleCompany (day 10) .demo = .ok ⟨sampleCompany.id, day 10, 0, 0⟩ ∧
    changed.detail sampleCompany (day 10) .demo =
      .ok ⟨sampleCompany.id, day 10, figure false 7, 0⟩ ∧
    (busy.check sampleCompany (day 10)).map Check.alert = .ok .lowMargin ∧
    (∀ order, changed.checkIn order sampleCompany (day 10) =
      busy.checkIn order sampleCompany (day 10)) ∧
    (busy.onStore (busy.store.applyAll forNeighbour)).projection
        sampleCompany (day 10) .live .empty 30 =
      busy.projection sampleCompany (day 10) .live .empty 30 := by
  have foreign : ∀ change ∈ forNeighbour, change.Foreign busy.store sampleCompany.id := by
    have distinct : neighbour.id ≠ sampleCompany.id := by decide
    have accounts : busy.store.accounts =
        [⟨⟨"account"⟩, sampleCompany.id, .live, true, some {}⟩] := rfl
    have brokers (kind : AccountKind) :
        ∀ broker ∈ busy.store.broker? sampleCompany.id kind, broker.broker = ⟨"broker"⟩ := by
      cases kind <;> decide +kernel
    simp only [forNeighbour, List.forall_mem_cons, Change.Foreign, accounts]
    refine ⟨distinct, ?_, distinct, ?_, distinct, distinct, distinct, distinct,
      List.forall_mem_nil _⟩
    · simp
    · intro kind broker found same
      exact absurd ((brokers kind broker found).symm.trans same) (by decide)
  have demo : ∀ change ∈ forDemo, change.OfKind sampleCompany.id .demo := by
    simp [forDemo, Change.OfKind]
  have foreignOrDemo : ∀ change ∈ forNeighbour ++ forDemo,
      change.Foreign busy.store sampleCompany.id ∨ change.OfKind sampleCompany.id .demo := by
    intro change member
    exact (List.mem_append.1 member).imp (foreign change) (demo change)
  refine ⟨by decide +kernel, by decide +kernel, by decide +kernel, by decide +kernel,
    by decide +kernel, ?_, ?_⟩
  · exact fun order => ((answers_of_foreign.2 foreignOrDemo).2 (day 10) order).2.1
  · exact ((answers_of_foreign.1 foreign (day 10) .live).2.1 .empty 30).1

end Desk

end Collateral

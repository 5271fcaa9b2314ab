import Collateral.Desk.Queries
import Collateral.Proofs.Bookings
import Collateral.Proofs.Timeline

/-!
Contract: what the snapshots of a desk's projection hold.

A snapshot is computed from the hedge of its date alone. Its positions are taken at the rates of the
desk, its margin before the deposit does not depend on further cash, and its excess is the cash less
that margin.

Owns: the terms of a desk, the origin of a snapshot, the prices of its positions, and its excess.
-/

namespace Collateral

variable [Rounding]

namespace Projection

/-! ## Where a snapshot comes from -/

theorem exists_hedge_of_mem_run {setting : Setting} {asOf : Date} {days : Nat}
    {accounts : List HedgedAccount} {additional : Table Currency Decimal} {points : List Snapshot}
    (ran : run setting asOf days accounts additional = .ok points) {point : Snapshot}
    (member : point ∈ points) :
    ∃ held, hedge setting.terms
        ((accounts.map Walker.start).map (Walker.advance point.date)) = .ok held ∧
      snapshot setting additional point.date held = .ok point := by
  rw [run, walk_eq_mapM _ (eventDates_ascending _ _ _)] at ran
  obtain ⟨date, -, taken⟩ := Outcome.exists_of_mem_mapM ran member
  obtain ⟨held, hedged, snapped⟩ := Outcome.bind_ok.1 taken
  obtain rfl := (snapshot_ok snapped).1
  exact ⟨held, hedged, snapped⟩

private theorem add_priced {terms : Terms} {ratio : Decimal} {held result : Hedge}
    {currency : Currency} {amount : Decimal}
    (priced : ∀ position ∈ held.positions, position.Priced terms)
    (added : held.add terms ratio currency amount = .ok result) :
    ∀ position ∈ result.positions, position.Priced terms := by
  unfold Hedge.add at added
  split at added
  next =>
    obtain ⟨total, -, collected⟩ := Outcome.bind_ok.1 added
    rw [← Outcome.pure_ok.1 collected]
    exact priced
  next =>
    simp only [Outcome.bind_ok, Outcome.liftArithmetic_ok, Outcome.liftConversion_ok,
      Outcome.pure_ok] at added
    obtain ⟨rate, quoted, value, -, total, -, amount, -, rfl⟩ := added
    intro position member
    rcases List.mem_append.1 member with before | last
    · exact priced position before
    · obtain rfl := List.mem_singleton.1 last
      exact ⟨rfl, quoted⟩

/-- All positions of a hedge are taken at the rates of their pairs. -/
theorem hedge_priced {terms : Terms} {walkers : List Walker} {held : Hedge}
    (hedged : hedge terms walkers = .ok held) :
    ∀ position ∈ held.positions, position.Priced terms := by
  refine Outcome.foldlM_keeps
    (fun held : Hedge => ∀ position ∈ held.positions, position.Priced terms)
    (fun before walker after priced added => ?_) (by simp) hedged
  unfold Hedge.addWalker at added
  split at added
  · exact Outcome.pure_ok.1 added ▸ priced
  · exact Outcome.foldlM_keeps _ (fun _ _ _ priced added => add_priced priced added) priced added

section Snapshot

variable {setting : Setting} {additional : Table Currency Decimal} {date : Date} {held : Hedge}
  {result : Snapshot}

/-- A snapshot without positions needs no margin, and all equity is in excess. -/
theorem snapshot_idle (none : held.positions = [])
    (taken : snapshot setting additional date held = .ok result) :
    result = ⟨date, 0, 0, setting.summary.equity.value, held.total, []⟩ := by
  unfold snapshot at taken
  rw [if_pos (by simp [none])] at taken
  exact (Outcome.pure_ok.1 taken).symm

/-- A snapshot with positions: the margins without and with further cash, and the excess over the
first of them. -/
theorem snapshot_hedged (positions : held.positions ≠ [])
    (taken : snapshot setting additional date held = .ok result) :
    setting.calculator.ofHoldings setting.terms held.positions (brokerCash setting) =
        .ok result.before ∧
      marginAfter setting held.positions result.before additional = .ok result.after ∧
      ∃ cash, setting.summary.cash.value.add
          ((additional.get? setting.terms.domestic).getD 0) = .ok cash ∧
        cash.sub result.before = .ok result.excess := by
  unfold snapshot at taken
  rw [if_neg (by simpa using positions)] at taken
  simp only [Outcome.bind_ok, Outcome.liftArithmetic_ok, Outcome.pure_ok] at taken
  obtain ⟨before, beforeIs, after, afterIs, cash, cashIs, excess, excessIs, rfl⟩ := taken
  exact ⟨beforeIs, afterIs, cash, cashIs, excessIs⟩

end Snapshot

end Projection

namespace Desk

variable {desk : Desk} {company : Company} {broker : BrokerAccount} {terms : Terms}

/-! ## Terms -/

theorem terms_ok (termed : desk.terms company broker = .ok terms) :
    terms.domestic = company.currency ∧ terms.spot = desk.store.spot.quotes ∧
      terms.multiplier = desk.multiplier := by
  obtain ⟨haircuts, -, collected⟩ := Outcome.bind_ok.1 termed
  rw [← Outcome.pure_ok.1 collected]
  exact ⟨rfl, rfl, rfl⟩

/-- A currency is worth one of itself at every desk. -/
theorem terms_atPar (termed : desk.terms company broker = .ok terms) : terms.AtPar :=
  Spot.quotes_atPar (terms_ok termed).2.1

/-! ## Projections -/

/-- A projection that is not empty has run under the terms of the company's broker account. -/
theorem projection_ok {date : Date} {kind : AccountKind} {additional : Table Currency Decimal}
    {days : Nat} {points : List Snapshot} {summary : Summary}
    (standing : desk.standing? company.id kind = some (broker, summary))
    (projected : desk.projection company date kind additional days = .ok points)
    (some : points ≠ []) :
    ∃ terms, desk.terms company broker = .ok terms ∧
      Projection.run ⟨desk.calculator, terms, summary⟩ date days
        (desk.hedgedAccounts company.id kind (date.ahead days)) additional = .ok points := by
  unfold projection at projected
  rw [standing] at projected
  simp only at projected
  split at projected
  next => exact absurd (Outcome.pure_ok.1 projected).symm some
  next =>
    obtain ⟨terms, termed, ran⟩ := Outcome.bind_ok.1 projected
    exact ⟨terms, termed, ran⟩

/-! ## A desk with one account -/

open Projection (whole poundHaircuts)

def sampleCompany : Company := ⟨⟨"company"⟩, ⟨"USD"⟩⟩

def sampleBroker : BrokerAccount := ⟨⟨"broker"⟩, "margin", .live⟩

/-- A desk that hedges all exposures of one account, with currencies at par. -/
def sample (settings : Settings) (cash : Figure) (entries : List Exposure) : Desk where
  calculator := .haircut
  settings := settings
  store := {
    spot := ⟨⟨"USD"⟩, Table.ofList [(⟨⟨"GBP"⟩, ⟨"USD"⟩⟩, 1), (⟨⟨"EUR"⟩, ⟨"USD"⟩⟩, 1)]⟩
    accounts := [⟨⟨"account"⟩, sampleCompany.id, .live, true, some {}⟩]
    brokers := Table.empty.insert (sampleCompany.id, .live) sampleBroker
    summaries := Table.empty.insert (sampleCompany.id, .live) { cash }
    exposures := Table.empty.insert ⟨"account"⟩ entries
    haircuts := Table.empty.insert ⟨"broker"⟩ poundHaircuts }

/-- Pounds against euros on a date. -/
def sampleEntry (date : Date) (pounds euros : UInt64) : Exposure :=
  ⟨date, [(⟨"GBP"⟩, whole pounds), (⟨"EUR"⟩, -whole euros)]⟩

omit [Rounding] in
/-- What is decided about an answer holds of it. -/
theorem exists_of_decide {α : Type} {answer : Except Failure (Option α)} {property : α → Prop}
    [DecidablePred property]
    (decided : answer.map (Option.map fun found => decide (property found)) = .ok (some true)) :
    ∃ found, answer = .ok (some found) ∧ property found := by
  obtain ⟨found?, answered, holds⟩ := Outcome.map_ok.1 decided
  obtain ⟨found, rfl, holds⟩ := Option.map_eq_some_iff.1 holds
  exact ⟨found, answered, of_decide_eq_true (Option.some.inj holds)⟩

end Desk

end Collateral

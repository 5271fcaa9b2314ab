import Collateral.Proofs.Lossless
import Collateral.Proofs.WorstDate

/-!
Contract: the net value behind a projected date.

A hedge is bought at the rates at which its cash is valued, so the positions of a date are worth
nothing together. What the book of a date is worth is the cash in it. The projection counts that cash
when it finds the excess, and the search for a deposit totals the book: without rounding both arrive
at one number.

Owns: the worth of the positions of a snapshot, the total of the book on which deposits are solved,
and their equality with the cash of the projection.
-/

namespace Collateral

section Totals

variable [Rounding] [SummationOrder]

/-- The worth of the cash that the positions of a snapshot make up. -/
def Snapshot.worthIn (snapshot : Snapshot) (terms : Terms) : Except Failure Decimal := do
  (← snapshot.book).totalIn terms.domestic terms.spot

/-- The worth of the book on which deposits for a projected date are solved. -/
def Desk.depositTotal (company : Company) (summary : Summary)
    (additional : Table Currency Decimal) (terms : Terms) (snapshot : Snapshot) :
    Except Failure Decimal := do
  (← Desk.depositBook company summary additional snapshot).totalIn terms.domestic terms.spot

end Totals

section Transfer

open Outcome (Refines)

variable {strict actual : Rounding} (stricter : strict.Stricter actual) [order : SummationOrder]

include stricter

theorem Snapshot.worthIn_refines (snapshot : Snapshot) (terms : Terms) :
    Refines (@Snapshot.worthIn strict order snapshot terms)
      (@Snapshot.worthIn actual order snapshot terms) :=
  (Book.ofPositions_refines stricter snapshot.positions).mapError.bind fun book =>
    (book.totalIn_refines stricter _ _).mapError

theorem Desk.depositTotal_refines (company : Company) (summary : Summary)
    (additional : Table Currency Decimal) (terms : Terms) (snapshot : Snapshot) :
    Refines (@Desk.depositTotal strict order company summary additional terms snapshot)
      (@Desk.depositTotal actual order company summary additional terms snapshot) :=
  (Desk.depositBook_refines stricter company summary additional snapshot).mapError.bind fun book =>
    (book.totalIn_refines stricter _ _).mapError

end Transfer

/-! ## Without rounding -/

section Exact

variable [Rounding] [Rounding.Lawful 0] {terms : Terms} {company : Company} {summary : Summary}
  {additional : Table Currency Decimal} {point : Snapshot} {total : Decimal}

/-- Positions at the rates of their pairs are worth nothing together. -/
theorem Snapshot.worthIn_eq_zero [SummationOrder] (par : terms.AtPar)
    (priced : ∀ position ∈ point.positions, position.Priced terms)
    (totaled : point.worthIn terms = .ok total) : total = 0 := by
  obtain ⟨book, booked, valued⟩ := Outcome.bind_ok.1 totaled
  rw [Outcome.liftArithmetic_ok] at booked
  rw [Outcome.liftConversion_ok] at valued
  have holds := Book.holds_empty.addPositions par priced booked
  have near := holds.abs_worth_sub_le (Book.converts_of_totalIn valued)
  have worth : total.toRat = book.worth terms.spot terms.domestic :=
    (Book.near_totalIn valued).eq_of_exact
  rw [drift_of_exact, zero_mul, sub_zero, abs_nonpos_iff] at near
  exact Decimal.toRat_eq_zero.1 (worth.trans near)

omit [Rounding] [Rounding.Lawful 0] in
/-- Additional cash in the domestic currency alone is worth its amount. -/
private theorem depositWorth_eq (par : terms.AtPar)
    (onlyDomestic : ∀ entry ∈ additional.entries, entry.1 = terms.domestic) :
    Desk.depositWorth terms summary additional = summary.cash.value.toRat +
      ((additional.get? terms.domestic).getD 0).toRat := by
  have others : (additional.entries.filter fun entry => entry.1 ≠ terms.domestic) = [] := by
    apply List.filter_eq_nil_iff.2
    intro entry member
    simpa using onlyDomestic entry member
  have sum := Table.sum_eq_add_sum_filter terms.domestic (fun entry =>
    rateOf terms.spot terms.domestic entry.1 * entry.2.toRat) additional.distinct
  rw [others, List.map_nil, List.sum_nil, add_zero] at sum
  rw [Desk.depositWorth, sum, Table.get?]
  cases found : additional.entries.find? (·.1 = terms.domestic) with
  | none => simp
  | some entry =>
    have key : entry.1 = terms.domestic := by simpa using List.find?_some found
    simp [key, par.rateOf]

/-- The book on which deposits are solved is worth the cash in it. -/
theorem Desk.depositTotal_eq [SummationOrder] (par : terms.AtPar)
    (domestic : terms.domestic = company.currency)
    (onlyDomestic : ∀ entry ∈ additional.entries, entry.1 = terms.domestic)
    (priced : ∀ position ∈ point.positions, position.Priced terms)
    (totaled : Desk.depositTotal company summary additional terms point = .ok total) :
    total.toRat = summary.cash.value.toRat +
      ((additional.get? terms.domestic).getD 0).toRat := by
  obtain ⟨book, booked, valued⟩ := Outcome.bind_ok.1 totaled
  rw [Outcome.liftArithmetic_ok] at booked
  rw [Outcome.liftConversion_ok] at valued
  have near := Desk.depositBook_worth par domestic priced booked valued
  have worth : total.toRat = book.worth terms.spot terms.domestic :=
    (Book.near_totalIn valued).eq_of_exact
  rw [Desk.depositGap, drift_of_exact, zero_mul, abs_nonpos_iff, sub_eq_zero] at near
  rw [worth, near, depositWorth_eq par onlyDomestic]

namespace Projection

variable {setting : Setting} {asOf : Date} {days : Nat} {accounts : List HedgedAccount}
  {points : List Snapshot}

/-- The positions of a projection are taken at the rates of their pairs, and what is in excess on a
date is all the cash less the margin before the deposit. -/
theorem priced_and_excess_of_mem_run
    (ran : run setting asOf days accounts additional = .ok points) (member : point ∈ points)
    (hedged : point.positions ≠ []) :
    (∀ position ∈ point.positions, position.Priced setting.terms) ∧
      point.excess.toRat = setting.summary.cash.value.toRat +
        ((additional.get? setting.terms.domestic).getD 0).toRat - point.before.toRat := by
  obtain ⟨held, found, taken⟩ := exists_hedge_of_mem_run ran member
  have positions := (snapshot_ok taken).2.2
  obtain ⟨-, -, cash, added, subtracted⟩ := snapshot_hedged (positions ▸ hedged) taken
  refine ⟨positions ▸ hedge_priced found, ?_⟩
  have cashIs : cash.toRat = _ := Decimal.toRat_of_add added
  have excessIs : point.excess.toRat = _ :=
    Decimal.toRat_of_sub subtracted
  rw [excessIs, cashIs]

end Projection

end Exact

/-! ## The runs -/

namespace Projection

variable {terms : Terms} {company : Company} {summary : Summary} {asOf : Date} {days : Nat}
  {accounts : List HedgedAccount} {additional : Table Currency Decimal} {points : List Snapshot}
  {point : Snapshot}

/-- **The projection and the search for a deposit count the same net value.** Where no calculation
rounds, the positions of a date are worth nothing, the book on which its deposit is solved is worth
the broker's cash and the additional cash, and the excess of the date is that worth less the margin
before the deposit. -/
theorem excess_eq_depositTotal_sub [SummationOrder] (par : terms.AtPar)
    (domestic : terms.domestic = company.currency)
    (onlyDomestic : ∀ entry ∈ additional.entries, entry.1 = terms.domestic)
    (ran : run ⟨.haircut, terms, summary⟩ asOf days accounts additional = .ok points)
    (exactRun : Rounding.Lossless fun _ =>
      run ⟨.haircut, terms, summary⟩ asOf days accounts additional)
    (member : point ∈ points) (hedged : point.positions ≠ [])
    (exactWorth : Rounding.Lossless fun _ => point.worthIn terms)
    (exactTotal : Rounding.Lossless fun _ =>
      Desk.depositTotal company summary additional terms point) :
    point.worthIn terms = .ok 0 ∧
      ∃ total, Desk.depositTotal company summary additional terms point = .ok total ∧
        total.toRat = summary.cash.value.toRat +
          ((additional.get? terms.domestic).getD 0).toRat ∧
        point.excess.toRat = total.toRat - point.before.toRat := by
  have exactly := exactRun.exactly
    (run_refines Rounding.exact_stricter terms summary additional asOf days accounts) ran
  obtain ⟨worth, exactWorth⟩ := exactWorth
  obtain ⟨total, exactTotal⟩ := exactTotal
  have worthActual := point.worthIn_refines Rounding.exact_stricter terms worth exactWorth
  have totalActual := Desk.depositTotal_refines Rounding.exact_stricter company summary additional
    terms point total exactTotal
  let _ : Rounding := Rounding.exact
  obtain ⟨priced, excess⟩ := priced_and_excess_of_mem_run exactly member hedged
  have nothing : worth = 0 := Snapshot.worthIn_eq_zero par priced exactWorth
  have cash := Desk.depositTotal_eq par domestic onlyDomestic priced exactTotal
  exact ⟨nothing ▸ worthActual, total, totalActual, cash, by rw [excess, cash]⟩

/-! ## Two accounts that hedge the same currency -/

/-- A pound for two dollars, a euro for one and a half. -/
private def dearerPoundRates : Spot := ⟨⟨"USD"⟩, Table.ofList [(⟨⟨"GBP"⟩, ⟨"USD"⟩⟩, 2),
  (⟨⟨"EUR"⟩, ⟨"USD"⟩⟩, Figure.value ⟨false, 15, 1, by decide⟩)]⟩

private def dearerPound : Terms where
  domestic := ⟨"USD"⟩
  spot := dearerPoundRates
  haircuts := poundHaircuts
  multiplier := 2

/-- Both accounts are long pounds, and the second one hedges only a fifth. -/
private def twoHedgers : List HedgedAccount := [
  ⟨⟨"first"⟩, 1, .ofEntries [⟨day 11, [(⟨"GBP"⟩, whole 40), (⟨"EUR"⟩, -whole 70)]⟩]⟩,
  ⟨⟨"second"⟩, fifth.value, .ofEntries [⟨day 9, [(⟨"GBP"⟩, whole 15), (⟨"USD"⟩, whole 3)]⟩]⟩]

private def cashOnly : Summary := { cash := figure false 250 }

private def pledged : Table Currency Decimal := Table.empty.insert ⟨"USD"⟩ (whole 30)

private theorem dearerPound_atPar : dearerPound.AtPar := by
  have spot : dearerPound.spot = dearerPoundRates.quotes := by rw [dearerPound]
  exact Spot.quotes_atPar spot

/-- The cash of two hundred and eighty is the worth of the book and the measure of the excess. -/
theorem excess_eq_depositTotal_sub_twoHedgers :
    ∃ point total,
      run ⟨.haircut, dearerPound, cashOnly⟩ (day 10) 5 twoHedgers pledged = .ok [point] ∧
      point.positions.length = 3 ∧ point.before.toRat = 124 / 5 ∧
      point.worthIn dearerPound = .ok 0 ∧
      Desk.depositTotal ⟨⟨"company"⟩, ⟨"USD"⟩⟩ cashOnly pledged dearerPound point = .ok total ∧
      total.toRat = cashOnly.cash.value.toRat +
        ((pledged.get? dearerPound.domestic).getD 0).toRat ∧
      point.excess.toRat = total.toRat - 124 / 5 := by
  have figures : (run ⟨.haircut, dearerPound, cashOnly⟩ (day 10) 5 twoHedgers pledged).map
      (List.map fun point => decide (point.positions.length = 3 ∧ point.before.toRat = 124 / 5 ∧
        (@Snapshot.worthIn Rounding.exact _ point dearerPound).toBool ∧
        (@Desk.depositTotal Rounding.exact _ ⟨⟨"company"⟩, ⟨"USD"⟩⟩ cashOnly pledged dearerPound
          point).toBool)) = .ok [true] := by decide +kernel
  obtain ⟨points, ran, read⟩ := Outcome.map_ok.1 figures
  obtain ⟨point, rfl, holds⟩ := List.map_eq_singleton_iff.1 read
  obtain ⟨positions, before, worth, total⟩ := of_decide_eq_true holds
  have hedged : point.positions ≠ [] := by
    intro none
    simp [none] at positions
  have exactRun : Rounding.Lossless fun _ =>
      run ⟨.haircut, dearerPound, cashOnly⟩ (day 10) 5 twoHedgers pledged :=
    Rounding.lossless_of_toBool (by decide +kernel)
  have exactTotal : Rounding.Lossless fun _ =>
      Desk.depositTotal ⟨⟨"company"⟩, ⟨"USD"⟩⟩ cashOnly pledged dearerPound point :=
    Rounding.lossless_of_toBool total
  obtain ⟨nothing, total, totaled, totalIs, excess⟩ := excess_eq_depositTotal_sub
    dearerPound_atPar rfl (by decide +kernel) ran exactRun List.mem_cons_self hedged
    (Rounding.lossless_of_toBool worth) exactTotal
  rw [before] at excess
  exact ⟨point, total, ran, positions, before, nothing, totaled, totalIs, excess⟩

end Projection

end Collateral

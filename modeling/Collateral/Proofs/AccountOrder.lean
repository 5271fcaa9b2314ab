import Collateral.Proofs.CountedCash
import Collateral.Proofs.Lossless

/-!
Contract: the order in which accounts are projected.

Accounts do not see each other, and meet in what is added up: the total of a hedge, and the balances
that its positions make up. Sums that lose nothing to rounding come out alike in any order, so a
rearranged list of accounts has the same margins on the same dates, and its positions are rearranged
with it.

Owns: loops that add up, the balances and the margins of rearranged positions, and projections of
rearranged accounts.
-/

namespace Collateral

/-! ## Loops that add up -/

namespace Outcome

variable {ε ι β : Type} {step : β → ι → Except ε β} (view : β → Rat) (amount : ι → Rat)

/-- Where every round moves a number by an amount of its own, a loop moves it by their sum. -/
theorem view_of_foldlM
    (moves : ∀ before entry after, step before entry = .ok after →
      view after = view before + amount entry)
    {entries : List ι} {start result : β} (done : entries.foldlM step start = .ok result) :
    view result = view start + (entries.map amount).sum := by
  induction entries generalizing start with
  | nil =>
    rw [pure_ok.1 done, List.map_nil, List.sum_nil, add_zero]
  | cons entry entries inductionHypothesis =>
    obtain ⟨middle, first, rest⟩ := foldlM_cons_ok.1 done
    rw [inductionHypothesis rest, moves start entry middle first, List.map_cons, List.sum_cons,
      add_assoc]

/-- Such a loop may go through its entries in any order. -/
theorem view_of_foldlM_perm
    (moves : ∀ before entry after, step before entry = .ok after →
      view after = view before + amount entry)
    {entries entries' : List ι} (permutation : entries.Perm entries') {start result result' : β}
    (done : entries.foldlM step start = .ok result)
    (done' : entries'.foldlM step start = .ok result') : view result = view result' := by
  rw [view_of_foldlM view amount moves done, view_of_foldlM view amount moves done',
    (permutation.map amount).sum_eq]

end Outcome

section Exact

variable [Rounding] [Rounding.Lawful 0] {terms : Terms} {positions positions' : List FxPosition}

/-! ## Positions -/

/-- What a position books in a currency: its amount on the base side, and what that cost, as a debt,
on the quote side. -/
def FxPosition.booked (currency : Currency) (position : FxPosition) : Rat :=
  (if position.pair.base = currency then position.amount.toRat else 0) +
    if position.pair.quote = currency then -(position.amount.toRat * position.price.toRat) else 0

namespace Book

variable {book book' result : Book}

theorem toRat_balance_of_add {currency : Currency} {amount : Decimal}
    (added : book.add currency amount = .ok result) (other : Currency) :
    (result.balance other).toRat =
      (book.balance other).toRat + if currency = other then amount.toRat else 0 := by
  obtain ⟨balance, summed, rfl⟩ := add_ok.1 added
  rw [balance_insert]
  by_cases same : currency = other
  · subst same
    rw [if_pos rfl, if_pos rfl, Decimal.toRat_of_add summed]
  · rw [if_neg same, if_neg same, add_zero]

theorem toRat_balance_of_addPosition {position : FxPosition}
    (added : book.addPosition position = .ok result) (currency : Currency) :
    (result.balance currency).toRat =
      (book.balance currency).toRat + position.booked currency := by
  obtain ⟨based, base, onward⟩ := Outcome.bind_ok.1 added
  obtain ⟨cost, multiplied, quote⟩ := Outcome.bind_ok.1 onward
  rw [toRat_balance_of_add quote, toRat_balance_of_add base, Decimal.toRat_neg,
    Decimal.toRat_of_mul multiplied, FxPosition.booked, add_assoc]

/-- Rearranged positions make up equal balances. -/
theorem balance_of_ofPositions_perm (permutation : positions.Perm positions')
    (booked : ofPositions positions = .ok book) (booked' : ofPositions positions' = .ok book')
    (currency : Currency) : book.balance currency = book'.balance currency :=
  Decimal.toRat_injective <|
    Outcome.view_of_foldlM_perm (fun book : Book => (book.balance currency).toRat)
      (FxPosition.booked currency) (fun _ _ _ added => toRat_balance_of_addPosition added currency)
      permutation booked booked'

end Book

/-! ## Margins -/

/-- Rearranged positions have the same margin, whatever cash is held with them. -/
theorem Margin.ofHoldings_perm (permutation : positions.Perm positions')
    {cash : Table Currency Decimal} {margin margin' : Decimal}
    (margined : Calculator.haircut.ofHoldings terms positions cash = .ok margin)
    (margined' : Calculator.haircut.ofHoldings terms positions' cash = .ok margin') :
    margin = margin' := by
  obtain ⟨book, booked, charged⟩ := Outcome.bind_ok.1 margined
  obtain ⟨book', booked', charged'⟩ := Outcome.bind_ok.1 margined'
  obtain ⟨held, positioned, balances⟩ :=
    Book.balance_of_ofHoldings (Outcome.liftArithmetic_ok.1 booked)
  obtain ⟨held', positioned', balances'⟩ :=
    Book.balance_of_ofHoldings (Outcome.liftArithmetic_ok.1 booked')
  have same : ∀ currency, book.balance currency = book'.balance currency := by
    intro currency
    have balance := balances currency
    rw [Book.balance_of_ofPositions_perm permutation positioned positioned', balances'] at balance
    exact (Except.ok.inj balance).symm
  rw [ofBook_of_balances same charged] at charged'
  exact Except.ok.inj charged'

namespace Projection

variable {summary : Summary} {additional : Table Currency Decimal} {date : Date}

theorem marginAfter_perm (permutation : positions.Perm positions') {before after after' : Decimal}
    (remargined : marginAfter ⟨.haircut, terms, summary⟩ positions before additional = .ok after)
    (remargined' : marginAfter ⟨.haircut, terms, summary⟩ positions' before additional =
      .ok after') : after = after' := by
  unfold marginAfter at remargined remargined'
  by_cases zeros : additional.values.all (· = 0)
  · rw [if_pos zeros] at remargined remargined'
    rw [← Outcome.pure_ok.1 remargined, ← Outcome.pure_ok.1 remargined']
  · rw [if_neg zeros] at remargined remargined'
    obtain ⟨cash, combined, computed⟩ := Outcome.bind_ok.1 remargined
    obtain ⟨cash', combined', computed'⟩ := Outcome.bind_ok.1 remargined'
    obtain rfl := Except.ok.inj (combined.symm.trans combined')
    exact Margin.ofHoldings_perm permutation computed computed'

end Projection

/-! ## Snapshots -/

/-- Two snapshots that differ in the order of their positions at most. -/
structure Snapshot.Rearranged (point point' : Snapshot) : Prop where
  date_eq : point.date = point'.date
  before_eq : point.before = point'.before
  after_eq : point.after = point'.after
  excess_eq : point.excess = point'.excess
  totalHedge_eq : point.totalHedge = point'.totalHedge
  positions_perm : point.positions.Perm point'.positions

namespace Projection

variable {summary : Summary} {additional : Table Currency Decimal} {date : Date}
  {plans plans' : List Plan}

/-- A snapshot takes no notice of the order of the positions of its hedge. -/
theorem snapshot_rearranged {held held' : Hedge} (totals : held.total = held'.total)
    (permutation : held.positions.Perm held'.positions) {point point' : Snapshot}
    (taken : snapshot ⟨.haircut, terms, summary⟩ additional date held = .ok point)
    (taken' : snapshot ⟨.haircut, terms, summary⟩ additional date held' = .ok point') :
    point.Rearranged point' := by
  by_cases idle : held.positions = []
  · have idle' : held'.positions = [] := List.nil_perm.1 (idle ▸ permutation)
    rw [snapshot_idle idle taken, snapshot_idle idle' taken', totals]
    exact ⟨rfl, rfl, rfl, rfl, rfl, .refl _⟩
  · have hedged' : held'.positions ≠ [] := by
      intro idle'
      rw [idle'] at permutation
      exact idle (List.perm_nil.1 permutation)
    obtain ⟨margined, remargined, cash, added, subtracted⟩ := snapshot_hedged idle taken
    obtain ⟨margined', remargined', cash', added', subtracted'⟩ := snapshot_hedged hedged' taken'
    obtain ⟨dateIs, totalIs, positionsAre⟩ := snapshot_ok taken
    obtain ⟨dateIs', totalIs', positionsAre'⟩ := snapshot_ok taken'
    have before : point.before = point'.before :=
      Margin.ofHoldings_perm permutation margined margined'
    obtain rfl := Except.ok.inj (added.symm.trans added')
    rw [before] at remargined subtracted
    constructor
    case date_eq => rw [dateIs, dateIs']
    case before_eq => exact before
    case after_eq => exact marginAfter_perm permutation remargined remargined'
    case excess_eq => exact Except.ok.inj (subtracted.symm.trans subtracted')
    case totalHedge_eq => rw [totalIs, totalIs', totals]
    case positions_perm => rwa [positionsAre, positionsAre']

/-! ## Accounts -/

/-- The worth of an amount as a number; zero, where it has none. -/
def worthRat (terms : Terms) (item : Outstanding) : Rat :=
  match worth terms item with
  | .ok value => value.toRat
  | .error _ => 0

/-- Rearranged accounts have the same total, and rearranged positions. -/
theorem hedgeOn_perm (permutation : plans.Perm plans') {held held' : Hedge}
    (hedged : hedgeOn terms plans date = .ok held)
    (hedged' : hedgeOn terms plans' date = .ok held') :
    held.total = held'.total ∧ held.positions.Perm held'.positions := by
  have items : (outstandingOn plans date).Perm (outstandingOn plans' date) :=
    permutation.flatMap_right _
  obtain ⟨totals, positions, collected, gathered⟩ := hedgeOn_fold_ok hedged
  obtain ⟨totals', positions', collected', gathered'⟩ := hedgeOn_fold_ok hedged'
  constructor
  · have moves : ∀ (total : Decimal) (item : Outstanding) (next : Decimal),
        (do total.add (← worth terms item) : Except Failure Decimal) = .ok next →
          next.toRat = total.toRat + worthRat terms item := by
      intro total item next stepped
      obtain ⟨value, valued, summed⟩ := Outcome.bind_ok.1 stepped
      rw [Decimal.toRat_of_add (Outcome.liftArithmetic_ok.1 summed), worthRat, valued]
    exact Decimal.toRat_injective
      (Outcome.view_of_foldlM_perm Decimal.toRat (worthRat terms) moves items totals totals')
  · obtain ⟨rearranged, collectedToo, permuted⟩ :=
      Outcome.mapM_perm (items.filter fun item => item.currency ≠ terms.domestic) collected
    obtain rfl := Except.ok.inj (collectedToo.symm.trans collected')
    rwa [gathered, gathered', List.nil_append, List.nil_append]

end Projection

end Exact

namespace Projection

variable {terms : Terms} {summary : Summary} {asOf : Date} {days : Nat} {plans plans' : List Plan}
  {additional : Table Currency Decimal} {points points' : List Snapshot}

/-- **The order of accounts does not matter.** Where no calculation rounds, the projections of a list
of accounts and of any rearrangement have the same dates and, date by date, the same margins, the same
excess, the same total, and positions that are rearranged. -/
theorem run_rearranged (permutation : plans.Perm plans')
    (ran : run ⟨.haircut, terms, summary⟩ asOf days (plans.map Plan.account) additional =
      .ok points)
    (ran' : run ⟨.haircut, terms, summary⟩ asOf days (plans'.map Plan.account) additional =
      .ok points')
    (lossless : Rounding.Lossless fun _ =>
      run ⟨.haircut, terms, summary⟩ asOf days (plans.map Plan.account) additional)
    (lossless' : Rounding.Lossless fun _ =>
      run ⟨.haircut, terms, summary⟩ asOf days (plans'.map Plan.account) additional) :
    List.Forall₂ Snapshot.Rearranged points points' := by
  have exactly := lossless.exactly
    (run_refines Rounding.exact_stricter terms summary additional asOf days _) ran
  have exactly' := lossless'.exactly
    (run_refines Rounding.exact_stricter terms summary additional asOf days _) ran'
  let _ : Rounding := Rounding.exact
  rw [run_eq_mapM] at exactly exactly'
  rw [← eventDates_perm (permutation.map Plan.account)] at exactly'
  refine Outcome.forall₂_of_mapM (fun date point point' taken taken' => ?_) exactly exactly'
  obtain ⟨held, hedged, taken⟩ := Outcome.bind_ok.1 taken
  obtain ⟨held', hedged', taken'⟩ := Outcome.bind_ok.1 taken'
  obtain ⟨totals, positions⟩ := hedgeOn_perm permutation hedged hedged'
  exact snapshot_rearranged totals positions taken taken'

/-! ## Two accounts that hedge the same currency -/

/-- A pound for two dollars, a euro for one and a half. -/
private def crossedRates : Spot := ⟨⟨"USD"⟩, Table.ofList [(⟨⟨"GBP"⟩, ⟨"USD"⟩⟩, 2),
  (⟨⟨"EUR"⟩, ⟨"USD"⟩⟩, (tenths 15).value)]⟩

private def crossed : Terms where
  domestic := ⟨"USD"⟩
  spot := crossedRates
  haircuts := poundHaircuts
  multiplier := 2

/-- One account is long the pounds of which the other one is short, and both have an entry for the
same day. -/
private def longPounds : Plan :=
  ⟨⟨"long"⟩, 1, [⟨day 12, [(⟨"GBP"⟩, whole 40), (⟨"EUR"⟩, -whole 70)]⟩,
    ⟨day 14, [(⟨"USD"⟩, whole 9)]⟩]⟩

private def shortPounds : Plan :=
  ⟨⟨"short"⟩, fifth.value, [⟨day 9, [(⟨"GBP"⟩, -whole 15), (⟨"USD"⟩, whole 3)]⟩,
    ⟨day 12, [(⟨"GBP"⟩, -whole 25), (⟨"EUR"⟩, whole 10)]⟩]⟩

private def thirtyEuros : Table Currency Decimal :=
  Table.empty.insert ⟨"EUR"⟩ (whole 30)

/-- On the first of the two dates the positions are listed in another order, and nothing else differs. -/
theorem run_rearranged_swapped :
    ∃ points points',
      run ⟨.haircut, crossed, {}⟩ (day 10) 5 ([longPounds, shortPounds].map Plan.account)
        thirtyEuros = .ok points ∧
      run ⟨.haircut, crossed, {}⟩ (day 10) 5 ([shortPounds, longPounds].map Plan.account)
        thirtyEuros = .ok points' ∧
      points.map (fun point => (point.date, point.before.toRat)) =
        [(day 12, 134 / 5), (day 14, 4)] ∧
      points ≠ points' ∧ List.Forall₂ Snapshot.Rearranged points points' := by
  have dated : (run ⟨.haircut, crossed, {}⟩ (day 10) 5 ([longPounds, shortPounds].map Plan.account)
      thirtyEuros).map (List.map fun point => (point.date, point.before.toRat)) =
        .ok [(day 12, 134 / 5), (day 14, 4)] := by decide +kernel
  have swapped : (run ⟨.haircut, crossed, {}⟩ (day 10) 5
      ([shortPounds, longPounds].map Plan.account) thirtyEuros).map (fun points => decide
        (run ⟨.haircut, crossed, {}⟩ (day 10) 5 ([longPounds, shortPounds].map Plan.account)
          thirtyEuros ≠ .ok points)) = .ok true := by decide +kernel
  obtain ⟨points, ran, read⟩ := Outcome.map_ok.1 dated
  obtain ⟨points', ran', differs⟩ := Outcome.map_ok.1 swapped
  have differ : points ≠ points' := by
    intro same
    exact of_decide_eq_true differs (same ▸ ran)
  exact ⟨points, points', ran, ran', read, differ, run_rearranged (.swap _ _ _) ran ran'
    (Rounding.lossless_of_toBool (by decide +kernel))
    (Rounding.lossless_of_toBool (by decide +kernel))⟩

end Projection

end Collateral

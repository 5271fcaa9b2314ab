import Collateral.Proofs.Books
import Collateral.Proofs.Search

/-!
Contract: the residual of a deposit under the haircut rule.

The computed residual lies within the blur of an exact one, which is the worth of the book and the
cash less the factor times the exact margin. The exact margin of a book does not rise with domestic
cash where the book is worth what its debts ask for; so a larger factor asks for more cash, and of
two books the one with the larger margin does.

Owns: the exact residual, the blur, and the comparison of two solved deposits.
-/

namespace Collateral.Deposit

def Problem.ofTerms [Rounding] (terms : Terms) (book : Book) : Problem :=
  ⟨book, terms.domestic, terms.spot, Margin.ofBook terms⟩

section Exact

variable [Rounding]

/-- The size to which all numbers in a residual keep. -/
def residualSize (terms : Terms) (book : Book) (factor cash : Rat) : Rat :=
  2 + book.gross terms.spot terms.domestic + |cash| +
    factor * Margin.size terms (book.balances.entries.length + 1)
      (1 + 3 * (book.gross terms.spot terms.domestic + |cash|))

/-- How far rounding can move a residual. -/
def blur (grain : Rat) (terms : Terms) (book : Book) (factor cash : Rat) : Rat :=
  drift grain (book.balances.entries.length + 5) * residualSize terms book factor cash

/-- The exact residual of an amount of cash that brings the domestic balance to a level. -/
def exactResidual (terms : Terms) (book : Book) (others : List Bucket) (factor cash : Rat)
    (balance : Decimal) : Rat :=
  book.worth terms.spot terms.domestic + cash - factor * Margin.exactAt terms others balance

end Exact

variable [Rounding] {terms : Terms} {book : Book}

/-- The steps of a residual. -/
theorem residual_ok {total factor cash found : Decimal}
    (evaluated : (Problem.ofTerms terms book).residual total factor cash = .ok found) :
    ∃ balance worth margin required, (book.balance terms.domestic).add cash = .ok balance ∧
      total.add cash = .ok worth ∧
      Margin.ofBook terms ⟨book.balances.insert terms.domestic balance⟩ = .ok margin ∧
      factor.mul margin = .ok required ∧ worth.sub required = .ok found := by
  obtain ⟨paid, worth, margin, required, added, summed, margined, scaled, subtracted⟩ :=
    Problem.residual_ok.1 evaluated
  obtain ⟨balance, balanceIs, collected⟩ := Outcome.bind_ok.1 added
  rw [← Outcome.pure_ok.1 collected] at margined
  exact ⟨balance, worth, margin, required, balanceIs, summed, margined, scaled, subtracted⟩

/-- A residual is found where its steps are. -/
theorem residual_eq_ok {total factor cash balance worth margin required found : Decimal}
    (added : (book.balance terms.domestic).add cash = .ok balance)
    (summed : total.add cash = .ok worth)
    (margined : Margin.ofBook terms ⟨book.balances.insert terms.domestic balance⟩ = .ok margin)
    (scaled : factor.mul margin = .ok required) (subtracted : worth.sub required = .ok found) :
    (Problem.ofTerms terms book).residual total factor cash = .ok found := by
  have paid : book.add terms.domestic cash =
      .ok ⟨book.balances.insert terms.domestic balance⟩ :=
    Outcome.bind_ok.2 ⟨balance, added, rfl⟩
  exact Problem.residual_ok.2
    ⟨_, worth, margin, required, paid, summed, margined, scaled, subtracted⟩

variable {grain : Rat} [Rounding.Lawful grain]

/-- A rounded sum is at most about twice as large as its parts. -/
private theorem abs_add_near (small : grain ≤ 1) {left right sum : Decimal}
    (added : left.add right = .ok sum) :
    |sum.toRat| ≤ 1 + 2 * (|left.toRat| + |right.toRat|) := by
  have moved := Rounding.Lawful.fit_error (Decimal.add_ok.1 added)
  have parts := abs_add_le left.toRat right.toRat
  have scaled : grain * (1 + |left.toRat + right.toRat|) ≤ 1 * (1 + |left.toRat + right.toRat|) :=
    mul_le_mul_of_nonneg_right small (by positivity)
  have whole := abs_add_le (sum.toRat - (left.toRat + right.toRat)) (left.toRat + right.toRat)
  rw [sub_add_cancel] at whole
  linarith

private theorem peak_le (small : grain ≤ 1) (par : terms.AtPar) {cash balance : Decimal}
    (added : (book.balance terms.domestic).add cash = .ok balance) :
    book.gross terms.spot terms.domestic + |balance.toRat| ≤
      1 + 3 * (book.gross terms.spot terms.domestic + |cash.toRat|) := by
  have balanceLe := abs_add_near small added
  have held := Margin.abs_balance_le_gross par book
  linarith [abs_nonneg cash.toRat]

/-- The computed worth of a book and further cash. -/
private theorem worth_near [SummationOrder] {total cash worth : Decimal}
    (totaled : book.totalIn terms.domestic terms.spot = .ok total)
    (summed : total.add cash = .ok worth) :
    Near grain (book.balances.entries.length + 1)
      (1 + book.gross terms.spot terms.domestic + |cash.toRat|) worth.toRat
      (book.worth terms.spot terms.domestic + cash.toRat) := by
  have grainNonneg : 0 ≤ grain := Rounding.Lawful.grain_nonneg
  have totalNear := (Book.near_totalIn totaled).add ((Near.refl grain |cash.toRat| cash.toRat).mono
    grainNonneg (abs_nonneg _) (Nat.zero_le _) le_rfl)
  apply Rounding.near_fit (Decimal.add_ok.1 summed) totalNear
  linarith [abs_add_le (book.worth terms.spot terms.domestic) cash.toRat,
    book.abs_worth_le_gross terms.spot terms.domestic]

/-- The computed residual lies within the blur of the exact one. -/
theorem residual_near [SummationOrder] (small : grain ≤ 1) (par : terms.AtPar)
    (multiplierNonneg : 0 ≤ terms.multiplier.toRat) {total factor cash found : Decimal}
    (factorNonneg : 0 ≤ factor.toRat)
    (totaled : book.totalIn terms.domestic terms.spot = .ok total)
    (evaluated : (Problem.ofTerms terms book).residual total factor cash = .ok found) :
    ∃ others balance, Margin.foreign terms book = .ok others ∧
      (book.balance terms.domestic).add cash = .ok balance ∧
      0 ≤ Margin.exactAt terms others balance ∧
      |found.toRat - exactResidual terms book others factor.toRat cash.toRat balance| ≤
        blur grain terms book factor.toRat cash.toRat := by
  have grainNonneg : 0 ≤ grain := Rounding.Lawful.grain_nonneg
  obtain ⟨balance, worth, margin, required, balanceIs, summed, margined, scaled, subtracted⟩ :=
    residual_ok evaluated
  obtain ⟨others, built, marginNear, exactNonneg, exactLe⟩ :=
    Margin.near_ofBook par multiplierNonneg margined
  refine ⟨others, balance, built, balanceIs, exactNonneg, ?_⟩
  have grossNonneg := book.gross_nonneg terms.spot terms.domestic
  have peakLe := peak_le small par balanceIs
  have sizeLe := Margin.size_mono multiplierNonneg (book.balances.entries.length + 1)
    (by positivity) peakLe
  have worthNear := worth_near totaled summed
  have exactSized : factor.toRat * Margin.exactAt terms others balance ≤
      factor.toRat * Margin.size terms (book.balances.entries.length + 1)
        (1 + 3 * (book.gross terms.spot terms.domestic + |cash.toRat|)) :=
    mul_le_mul_of_nonneg_left (by linarith) factorNonneg
  have exactScaledNonneg := mul_nonneg factorNonneg exactNonneg
  have requiredNear : Near grain (book.balances.entries.length + 4)
      (1 + factor.toRat * Margin.size terms (book.balances.entries.length + 1)
        (1 + 3 * (book.gross terms.spot terms.domestic + |cash.toRat|))) required.toRat
      (factor.toRat * Margin.exactAt terms others balance) := by
    have scaledNear := marginNear.mul factor.toRat
    rw [abs_of_nonneg factorNonneg] at scaledNear
    have sized := mul_le_mul_of_nonneg_left sizeLe factorNonneg
    refine Rounding.near_fit (Decimal.mul_ok.1 scaled)
      (scaledNear.mono grainNonneg ?_ le_rfl (by linarith)) ?_
    · exact mul_nonneg factorNonneg (by linarith)
    · rw [abs_of_nonneg exactScaledNonneg]
      linarith
  have near := Rounding.near_fit (Decimal.sub_ok.1 subtracted)
    ((worthNear.mono grainNonneg (by positivity) (by omega) le_rfl).sub requiredNear) ?_
  · rw [blur, residualSize, exactResidual]
    apply near.trans_eq
    ring
  · have parts := abs_sub (book.worth terms.spot terms.domestic + cash.toRat)
      (factor.toRat * Margin.exactAt terms others balance)
    rw [abs_of_nonneg exactScaledNonneg] at parts
    linarith [abs_add_le (book.worth terms.spot terms.domestic) cash.toRat,
      book.abs_worth_le_gross terms.spot terms.domestic]

/-! ## More cash -/

section MoreCash

variable {others : List Bucket} {cash : Rat} {balance : Decimal}

/-- The domestic balance with cash added, within one rounding. -/
theorem balance_near (par : terms.AtPar) {amount : Decimal}
    (added : (book.balance terms.domestic).add amount = .ok balance) :
    |balance.toRat - ((book.balance terms.domestic).toRat + amount.toRat)| ≤
      grain * (1 + book.gross terms.spot terms.domestic + |amount.toRat|) := by
  apply (Rounding.Lawful.fit_error (Decimal.add_ok.1 added)).trans
  apply mul_le_mul_of_nonneg_left _ (Rounding.Lawful.grain_nonneg : 0 ≤ grain)
  linarith [abs_add_le (book.balance terms.domestic).toRat amount.toRat,
    Margin.abs_balance_le_gross par book]

/-- A book lacks, at a balance, no more than what its worth and the cash fall short of, but for its
flat balances and one rounding. -/
private theorem lacking_le (par : terms.AtPar) (built : Margin.foreign terms book = .ok others)
    {amount : Decimal} (added : (book.balance terms.domestic).add amount = .ok balance) :
    -(Netting.net others + Margin.settled balance) ≤
      book.flatWorth terms.spot terms.domestic + 1 / 10 ^ 6 +
        grain * (1 + book.gross terms.spot terms.domestic + |amount.toRat|) -
        (book.worth terms.spot terms.domestic + amount.toRat) := by
  have held := (abs_le.1 (Margin.abs_worth_sub_le par built)).2
  have flat := Margin.sub_le_settled balance
  have moved := (abs_le.1 (balance_near par added)).1
  linarith

/-- **More domestic cash does not raise the exact margin of a book that is worth its debts.** Where
worth and cash fall short, it costs at most the domestic haircut on that. -/
theorem exactAt_le (par : terms.AtPar) (multiplierNonneg : 0 ≤ terms.multiplier.toRat)
    (built : Margin.foreign terms book = .ok others) {fewer more balance balance' : Decimal}
    (ordered : fewer.toRat ≤ more.toRat)
    (fewerAdded : (book.balance terms.domestic).add fewer = .ok balance)
    (moreAdded : (book.balance terms.domestic).add more = .ok balance') :
    Margin.exactAt terms others balance' ≤ Margin.exactAt terms others balance +
      terms.multiplier.toRat * (Margin.slot terms).rate.toRat *
        max 0 (book.flatWorth terms.spot terms.domestic + 1 / 10 ^ 6 +
          grain * (1 + book.gross terms.spot terms.domestic + |fewer.toRat|) -
          (book.worth terms.spot terms.domestic + fewer.toRat)) := by
  have balances : balance.toRat ≤ balance'.toRat :=
    Rounding.Lawful.fit_mono (add_le_add_right ordered _) (Decimal.add_ok.1 fewerAdded)
      (Decimal.add_ok.1 moreAdded)
  have rateNonneg : 0 ≤ (Margin.slot terms).rate.toRat := (terms.haircuts.rate_bounds _).1
  have levels := Netting.level_le rateNonneg (Margin.foreign_bounded built)
    (Margin.settled_mono balances)
  have lacking := max_le_max_left 0 (lacking_le par built fewerAdded)
  have scaled := mul_le_mul_of_nonneg_left levels multiplierNonneg
  have scaledLacking := mul_le_mul_of_nonneg_left lacking
    (mul_nonneg multiplierNonneg rateNonneg)
  rw [Margin.exactAt, Margin.exactAt]
  linarith

end MoreCash

/-! ## Two solved deposits -/

/-- The domestic cost of a unit of debt that domestic cash comes to cover, at a factor. -/
def coverCost (terms : Terms) (factor : Rat) : Rat :=
  factor * (terms.multiplier.toRat * (Margin.slot terms).rate.toRat)

omit [Rounding] [Rounding.Lawful grain] in
theorem coverCost_nonneg (multiplierNonneg : 0 ≤ terms.multiplier.toRat) {factor : Rat}
    (factorNonneg : 0 ≤ factor) : 0 ≤ coverCost terms factor :=
  mul_nonneg factorNonneg (mul_nonneg multiplierNonneg (terms.haircuts.rate_bounds _).1)

/-- What rounding adds to a domestic balance, as a bound. -/
theorem grain_le_blur (book : Book) (multiplierNonneg : 0 ≤ terms.multiplier.toRat)
    {factor : Rat} (factorNonneg : 0 ≤ factor) (cash : Rat) :
    grain * (1 + book.gross terms.spot terms.domestic + |cash|) ≤
      blur grain terms book factor cash := by
  have grainNonneg : 0 ≤ grain := Rounding.Lawful.grain_nonneg
  have grainLe : grain ≤ drift grain (book.balances.entries.length + 5) :=
    grain_le_drift grainNonneg (by omega)
  have grossNonneg := book.gross_nonneg terms.spot terms.domestic
  have sizeNonneg : 0 ≤ factor * Margin.size terms (book.balances.entries.length + 1)
      (1 + 3 * (book.gross terms.spot terms.domestic + |cash|)) :=
    mul_nonneg factorNonneg (Margin.size_nonneg multiplierNonneg _ (by positivity))
  rw [blur, residualSize]
  exact mul_le_mul grainLe (by linarith) (by positivity) (grainNonneg.trans grainLe)

/-- The blur of a residual in which no number is large, for a book of up to a thousand entries. -/
theorem blur_le_of_residualSize_le (fine : grain ≤ 1 / 10 ^ 28)
    (few : book.balances.entries.length ≤ 1000) {factor cash bound : Rat} (boundNonneg : 0 ≤ bound)
    (sized : residualSize terms book factor cash ≤ bound) :
    blur grain terms book factor cash ≤ 201 / 10 ^ 27 * bound := by
  have grainNonneg : 0 ≤ grain := Rounding.Lawful.grain_nonneg
  calc blur grain terms book factor cash
      ≤ drift grain (book.balances.entries.length + 5) * bound :=
        mul_le_mul_of_nonneg_left sized (drift_nonneg grainNonneg _)
    _ ≤ 201 / 10 ^ 27 * bound := mul_le_mul_of_nonneg_right
        (drift_le_of_thousand grainNonneg fine (Nat.add_le_add_right few 5)) boundNonneg

/-- An amount with a small residual is not much larger than another one that belongs to a margin no
smaller than its own. -/
private theorem cash_le_of_residuals (par : terms.AtPar)
    (multiplierNonneg : 0 ≤ terms.multiplier.toRat) {other : Book}
    {others others' : List Bucket} {factor factor' high low gap extra : Rat}
    {cash cash' balance between balance' : Decimal}
    (built : Margin.foreign terms book = .ok others)
    (cashAdded : (book.balance terms.domestic).add cash = .ok balance)
    (betweenAdded : (book.balance terms.domestic).add cash' = .ok between)
    (factorNonneg : 0 ≤ factor) (highNonneg : 0 ≤ high) (lowNonneg : 0 ≤ low)
    (gapNonneg : 0 ≤ gap) (extraNonneg : 0 ≤ extra)
    (above : exactResidual terms book others factor cash.toRat balance ≤ high)
    (below : -low ≤ exactResidual terms other others' factor' cash'.toRat balance')
    (requiredNonneg : 0 ≤ factor' * Margin.exactAt terms others' balance')
    (worths : |book.worth terms.spot terms.domestic - other.worth terms.spot terms.domestic| ≤ gap)
    (compared : factor * Margin.exactAt terms others between ≤
      factor' * Margin.exactAt terms others' balance' + extra) :
    cash.toRat ≤ cash'.toRat + high + low + gap + extra + coverCost terms factor *
      (low + gap + book.flatWorth terms.spot terms.domestic + 1 / 10 ^ 6 +
        grain * (1 + book.gross terms.spot terms.domestic + |cash'.toRat|)) := by
  have grainNonneg : 0 ≤ grain := Rounding.Lawful.grain_nonneg
  have rateNonneg : 0 ≤ (Margin.slot terms).rate.toRat := (terms.haircuts.rate_bounds _).1
  have grossNonneg := book.gross_nonneg terms.spot terms.domestic
  have roundNonneg : 0 ≤ grain * (1 + book.gross terms.spot terms.domestic + |cash'.toRat|) :=
    mul_nonneg grainNonneg (by positivity)
  have flatNonneg := book.flatWorth_nonneg terms.spot terms.domestic
  have costNonneg := coverCost_nonneg multiplierNonneg factorNonneg
  unfold exactResidual at above below
  rcases le_total cash.toRat cash'.toRat with less | more
  · have lacking : 0 ≤ coverCost terms factor *
        (low + gap + book.flatWorth terms.spot terms.domestic + 1 / 10 ^ 6 +
          grain * (1 + book.gross terms.spot terms.domestic + |cash'.toRat|)) :=
      mul_nonneg costNonneg (by positivity)
    linarith
  · have rise := mul_le_mul_of_nonneg_left
      (exactAt_le par multiplierNonneg built more betweenAdded cashAdded) factorNonneg
    obtain ⟨worthLow, -⟩ := abs_le.1 worths
    have lacking : max 0 (book.flatWorth terms.spot terms.domestic + 1 / 10 ^ 6 +
        grain * (1 + book.gross terms.spot terms.domestic + |cash'.toRat|) -
          (book.worth terms.spot terms.domestic + cash'.toRat)) ≤
        low + gap + book.flatWorth terms.spot terms.domestic + 1 / 10 ^ 6 +
          grain * (1 + book.gross terms.spot terms.domestic + |cash'.toRat|) :=
      max_le (by positivity) (by linarith)
    have cost := mul_le_mul_of_nonneg_left lacking costNonneg
    rw [mul_add, ← mul_assoc factor, ← coverCost] at rise
    obtain ⟨-, worthHigh⟩ := abs_le.1 worths
    linarith

/-- Where no more cash is asked for than for another book, the margin with the cash of that book is
not much larger than its margin. -/
private theorem margin_le_of_residuals (par : terms.AtPar)
    (multiplierNonneg : 0 ≤ terms.multiplier.toRat) {other : Book}
    {others others' : List Bucket} {factor high low gap : Rat}
    {cash cash' balance between balance' : Decimal}
    (built : Margin.foreign terms book = .ok others)
    (cashAdded : (book.balance terms.domestic).add cash = .ok balance)
    (betweenAdded : (book.balance terms.domestic).add cash' = .ok between)
    (factorNonneg : 0 ≤ factor) (lowNonneg : 0 ≤ low)
    (below : -low ≤ exactResidual terms book others factor cash.toRat balance)
    (above : exactResidual terms other others' factor cash'.toRat balance' ≤ high)
    (requiredNonneg : 0 ≤ factor * Margin.exactAt terms others balance)
    (worths : |book.worth terms.spot terms.domestic - other.worth terms.spot terms.domestic| ≤ gap)
    (ordered : cash.toRat ≤ cash'.toRat) :
    factor * Margin.exactAt terms others between ≤
      factor * Margin.exactAt terms others' balance' + low + high + gap + coverCost terms factor *
        (low + book.flatWorth terms.spot terms.domestic + 1 / 10 ^ 6 +
          grain * (1 + book.gross terms.spot terms.domestic + |cash.toRat|)) := by
  have grainNonneg : 0 ≤ grain := Rounding.Lawful.grain_nonneg
  have grossNonneg := book.gross_nonneg terms.spot terms.domestic
  have flatNonneg := book.flatWorth_nonneg terms.spot terms.domestic
  have costNonneg : 0 ≤ coverCost terms factor := coverCost_nonneg multiplierNonneg factorNonneg
  have roundNonneg : 0 ≤ grain * (1 + book.gross terms.spot terms.domestic + |cash.toRat|) :=
    mul_nonneg grainNonneg (by positivity)
  unfold exactResidual at above below
  have rise := mul_le_mul_of_nonneg_left
    (exactAt_le par multiplierNonneg built ordered cashAdded betweenAdded) factorNonneg
  -- With its own cash the book is worth what its margin asks for, so it lacks next to nothing.
  have lacking : max 0 (book.flatWorth terms.spot terms.domestic + 1 / 10 ^ 6 +
      grain * (1 + book.gross terms.spot terms.domestic + |cash.toRat|) -
        (book.worth terms.spot terms.domestic + cash.toRat)) ≤
      low + book.flatWorth terms.spot terms.domestic + 1 / 10 ^ 6 +
        grain * (1 + book.gross terms.spot terms.domestic + |cash.toRat|) :=
    max_le (by positivity) (by linarith)
  have cost := mul_le_mul_of_nonneg_left lacking costNonneg
  rw [mul_add, ← mul_assoc factor, ← coverCost] at rise
  obtain ⟨-, worthHigh⟩ := abs_le.1 worths
  linarith

theorem blur_nonneg (multiplierNonneg : 0 ≤ terms.multiplier.toRat) {factor : Rat}
    (factorNonneg : 0 ≤ factor) (cash : Rat) : 0 ≤ blur grain terms book factor cash := by
  have grainNonneg : 0 ≤ grain := Rounding.Lawful.grain_nonneg
  have grossNonneg := book.gross_nonneg terms.spot terms.domestic
  exact (mul_nonneg grainNonneg (by positivity)).trans
    (grain_le_blur book multiplierNonneg factorNonneg cash)

omit [Rounding.Lawful grain] in
/-- The search has accepted an amount for a book at a factor, in some order of summation. -/
def Accepted (terms : Terms) (book : Book) (factor accepted cash : Decimal) : Prop :=
  ∃ (_ : SummationOrder) (total found : Decimal),
    book.totalIn terms.domestic terms.spot = .ok total ∧
    (Problem.ofTerms terms book).residual total factor cash = .ok found ∧ found.abs ≤ accepted

omit [Rounding.Lawful grain] in
/-- A solved deposit is zero where the book has no margin. Otherwise it was sought, and has been
accepted. -/
theorem sought_of_solve [SummationOrder] {target : Float} {effort : Effort} {cash : Decimal}
    (solved : solve (Problem.ofTerms terms book) target effort = .ok cash) :
    ∃ margin, Margin.ofBook terms book = .ok margin ∧
      (margin = 0 ∧ cash = 0 ∨ margin ≠ 0 ∧ ∃ total factor accepted,
        (Problem.ofTerms terms book).Sought target effort.tolerance total margin factor accepted ∧
        Accepted terms book factor accepted cash) := by
  obtain ⟨decimal, total, margin, targetIs, totaled, margined, outcome⟩ := solve_ok solved
  refine ⟨margin, margined, outcome.imp_right ?_⟩
  rintro ⟨some, factor, accepted, found, factored, acceptedIs, answers⟩
  exact ⟨some, total, factor, accepted,
    ⟨⟨decimal, targetIs, factored⟩, totaled, margined, some, acceptedIs⟩,
    _, total, found, totaled, answers.evaluated, answers.small⟩

/-- The computed margin of a book with cash added, at a factor, lies within the blur. -/
theorem margin_near (small : grain ≤ 1) (par : terms.AtPar)
    (multiplierNonneg : 0 ≤ terms.multiplier.toRat) {factor : Rat} (factorNonneg : 0 ≤ factor)
    {cash balance margin : Decimal} (added : (book.balance terms.domestic).add cash = .ok balance)
    (margined : Margin.ofBook terms ⟨book.balances.insert terms.domestic balance⟩ = .ok margin) :
    ∃ others, Margin.foreign terms book = .ok others ∧ 0 ≤ Margin.exactAt terms others balance ∧
      |factor * margin.toRat - factor * Margin.exactAt terms others balance| ≤
        blur grain terms book factor cash.toRat := by
  have grainNonneg : 0 ≤ grain := Rounding.Lawful.grain_nonneg
  obtain ⟨others, built, near, exactNonneg, -⟩ := Margin.near_ofBook par multiplierNonneg margined
  refine ⟨others, built, exactNonneg, ?_⟩
  have grossNonneg := book.gross_nonneg terms.spot terms.domestic
  have peakLe := peak_le small par added
  have sizeLe := Margin.size_mono multiplierNonneg (book.balances.entries.length + 1)
    (by positivity) peakLe
  have sizeNonneg := Margin.size_nonneg multiplierNonneg (book.balances.entries.length + 1)
    (by positivity : 0 ≤ book.gross terms.spot terms.domestic + |balance.toRat|)
  have scaled := near.mul factor
  rw [abs_of_nonneg factorNonneg] at scaled
  have sized := mul_le_mul_of_nonneg_left sizeLe factorNonneg
  apply scaled.mono grainNonneg (mul_nonneg factorNonneg sizeNonneg) (by omega)
  rw [residualSize]
  linarith [abs_nonneg cash.toRat]

section Compared

variable {factor factor' accepted accepted' cash cash' : Decimal}

omit [Rounding.Lawful grain] in
theorem Accepted.accepted_nonneg (holds : Accepted terms book factor accepted cash) :
    0 ≤ accepted.toRat := by
  obtain ⟨-, total, found, -, -, within⟩ := holds
  have size := Decimal.le_iff.1 within
  rw [Decimal.toRat_abs] at size
  exact (abs_nonneg _).trans size

omit [Rounding] [Rounding.Lawful grain] in
/-- What an accepted number was to be is within the acceptance, but for what the number is off. -/
private theorem abs_le_of_accepted {found : Decimal} {exact off : Rat}
    (within : found.abs ≤ accepted) (near : |found.toRat - exact| ≤ off) :
    |exact| ≤ accepted.toRat + off := by
  have foundLe : |found.toRat| ≤ accepted.toRat := by
    rw [← Decimal.toRat_abs]
    exact Decimal.le_iff.1 within
  have parts := abs_sub found.toRat (found.toRat - exact)
  rw [sub_sub_cancel] at parts
  linarith

/-- How far rounding can move a residual whose margin is taken as computed. -/
def marginBlur (grain : Rat) (terms : Terms) (book : Book) (factor cash margin : Rat) : Rat :=
  drift grain (book.balances.entries.length + 3) *
    (2 + book.gross terms.spot terms.domestic + |cash| + |factor * margin|)

/-- With an accepted amount, a book is worth its computed margin at the factor. -/
theorem Accepted.worth_near (holds : Accepted terms book factor accepted cash) :
    ∃ balance margin, (book.balance terms.domestic).add cash = .ok balance ∧
      Margin.ofBook terms ⟨book.balances.insert terms.domestic balance⟩ = .ok margin ∧
      |book.worth terms.spot terms.domestic + cash.toRat - factor.toRat * margin.toRat| ≤
        accepted.toRat + marginBlur grain terms book factor.toRat cash.toRat margin.toRat := by
  have grainNonneg : 0 ≤ grain := Rounding.Lawful.grain_nonneg
  obtain ⟨order, total, found, totaled, evaluated, within⟩ := holds
  obtain ⟨balance, worth, margin, required, added, summed, margined, scaled, subtracted⟩ :=
    residual_ok evaluated
  refine ⟨balance, margin, added, margined, abs_le_of_accepted within ?_⟩
  have grossNonneg := book.gross_nonneg terms.spot terms.domestic
  have requiredNear := (Rounding.near_fit_one (Decimal.mul_ok.1 scaled)).mono grainNonneg
    (by positivity) (by omega : 1 ≤ book.balances.entries.length + 2) le_rfl
  have worthNear := (Deposit.worth_near totaled summed).mono grainNonneg (by positivity)
    (Nat.le_succ _) le_rfl
  have near := Rounding.near_fit (Decimal.sub_ok.1 subtracted) (worthNear.sub requiredNear) (by
    linarith [abs_sub (book.worth terms.spot terms.domestic + cash.toRat)
      (factor.toRat * margin.toRat), abs_add_le (book.worth terms.spot terms.domestic) cash.toRat,
      book.abs_worth_le_gross terms.spot terms.domestic])
  apply near.trans_eq
  rw [marginBlur]
  ring

/-- An accepted amount has an exact residual within the acceptance and the blur. -/
theorem Accepted.exact (small : grain ≤ 1) (par : terms.AtPar)
    (multiplierNonneg : 0 ≤ terms.multiplier.toRat) (factorNonneg : 0 ≤ factor.toRat)
    (holds : Accepted terms book factor accepted cash) :
    ∃ others balance, Margin.foreign terms book = .ok others ∧
      (book.balance terms.domestic).add cash = .ok balance ∧
      0 ≤ Margin.exactAt terms others balance ∧
      0 ≤ accepted.toRat + blur grain terms book factor.toRat cash.toRat ∧
      |exactResidual terms book others factor.toRat cash.toRat balance| ≤
        accepted.toRat + blur grain terms book factor.toRat cash.toRat := by
  obtain ⟨order, total, found, totaled, evaluated, within⟩ := holds
  obtain ⟨others, balance, built, added, exactNonneg, near⟩ :=
    residual_near small par multiplierNonneg factorNonneg totaled evaluated
  have exactLe := abs_le_of_accepted within near
  exact ⟨others, balance, built, added, exactNonneg, (abs_nonneg _).trans exactLe, exactLe⟩

/-- How much an accepted amount can exceed one that was accepted for the same book at a larger
factor. -/
def orderSlack (grain : Rat) (terms : Terms) (book : Book)
    (factor factor' accepted accepted' cash cash' : Rat) : Rat :=
  accepted + blur grain terms book factor cash + accepted' + blur grain terms book factor' cash' +
    coverCost terms factor * (accepted' + book.flatWorth terms.spot terms.domestic + 1 / 10 ^ 6 +
      2 * blur grain terms book factor' cash')

theorem orderSlack_nonneg (multiplierNonneg : 0 ≤ terms.multiplier.toRat)
    {factor factor' accepted accepted' : Rat} (factorNonneg : 0 ≤ factor)
    (factorNonneg' : 0 ≤ factor') (acceptedNonneg : 0 ≤ accepted) (acceptedNonneg' : 0 ≤ accepted')
    (cash cash' : Rat) :
    0 ≤ orderSlack grain terms book factor factor' accepted accepted' cash cash' := by
  have blurs : 0 ≤ blur grain terms book factor cash := blur_nonneg multiplierNonneg factorNonneg _
  have blurs' : 0 ≤ blur grain terms book factor' cash' :=
    blur_nonneg multiplierNonneg factorNonneg' _
  have costs := coverCost_nonneg multiplierNonneg factorNonneg
  have flat := book.flatWorth_nonneg terms.spot terms.domestic
  unfold orderSlack
  positivity

/-- **A larger factor asks for no less cash.** -/
theorem Accepted.le_of_factor_le (small : grain ≤ 1) (par : terms.AtPar)
    (multiplierNonneg : 0 ≤ terms.multiplier.toRat) (factorNonneg : 0 ≤ factor.toRat)
    (factorLe : factor.toRat ≤ factor'.toRat) (holds : Accepted terms book factor accepted cash)
    (holds' : Accepted terms book factor' accepted' cash') :
    cash.toRat ≤ cash'.toRat + orderSlack grain terms book factor.toRat factor'.toRat
      accepted.toRat accepted'.toRat cash.toRat cash'.toRat := by
  have factorNonneg' := factorNonneg.trans factorLe
  obtain ⟨others, balance, built, added, exactNonneg, highNonneg, above⟩ :=
    holds.exact small par multiplierNonneg factorNonneg
  obtain ⟨others', balance', built', added', exactNonneg', lowNonneg, below⟩ :=
    holds'.exact small par multiplierNonneg factorNonneg'
  obtain rfl := Except.ok.inj (built.symm.trans built')
  have apart := cash_le_of_residuals par multiplierNonneg built added added' factorNonneg highNonneg
    lowNonneg le_rfl le_rfl (abs_le.1 above).2 (abs_le.1 below).1
    (mul_nonneg factorNonneg' exactNonneg') (by simp)
    ((mul_le_mul_of_nonneg_right factorLe exactNonneg').trans_eq (add_zero _).symm)
  have rounding := grain_le_blur book multiplierNonneg factorNonneg' cash'.toRat
  have scaled := mul_le_mul_of_nonneg_left rounding (coverCost_nonneg multiplierNonneg factorNonneg)
  rw [orderSlack]
  linarith

/-- How far two accepted amounts, for two books of nearly the same worth at one factor, and their
margins can stand in another order. -/
def pointSlack (grain : Rat) (terms : Terms) (book other : Book)
    (factor accepted accepted' gap cash cash' : Rat) : Rat :=
  accepted + accepted' + gap + blur grain terms book factor cash +
    blur grain terms book factor cash' + 2 * blur grain terms other factor cash' +
    coverCost terms factor * (accepted + accepted' + gap +
      book.flatWorth terms.spot terms.domestic + 1 / 10 ^ 6 +
      2 * blur grain terms book factor cash + blur grain terms book factor cash' +
      blur grain terms other factor cash')

/-- **The book of the larger margin asks for more cash.** With the cash of another book added to
both, a margin that is no larger means that no more cash is asked for, and the other way round. -/
theorem Accepted.margin_le_iff (small : grain ≤ 1) (par : terms.AtPar)
    (multiplierNonneg : 0 ≤ terms.multiplier.toRat) (factorNonneg : 0 ≤ factor.toRat)
    {other : Book} {gap : Rat}
    (worths : |book.worth terms.spot terms.domestic - other.worth terms.spot terms.domestic| ≤ gap)
    (holds : Accepted terms book factor accepted cash)
    (holds' : Accepted terms other factor accepted' cash')
    {between balance' margin margin' : Decimal}
    (betweenAdded : (book.balance terms.domestic).add cash' = .ok between)
    (margined : Margin.ofBook terms ⟨book.balances.insert terms.domestic between⟩ = .ok margin)
    (added' : (other.balance terms.domestic).add cash' = .ok balance')
    (margined' : Margin.ofBook terms ⟨other.balances.insert terms.domestic balance'⟩ =
      .ok margin') :
    (margin ≤ margin' → cash.toRat ≤ cash'.toRat + pointSlack grain terms book other factor.toRat
        accepted.toRat accepted'.toRat gap cash.toRat cash'.toRat) ∧
      (cash ≤ cash' → factor.toRat * margin.toRat ≤ factor.toRat * margin'.toRat +
        pointSlack grain terms book other factor.toRat accepted.toRat accepted'.toRat gap cash.toRat
          cash'.toRat) := by
  have gapNonneg : 0 ≤ gap := (abs_nonneg _).trans worths
  have acceptedNonneg := holds.accepted_nonneg
  have acceptedNonneg' := holds'.accepted_nonneg
  obtain ⟨others, balance, built, added, exactNonneg, highNonneg, near⟩ :=
    holds.exact small par multiplierNonneg factorNonneg
  obtain ⟨others', otherBalance, built', otherAdded, exactNonneg', lowNonneg, near'⟩ :=
    holds'.exact small par multiplierNonneg factorNonneg
  obtain rfl := Except.ok.inj (added'.symm.trans otherAdded)
  obtain ⟨same, sameBuilt, -, marginNear⟩ :=
    margin_near small par multiplierNonneg factorNonneg betweenAdded margined
  obtain rfl := Except.ok.inj (built.symm.trans sameBuilt)
  obtain ⟨same', sameBuilt', -, marginNear'⟩ :=
    margin_near small par multiplierNonneg factorNonneg added' margined'
  obtain rfl := Except.ok.inj (built'.symm.trans sameBuilt')
  rw [abs_le] at near near' marginNear marginNear'
  have costNonneg : 0 ≤ coverCost terms factor.toRat :=
    coverCost_nonneg multiplierNonneg factorNonneg
  have blurNonneg : ∀ cash, 0 ≤ blur grain terms book factor.toRat cash :=
    blur_nonneg multiplierNonneg factorNonneg
  have blurNonneg' : ∀ cash, 0 ≤ blur grain terms other factor.toRat cash :=
    blur_nonneg multiplierNonneg factorNonneg
  constructor
  · intro smaller
    have scaled := mul_le_mul_of_nonneg_left (Decimal.le_iff.1 smaller) factorNonneg
    have apart := cash_le_of_residuals par multiplierNonneg built added betweenAdded factorNonneg
      highNonneg lowNonneg gapNonneg (add_nonneg (blurNonneg cash'.toRat) (blurNonneg' cash'.toRat))
      near.2 near'.1 (mul_nonneg factorNonneg exactNonneg') worths (by linarith)
    have rounding := grain_le_blur book multiplierNonneg factorNonneg cash'.toRat
    have cost := mul_le_mul_of_nonneg_left (by linarith [blurNonneg cash.toRat] :
      accepted'.toRat + blur grain terms other factor.toRat cash'.toRat + gap +
        book.flatWorth terms.spot terms.domestic + 1 / 10 ^ 6 +
        grain * (1 + book.gross terms.spot terms.domestic + |cash'.toRat|) ≤
      accepted.toRat + accepted'.toRat + gap + book.flatWorth terms.spot terms.domestic +
        1 / 10 ^ 6 + 2 * blur grain terms book factor.toRat cash.toRat +
        blur grain terms book factor.toRat cash'.toRat +
        blur grain terms other factor.toRat cash'.toRat) costNonneg
    rw [pointSlack]
    linarith
  · intro fewer
    have apart := margin_le_of_residuals par multiplierNonneg built added betweenAdded factorNonneg
      highNonneg near.1 near'.2 (mul_nonneg factorNonneg exactNonneg) worths
      (Decimal.le_iff.1 fewer)
    have rounding := grain_le_blur book multiplierNonneg factorNonneg cash.toRat
    have cost := mul_le_mul_of_nonneg_left
      (by linarith [blurNonneg cash'.toRat, blurNonneg' cash'.toRat] :
        accepted.toRat + blur grain terms book factor.toRat cash.toRat +
          book.flatWorth terms.spot terms.domestic + 1 / 10 ^ 6 +
          grain * (1 + book.gross terms.spot terms.domestic + |cash.toRat|) ≤
        accepted.toRat + accepted'.toRat + gap + book.flatWorth terms.spot terms.domestic +
          1 / 10 ^ 6 + 2 * blur grain terms book factor.toRat cash.toRat +
          blur grain terms book factor.toRat cash'.toRat +
          blur grain terms other factor.toRat cash'.toRat) costNonneg
    rw [pointSlack]
    linarith [blurNonneg cash'.toRat, blurNonneg' cash'.toRat]

end Compared

end Collateral.Deposit

import Collateral.Proofs.Residual

/-!
Contract: how fast the residual rises with the cash.

A unit of cash adds one to the worth of a book. It costs at most the domestic haircut, where it
covers debt that had no cover before, and it saves at most the highest one. So where the domestic
haircut, scaled by the multiplier and the factor, stays below one, the residual rises between two
slopes, but for what flat balances and rounding move.

Owns: the margin as the balance moves, the two slopes, and the size of a residual.
-/

namespace Collateral

namespace Margin

variable [Rounding] {terms : Terms} {book : Book} {others : List Bucket} {balance balance' : Decimal}

/-! ## The margin as the balance moves -/

omit [Rounding] in
/-- A balance that rises may settle by what is flat more than it rises: on its way out of the flat
range, or into it from below. -/
private theorem settled_sub_le (ordered : balance.toRat ≤ balance'.toRat) :
    settled balance' - settled balance ≤ balance'.toRat - balance.toRat + 1 / 10 ^ 6 := by
  unfold settled
  split
  next rightFlat =>
    rw [isFlat_iff, abs_lt] at rightFlat
    split <;> linarith
  next =>
    split
    next leftFlat =>
      rw [isFlat_iff, abs_lt] at leftFlat
      linarith
    next => linarith

/-- The margin rises with the balance by at most the domestic haircut. -/
theorem exactAt_le_rate (multiplierNonneg : 0 ≤ terms.multiplier.toRat)
    (built : foreign terms book = .ok others) (ordered : balance.toRat ≤ balance'.toRat) :
    exactAt terms others balance' ≤ exactAt terms others balance +
      terms.multiplier.toRat * (slot terms).rate.toRat *
        (balance'.toRat - balance.toRat + 1 / 10 ^ 6) := by
  have rateNonneg := (slot_rate_bounds terms).1
  have levels := mul_le_mul_of_nonneg_left (Netting.level_le_rate rateNonneg
    (foreign_bounded built) (settled_mono ordered)) multiplierNonneg
  have moved := mul_le_mul_of_nonneg_left (settled_sub_le ordered)
    (mul_nonneg multiplierNonneg rateNonneg)
  rw [exactAt, exactAt]
  linarith

/-- The margin falls with the balance by at most the highest haircut. -/
theorem exactAt_ge_highest (multiplierNonneg : 0 ≤ terms.multiplier.toRat)
    (built : foreign terms book = .ok others) (ordered : balance.toRat ≤ balance'.toRat) :
    exactAt terms others balance ≤ exactAt terms others balance' +
      terms.multiplier.toRat * terms.haircuts.highest *
        (balance'.toRat - balance.toRat + 1 / 10 ^ 6) := by
  obtain ⟨rateNonneg, rateLe⟩ := slot_rate_bounds terms
  have near : |Netting.level (slot terms) others (settled balance') -
      Netting.level (slot terms) others (settled balance)| ≤
        terms.haircuts.highest * (settled balance' - settled balance) :=
    Netting.level_near rateNonneg rateLe (foreign_bounded built) (settled_mono ordered)
  have levels := mul_le_mul_of_nonneg_left (abs_le.1 near).1 multiplierNonneg
  have moved := mul_le_mul_of_nonneg_left (settled_sub_le ordered)
    (mul_nonneg multiplierNonneg terms.haircuts.highest_nonneg)
  rw [exactAt, exactAt]
  linarith

/-- A margin is at most the highest haircut on all balances. -/
theorem exactAt_le_top (multiplierNonneg : 0 ≤ terms.multiplier.toRat)
    (built : foreign terms book = .ok others) (balance : Decimal) :
    exactAt terms others balance ≤ terms.multiplier.toRat * terms.haircuts.highest *
      (book.gross terms.spot terms.domestic + |balance.toRat| + 1 / 10 ^ 6) := by
  obtain ⟨rateNonneg, rateLe⟩ := slot_rate_bounds terms
  have level : Netting.level (slot terms) others (settled balance) ≤ terms.haircuts.highest *
      ((others.map fun bucket => |bucket.value.toRat|).sum + |settled balance|) :=
    Netting.level_le_top rateNonneg rateLe (foreign_bounded built) _
  have held : (others.map fun bucket => |bucket.value.toRat|).sum ≤
      book.gross terms.spot terms.domestic := by
    have values := congrArg (List.map abs) (values_foreign built)
    rw [List.map_map, List.map_map] at values
    rw [show (fun bucket : Bucket => |bucket.value.toRat|) = abs ∘ fun bucket : Bucket =>
      bucket.value.toRat from rfl, values]
    refine List.Sublist.sum_le_sum (List.filter_sublist.map _) fun amount member => ?_
    obtain ⟨entry, -, rfl⟩ := List.mem_map.1 member
    exact abs_nonneg _
  have settles : |settled balance| ≤ |balance.toRat| + 1 / 10 ^ 6 := by
    have parts := abs_add_le (settled balance - balance.toRat) balance.toRat
    rw [sub_add_cancel] at parts
    linarith [settled_near balance]
  have sum := mul_le_mul_of_nonneg_left (add_le_add held settles) terms.haircuts.highest_nonneg
  rw [exactAt, mul_assoc]
  exact mul_le_mul_of_nonneg_left (by linarith) multiplierNonneg

end Margin

namespace Deposit

section Slopes

variable {terms : Terms} {book : Book} {others : List Bucket} {factor : Rat}

/-- How fast a residual rises at least: what is left of a unit of cash that covers debt. -/
def ascent (terms : Terms) (factor : Rat) : Rat :=
  1 - coverCost terms factor

/-- How fast a residual rises at most: a unit of cash, and what it saves in margin. -/
def steepness (terms : Terms) (factor : Rat) : Rat :=
  1 + factor * (terms.multiplier.toRat * terms.haircuts.highest)

theorem ascent_le_one (multiplierNonneg : 0 ≤ terms.multiplier.toRat) (factorNonneg : 0 ≤ factor) :
    ascent terms factor ≤ 1 :=
  sub_le_self 1 (coverCost_nonneg multiplierNonneg factorNonneg)

theorem one_le_steepness (multiplierNonneg : 0 ≤ terms.multiplier.toRat)
    (factorNonneg : 0 ≤ factor) : 1 ≤ steepness terms factor :=
  le_add_of_nonneg_right (mul_nonneg factorNonneg
    (mul_nonneg multiplierNonneg terms.haircuts.highest_nonneg))

variable [Rounding] {grain : Rat} [Rounding.Lawful grain] {fewer more balance balance' : Decimal}

/-- Adding cash to a domestic balance of moderate size is rounded by little. -/
private theorem balance_close (par : terms.AtPar) (fine : grain ≤ 1 / 10 ^ 28) {cash : Decimal}
    (cashLe : book.gross terms.spot terms.domestic + |cash.toRat| ≤ 10 ^ 14)
    (added : (book.balance terms.domestic).add cash = .ok balance) :
    |balance.toRat - ((book.balance terms.domestic).toRat + cash.toRat)| ≤ 1 / 10 ^ 13 := by
  have grossNonneg := book.gross_nonneg terms.spot terms.domestic
  calc |balance.toRat - ((book.balance terms.domestic).toRat + cash.toRat)|
      ≤ grain * (1 + book.gross terms.spot terms.domestic + |cash.toRat|) :=
        balance_near par added
    _ ≤ 1 / 10 ^ 28 * (1 + 10 ^ 14) :=
        mul_le_mul fine (by linarith) (by positivity) (by norm_num)
    _ ≤ 1 / 10 ^ 13 := by norm_num

omit [Rounding] in
private theorem coverCost_le (multiplierNonneg : 0 ≤ terms.multiplier.toRat)
    (factorNonneg : 0 ≤ factor) :
    coverCost terms factor ≤ factor * (terms.multiplier.toRat * terms.haircuts.highest) :=
  mul_le_mul_of_nonneg_left (mul_le_mul_of_nonneg_left
    (Margin.slot_rate_bounds terms).2 multiplierNonneg) factorNonneg

/-- **The exact residual rises between its two slopes**, but for what is flat. -/
theorem exactResidual_sub (par : terms.AtPar) (multiplierNonneg : 0 ≤ terms.multiplier.toRat)
    (factorNonneg : 0 ≤ factor) (fine : grain ≤ 1 / 10 ^ 28)
    (built : Margin.foreign terms book = .ok others)
    (fewerLe : book.gross terms.spot terms.domestic + |fewer.toRat| ≤ 10 ^ 14)
    (moreLe : book.gross terms.spot terms.domestic + |more.toRat| ≤ 10 ^ 14)
    (ordered : fewer.toRat ≤ more.toRat)
    (fewerAdded : (book.balance terms.domestic).add fewer = .ok balance)
    (moreAdded : (book.balance terms.domestic).add more = .ok balance') :
    ascent terms factor * (more.toRat - fewer.toRat) - steepness terms factor * (21 / 10 ^ 7) ≤
        exactResidual terms book others factor more.toRat balance' -
          exactResidual terms book others factor fewer.toRat balance ∧
      exactResidual terms book others factor more.toRat balance' -
          exactResidual terms book others factor fewer.toRat balance ≤
        steepness terms factor * (more.toRat - fewer.toRat) +
          steepness terms factor * (21 / 10 ^ 7) := by
  have balances : balance.toRat ≤ balance'.toRat :=
    Rounding.Lawful.fit_mono (add_le_add_right ordered _) (Decimal.add_ok.1 fewerAdded)
      (Decimal.add_ok.1 moreAdded)
  have near : balance'.toRat - balance.toRat ≤ more.toRat - fewer.toRat + 2 / 10 ^ 13 := by
    obtain ⟨below, -⟩ := abs_le.1 (balance_close par fine fewerLe fewerAdded)
    obtain ⟨-, above⟩ := abs_le.1 (balance_close par fine moreLe moreAdded)
    linarith
  have costLe := coverCost_le multiplierNonneg factorNonneg
  have costNonneg := coverCost_nonneg multiplierNonneg factorNonneg
  have savingNonneg := costNonneg.trans costLe
  have cost := mul_le_mul_of_nonneg_left
    (Margin.exactAt_le_rate multiplierNonneg built balances) factorNonneg
  have saving := mul_le_mul_of_nonneg_left
    (Margin.exactAt_ge_highest multiplierNonneg built balances) factorNonneg
  rw [mul_add, ← mul_assoc] at cost saving
  rw [← coverCost] at cost
  have costs := mul_le_mul_of_nonneg_left near costNonneg
  have savings := mul_le_mul_of_nonneg_left near savingNonneg
  unfold exactResidual ascent steepness
  constructor <;> linarith

/-- An exact residual is at most what all balances and the cash come to, at the steeper slope. -/
theorem abs_exactResidual_le (par : terms.AtPar) (multiplierNonneg : 0 ≤ terms.multiplier.toRat)
    (factorNonneg : 0 ≤ factor) (fine : grain ≤ 1 / 10 ^ 28)
    (built : Margin.foreign terms book = .ok others) {cash : Decimal}
    (cashLe : book.gross terms.spot terms.domestic + |cash.toRat| ≤ 10 ^ 14)
    (added : (book.balance terms.domestic).add cash = .ok balance)
    (exactNonneg : 0 ≤ Margin.exactAt terms others balance) :
    |exactResidual terms book others factor cash.toRat balance| ≤
      steepness terms factor *
        (2 * book.gross terms.spot terms.domestic + |cash.toRat| + 1) := by
  have grossNonneg := book.gross_nonneg terms.spot terms.domestic
  have cashNonneg := abs_nonneg cash.toRat
  have savingNonneg : 0 ≤ factor * (terms.multiplier.toRat * terms.haircuts.highest) :=
    (coverCost_nonneg multiplierNonneg factorNonneg).trans
      (coverCost_le multiplierNonneg factorNonneg)
  have balanceLe : |balance.toRat| ≤
      book.gross terms.spot terms.domestic + |cash.toRat| + 1 / 10 ^ 13 := by
    have parts := abs_add_le (balance.toRat - ((book.balance terms.domestic).toRat + cash.toRat))
      ((book.balance terms.domestic).toRat + cash.toRat)
    rw [sub_add_cancel] at parts
    linarith [balance_close par fine cashLe added, Margin.abs_balance_le_gross par book,
      abs_add_le (book.balance terms.domestic).toRat cash.toRat]
  have required : factor * Margin.exactAt terms others balance ≤
      factor * (terms.multiplier.toRat * terms.haircuts.highest) *
        (2 * book.gross terms.spot terms.domestic + |cash.toRat| + 1) := by
    have top := mul_le_mul_of_nonneg_left
      (Margin.exactAt_le_top multiplierNonneg built balance) factorNonneg
    rw [← mul_assoc] at top
    exact top.trans (mul_le_mul_of_nonneg_left (by linarith) savingNonneg)
  have requiredNonneg := mul_nonneg factorNonneg exactNonneg
  have worth := abs_add_le (book.worth terms.spot terms.domestic) cash.toRat
  have parts := abs_sub (book.worth terms.spot terms.domestic + cash.toRat)
    (factor * Margin.exactAt terms others balance)
  rw [abs_of_nonneg requiredNonneg] at parts
  unfold exactResidual steepness
  linarith [book.abs_worth_le_gross terms.spot terms.domestic]

end Slopes

end Deposit

end Collateral

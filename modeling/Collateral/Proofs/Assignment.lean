import Collateral.Proofs.Greedy
import Mathlib.Algebra.BigOperators.Ring.List
import Mathlib.Data.List.Perm.Basic
import Mathlib.Order.Bounds.Basic

/-!
Contract: the cheapest way to cover debts from collateral.

Any source may cover a part of any debt, at the rate of the source. A way to cover debts is free to
serve them in parts and from several sources at once, as long as it covers as much as both sides
allow. The greedy way uses sources in order of rising rates, and no other way costs less.

The proof puts a price on the last unit of debt that is covered. What a source is worth more than its
rate at this price is its surplus. No way of covering can save more than all surpluses, and the greedy
way saves exactly these.

Owns: ways of covering, their cost, and the greedy cost as the least of them.

Does not own: books, and the walk that computes the greedy cost.
-/

namespace Collateral.Netting

/-! ## Ways of covering -/

/-- Sources of collateral, and the debts that they may cover. -/
structure Sides (α β : Type) where
  sources : List α
  lot : α → Lot
  debts : List β
  size : β → Rat

namespace Sides

variable {α β : Type}

/-- What all sources are worth. -/
def held (sides : Sides α β) : Rat :=
  capacity (sides.sources.map sides.lot)

/-- What all debts come to. -/
def owed (sides : Sides α β) : Rat :=
  (sides.debts.map sides.size).sum

/-- What is taken from a source for all debts. -/
def taken (sides : Sides α β) (part : α → β → Rat) (source : α) : Rat :=
  (sides.debts.map (part source)).sum

/-- A way to cover as much of the debts as both sides allow: of every debt a part from every
source. -/
structure Covers (sides : Sides α β) (part : α → β → Rat) : Prop where
  nonneg : ∀ source ∈ sides.sources, ∀ debt ∈ sides.debts, 0 ≤ part source debt
  taken_le : ∀ source ∈ sides.sources, sides.taken part source ≤ (sides.lot source).worth
  covered_le : ∀ debt ∈ sides.debts,
    (sides.sources.map fun source => part source debt).sum ≤ sides.size debt
  total : (sides.sources.map (sides.taken part)).sum = min sides.held sides.owed

/-- What a way of covering costs: every part at the rate of its source. -/
def cost (sides : Sides α β) (part : α → β → Rat) : Rat :=
  (sides.sources.map fun source =>
    (sides.debts.map fun debt => (sides.lot source).rate * part source debt).sum).sum

theorem cost_eq (sides : Sides α β) (part : α → β → Rat) : sides.cost part =
    (sides.sources.map fun source => (sides.lot source).rate * sides.taken part source).sum := by
  simp only [cost, taken, List.sum_map_mul_left]

end Sides

/-! ## The price of the last unit -/

/-- What lots are worth more than they cost, at a price for what they cover. -/
def surplus (price : Rat) (pool : List Lot) : Rat :=
  (pool.map fun lot => max 0 (price - lot.rate) * lot.worth).sum

@[simp] theorem surplus_cons (price : Rat) (lot : Lot) (pool : List Lot) :
    surplus price (lot :: pool) = max 0 (price - lot.rate) * lot.worth + surplus price pool := by
  simp [surplus]

theorem surplus_perm (price : Rat) {pool pool' : List Lot} (permutation : pool.Perm pool') :
    surplus price pool = surplus price pool' := by
  unfold surplus
  exact (permutation.map _).sum_eq

theorem surplus_eq_zero {price : Rat} {pool : List Lot} (dear : ∀ lot ∈ pool, price ≤ lot.rate) :
    surplus price pool = 0 := by
  apply List.sum_eq_zero
  intro amount member
  obtain ⟨lot, lotMember, rfl⟩ := List.mem_map.1 member
  rw [max_eq_left (sub_nonpos.2 (dear lot lotMember)), zero_mul]

/-- In a pool of rising rates there is a price at which the greedy cost is the price of what is
covered, less all surpluses. -/
theorem exists_price {pool : List Lot} {bottom debt : Rat} (sound : Sound pool)
    (rising : pool.Pairwise fun left right => left.rate ≤ right.rate)
    (bottomed : ∀ lot ∈ pool, bottom ≤ lot.rate) (debtNonneg : 0 ≤ debt) :
    ∃ price, bottom ≤ price ∧
      exactCost pool debt = price * min (capacity pool) debt - surplus price pool := by
  induction pool generalizing bottom debt with
  | nil => exact ⟨bottom, le_rfl, by simp [exactCost, surplus, debtNonneg]⟩
  | cons lot pool inductionHypothesis =>
    obtain ⟨behind, risingBehind⟩ := List.pairwise_cons.1 rising
    have poolNonneg := sound.tail.capacity_nonneg
    rcases le_total debt lot.worth with covered | notCovered
    · -- The front lot covers the debt, and no lot behind it is cheaper.
      refine ⟨lot.rate, bottomed lot List.mem_cons_self, ?_⟩
      rw [exactCost, min_eq_left covered, sub_self, exactCost_zero sound.tail, surplus_cons,
        surplus_eq_zero behind, sub_self, max_self, capacity_cons, min_eq_right (by linarith)]
      ring
    · obtain ⟨price, above, rest⟩ := inductionHypothesis sound.tail risingBehind behind
        (sub_nonneg.2 notCovered)
      refine ⟨price, (bottomed lot List.mem_cons_self).trans above, ?_⟩
      have split : min (capacity (lot :: pool)) debt =
          lot.worth + min (capacity pool) (debt - lot.worth) := by
        rw [capacity_cons, ← min_add_add_left, add_sub_cancel]
      rw [exactCost, min_eq_right notCovered, rest, surplus_cons, split,
        max_eq_right (sub_nonneg.2 above)]
      ring

/-- What is used of lots costs no less than its price, less all surpluses. -/
theorem price_mul_sub_surplus_le {α : Type} (lot : α → Lot) (price : Rat) {use : α → Rat}
    {sources : List α}
    (within : ∀ source ∈ sources, 0 ≤ use source ∧ use source ≤ (lot source).worth) :
    price * (sources.map use).sum - surplus price (sources.map lot) ≤
      (sources.map fun source => (lot source).rate * use source).sum := by
  induction sources with
  | nil => simp [surplus]
  | cons source sources inductionHypothesis =>
    obtain ⟨here, behind⟩ := List.forall_mem_cons.1 within
    have rest := inductionHypothesis behind
    have saved : (price - (lot source).rate) * use source ≤
        max 0 (price - (lot source).rate) * (lot source).worth :=
      mul_le_mul (le_max_right _ _) here.2 here.1 (le_max_left _ _)
    simp only [List.map_cons, List.sum_cons, surplus_cons]
    linarith

/-! ## The greedy way -/

/-- The greedy cost is the cost of using a part of every lot, and what is used is what is covered. -/
theorem exists_use {α : Type} (lot : α → Lot) {order : List α} (distinct : order.Nodup)
    (sound : Sound (order.map lot)) {debt : Rat} (debtNonneg : 0 ≤ debt) :
    ∃ use : α → Rat, (∀ source ∈ order, 0 ≤ use source ∧ use source ≤ (lot source).worth) ∧
      (order.map use).sum = min (capacity (order.map lot)) debt ∧
      (order.map fun source => (lot source).rate * use source).sum =
        exactCost (order.map lot) debt := by
  classical
  induction order generalizing debt with
  | nil => exact ⟨fun _ => 0, by simp, by simp [debtNonneg], rfl⟩
  | cons source order inductionHypothesis =>
    obtain ⟨apart, distinctBehind⟩ := List.nodup_cons.1 distinct
    have poolNonneg := sound.tail.capacity_nonneg
    have worthNonneg : 0 ≤ (lot source).worth := sound.head.2
    obtain ⟨use, within, total, cost⟩ := inductionHypothesis distinctBehind sound.tail
      (sub_nonneg.2 (min_le_left debt (lot source).worth))
    have behind : ∀ other ∈ order,
        Function.update use source (min debt (lot source).worth) other = use other :=
      fun other member =>
        Function.update_of_ne (fun same : other = source => apart (same ▸ member)) _ _
    -- The front source gives what it can, and those behind it what they give to the rest.
    refine ⟨Function.update use source (min debt (lot source).worth), ?_, ?_, ?_⟩
    · intro other member
      rcases List.mem_cons.1 member with rfl | inOrder
      · rw [Function.update_self]
        exact ⟨le_min debtNonneg worthNonneg, min_le_right _ _⟩
      · rw [behind other inOrder]
        exact within other inOrder
    · rw [List.map_cons, List.sum_cons, Function.update_self, List.map_congr_left behind, total,
        List.map_cons, capacity_cons]
      rcases le_total debt (lot source).worth with covered | notCovered
      · rw [min_eq_left covered, sub_self, min_eq_right poolNonneg, add_zero,
          min_eq_right (by linarith)]
      · rw [min_eq_right notCovered, ← min_add_add_left, add_sub_cancel]
    · have costs : ∀ other ∈ order,
          (lot other).rate * Function.update use source (min debt (lot source).worth) other =
            (lot other).rate * use other :=
        fun other member => by rw [behind other member]
      rw [List.map_cons, List.sum_cons, Function.update_self, List.map_congr_left costs, cost]
      rfl

namespace Sides

variable {α β : Type} {sides : Sides α β}

/-- What is used of the sources is spread over the debts by their sizes. -/
def spread (sides : Sides α β) (use : α → Rat) (source : α) (debt : β) : Rat :=
  use source * (sides.size debt / sides.owed)

theorem owed_nonneg (sizes : ∀ debt ∈ sides.debts, 0 ≤ sides.size debt) : 0 ≤ sides.owed := by
  apply List.sum_nonneg
  intro size member
  obtain ⟨debt, debtMember, rfl⟩ := List.mem_map.1 member
  exact sizes debt debtMember

section Spread

variable {use : α → Rat}
  (within : ∀ source ∈ sides.sources, 0 ≤ use source ∧ use source ≤ (sides.lot source).worth)
  (total : (sides.sources.map use).sum = min sides.held sides.owed)

include within total

/-- No source is used where nothing is owed. -/
theorem use_eq_zero (nothing : sides.owed = 0) : ∀ source ∈ sides.sources, use source = 0 := by
  intro source member
  have atMost : use source ≤ (sides.sources.map use).sum := by
    apply List.single_le_sum _ _ (List.mem_map_of_mem member)
    intro amount amountMember
    obtain ⟨other, otherMember, rfl⟩ := List.mem_map.1 amountMember
    exact (within other otherMember).1
  rw [total, nothing] at atMost
  exact le_antisymm (atMost.trans (min_le_right _ _)) (within source member).1

theorem taken_spread :
    ∀ source ∈ sides.sources, sides.taken (sides.spread use) source = use source := by
  intro source member
  have shares : (sides.debts.map fun debt => sides.size debt / sides.owed).sum =
      sides.owed / sides.owed := by
    simp only [div_eq_mul_inv, List.sum_map_mul_right]
    rfl
  have parts : sides.taken (sides.spread use) source =
      (sides.debts.map fun debt => use source * (sides.size debt / sides.owed)).sum := rfl
  rw [parts, List.sum_map_mul_left, shares]
  by_cases nothing : sides.owed = 0
  · rw [use_eq_zero within total nothing source member, zero_mul]
  · rw [div_self nothing, mul_one]

theorem covers_spread (sizes : ∀ debt ∈ sides.debts, 0 ≤ sides.size debt) :
    sides.Covers (sides.spread use) := by
  have owedNonneg := owed_nonneg sizes
  have takenIs := taken_spread within total
  constructor
  · intro source sourceMember debt debtMember
    exact mul_nonneg (within source sourceMember).1 (div_nonneg (sizes debt debtMember) owedNonneg)
  · intro source member
    rw [takenIs source member]
    exact (within source member).2
  · intro debt member
    have size := sizes debt member
    simp only [spread, List.sum_map_mul_right]
    rw [total]
    calc min sides.held sides.owed * (sides.size debt / sides.owed)
        ≤ sides.owed * (sides.size debt / sides.owed) := by
          apply mul_le_mul_of_nonneg_right (min_le_right _ _)
          exact div_nonneg size owedNonneg
      _ ≤ sides.size debt := by
          by_cases nothing : sides.owed = 0
          · rw [nothing, zero_mul]
            exact size
          · rw [mul_div_cancel₀ _ nothing]
  · rw [List.map_congr_left takenIs, total]

end Spread

section Greedy

variable {pool : List Lot} (arranged : pool.Perm (sides.sources.map sides.lot))
  (sound : Sound pool) (sizes : ∀ debt ∈ sides.debts, 0 ≤ sides.size debt)

include arranged

theorem capacity_eq_held : capacity pool = sides.held :=
  (arranged.map Lot.worth).sum_eq

include sound sizes

/-- Some way of covering costs what the greedy one does. -/
theorem exists_covers (distinct : sides.sources.Nodup) :
    ∃ part, sides.Covers part ∧ sides.cost part = exactCost pool sides.owed := by
  -- The sources in the order of the pool.
  have lots : List.Forall₂ (fun lot source => lot = sides.lot source)
      (sides.sources.map sides.lot) sides.sources :=
    List.forall₂_map_left_iff.2 (List.forall₂_same.2 fun _ _ => rfl)
  obtain ⟨order, inOrder, rearranged⟩ := List.perm_comp_forall₂ arranged lots
  obtain rfl : pool = order.map sides.lot := by
    rw [← List.forall₂_eq_eq_eq, List.forall₂_map_right_iff]
    exact inOrder
  obtain ⟨use, within, total, cost⟩ :=
    exists_use sides.lot (rearranged.nodup_iff.2 distinct) sound (owed_nonneg sizes)
  have withinSources : ∀ source ∈ sides.sources,
      0 ≤ use source ∧ use source ≤ (sides.lot source).worth :=
    fun source member => within source (rearranged.mem_iff.2 member)
  have totalSources : (sides.sources.map use).sum = min sides.held sides.owed := by
    rw [← (rearranged.map use).sum_eq, total, capacity_eq_held arranged]
  refine ⟨sides.spread use, covers_spread withinSources totalSources sizes, ?_⟩
  have taken : ∀ source ∈ sides.sources,
      (sides.lot source).rate * sides.taken (sides.spread use) source =
        (sides.lot source).rate * use source := by
    intro source member
    rw [taken_spread withinSources totalSources source member]
  rw [cost_eq, List.map_congr_left taken, ← cost]
  exact (rearranged.map fun source => (sides.lot source).rate * use source).sum_eq.symm

/-- No way of covering costs less than the greedy one. -/
theorem exactCost_le_cost (rising : pool.Pairwise fun left right => left.rate ≤ right.rate)
    {part : α → β → Rat} (covers : sides.Covers part) :
    exactCost pool sides.owed ≤ sides.cost part := by
  obtain ⟨price, -, costIs⟩ := exists_price sound rising (fun lot member => (sound lot member).1)
    (owed_nonneg sizes)
  have within : ∀ source ∈ sides.sources,
      0 ≤ sides.taken part source ∧ sides.taken part source ≤ (sides.lot source).worth := by
    intro source member
    refine ⟨List.sum_nonneg fun amount amountMember => ?_, covers.taken_le source member⟩
    obtain ⟨debt, debtMember, rfl⟩ := List.mem_map.1 amountMember
    exact covers.nonneg source member debt debtMember
  have bound := price_mul_sub_surplus_le sides.lot price within
  rw [covers.total, ← cost_eq, ← surplus_perm price arranged] at bound
  rw [costIs, capacity_eq_held arranged]
  exact bound

/-- **The greedy cost is the least.** -/
theorem exactCost_isLeast (rising : pool.Pairwise fun left right => left.rate ≤ right.rate)
    (distinct : sides.sources.Nodup) :
    IsLeast {cost | ∃ part, sides.Covers part ∧ sides.cost part = cost}
      (exactCost pool sides.owed) := by
  refine ⟨exists_covers arranged sound sizes distinct, ?_⟩
  rintro _ ⟨part, covers, rfl⟩
  exact exactCost_le_cost arranged sound sizes rising covers

end Greedy

end Sides

end Collateral.Netting

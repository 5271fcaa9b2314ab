import Mathlib.Algebra.Order.BigOperators.Group.List
import Mathlib.Algebra.Order.Field.Rat
import Mathlib.Algebra.Order.Group.MinMax
import Mathlib.Tactic.Linarith
import Mathlib.Tactic.Ring

/-!
Contract: the cost of covering debt from a pool, in exact numbers.

The pool is used from the front. What covering costs depends on the debt in total and on the pool,
and moves by no more than the highest rate with either of them. In a pool that is used in order of
rising rates, more of one lot is never a loss, unless it covers debt that had no cover before.

Owns: the exact cost, how it moves with the debt and the pool, and how it moves with one lot.

Does not own: pools of buckets, and rounding.
-/

namespace Collateral.Netting

/-- Collateral in exact numbers: the cost of using a unit of it, and its worth. -/
structure Lot where
  rate : Rat
  worth : Rat

/-- No lot costs or is worth less than nothing. -/
def Sound (pool : List Lot) : Prop :=
  ∀ lot ∈ pool, 0 ≤ lot.rate ∧ 0 ≤ lot.worth

/-- What a pool can cover. -/
def capacity (pool : List Lot) : Rat :=
  (pool.map Lot.worth).sum

/-- The cost of covering debt from the front of a pool, as far as the pool reaches. -/
def exactCost : List Lot → (debt : Rat) → Rat
  | [], _ => 0
  | lot :: pool, debt =>
    lot.rate * min debt lot.worth + exactCost pool (debt - min debt lot.worth)

section Pool

variable {lot : Lot} {pool : List Lot} {debt more top : Rat}

@[simp] theorem capacity_nil : capacity [] = 0 := rfl

@[simp] theorem capacity_cons (lot : Lot) (pool : List Lot) :
    capacity (lot :: pool) = lot.worth + capacity pool := by
  simp [capacity]

@[simp] theorem capacity_append (front back : List Lot) :
    capacity (front ++ back) = capacity front + capacity back := by
  simp [capacity]

theorem Sound.head (sound : Sound (lot :: pool)) : 0 ≤ lot.rate ∧ 0 ≤ lot.worth :=
  sound lot List.mem_cons_self

theorem Sound.tail (sound : Sound (lot :: pool)) : Sound pool :=
  fun other member => sound other (List.mem_cons_of_mem lot member)

theorem Sound.capacity_nonneg (sound : Sound pool) : 0 ≤ capacity pool := by
  apply List.sum_nonneg
  intro worth member
  obtain ⟨lot, lotMember, rfl⟩ := List.mem_map.1 member
  exact (sound lot lotMember).2

/-! ## The cost as a function of the debt -/

/-- More debt leaves no less of it behind a lot. -/
private theorem rest_mono (worth : Rat) (ordered : debt ≤ more) :
    debt - min debt worth ≤ more - min more worth := by
  rcases le_total debt worth with covered | notCovered
  · rw [min_eq_left covered]
    linarith [min_le_left more worth]
  · rw [min_eq_right notCovered, min_eq_right (notCovered.trans ordered)]
    linarith

theorem exactCost_zero (sound : Sound pool) : exactCost pool 0 = 0 := by
  induction pool with
  | nil => rfl
  | cons lot pool inductionHypothesis =>
    rw [exactCost, min_eq_left sound.head.2, sub_zero, inductionHypothesis sound.tail]
    ring

/-- More debt costs no less, and at most the highest rate on what is added. -/
theorem exactCost_debt_le (sound : Sound pool) (topped : ∀ lot ∈ pool, lot.rate ≤ top)
    (topNonneg : 0 ≤ top) (ordered : debt ≤ more) :
    exactCost pool debt ≤ exactCost pool more ∧
      exactCost pool more ≤ exactCost pool debt + top * (more - debt) := by
  induction pool generalizing debt more with
  | nil =>
    have added : 0 ≤ top * (more - debt) := mul_nonneg topNonneg (by linarith)
    simpa [exactCost] using added
  | cons lot pool inductionHypothesis =>
    have used : min debt lot.worth ≤ min more lot.worth := min_le_min_right _ ordered
    have rest := inductionHypothesis sound.tail
      (fun other member => topped other (List.mem_cons_of_mem lot member))
      (rest_mono lot.worth ordered)
    have here : lot.rate * min debt lot.worth ≤ lot.rate * min more lot.worth :=
      mul_le_mul_of_nonneg_left used sound.head.1
    have hereTop : lot.rate * (min more lot.worth - min debt lot.worth) ≤
        top * (min more lot.worth - min debt lot.worth) :=
      mul_le_mul_of_nonneg_right (topped lot List.mem_cons_self) (by linarith)
    simp only [exactCost]
    constructor <;> linarith

theorem exactCost_nonneg (sound : Sound pool) (debtNonneg : 0 ≤ debt) :
    0 ≤ exactCost pool debt := by
  induction pool generalizing debt with
  | nil => exact le_rfl
  | cons lot pool inductionHypothesis =>
    have used : 0 ≤ min debt lot.worth := le_min debtNonneg sound.head.2
    exact add_nonneg (mul_nonneg sound.head.1 used)
      (inductionHypothesis sound.tail (by linarith [min_le_left debt lot.worth]))

/-- Debt beyond what the pool can cover costs nothing. -/
theorem exactCost_of_capacity_le (sound : Sound pool) (short : capacity pool ≤ debt) :
    exactCost pool debt = (pool.map fun lot => lot.rate * lot.worth).sum := by
  induction pool generalizing debt with
  | nil => rfl
  | cons lot pool inductionHypothesis =>
    have behind := sound.tail.capacity_nonneg
    rw [capacity_cons] at short
    rw [exactCost, min_eq_right (by linarith), inductionHypothesis sound.tail (by linarith),
      List.map_cons, List.sum_cons]

/-- A lot that is worth nothing does not count. -/
theorem exactCost_cons_of_worthless (worthless : lot.worth = 0) (debtNonneg : 0 ≤ debt) :
    exactCost (lot :: pool) debt = exactCost pool debt := by
  rw [exactCost, worthless, min_eq_right debtNonneg, mul_zero, zero_add, sub_zero]

theorem exactCost_append_worthless {front back : List Lot} (worthless : lot.worth = 0)
    (debtNonneg : 0 ≤ debt) :
    exactCost (front ++ lot :: back) debt = exactCost (front ++ back) debt := by
  induction front generalizing debt with
  | nil => exact exactCost_cons_of_worthless worthless debtNonneg
  | cons first front inductionHypothesis =>
    simp only [List.cons_append, exactCost]
    rw [inductionHypothesis (by linarith [min_le_left debt first.worth])]

/-- A part of the debt may be covered from the front lot first. -/
theorem exactCost_cons_split (part rest : Rat) :
    exactCost (lot :: pool) (part + rest) =
      lot.rate * part + exactCost ({ lot with worth := lot.worth - part } :: pool) rest := by
  have used : min (part + rest) lot.worth = part + min rest (lot.worth - part) := by
    rw [← min_add_add_left, add_sub_cancel]
  simp only [exactCost, used]
  rw [show part + rest - (part + min rest (lot.worth - part)) =
    rest - min rest (lot.worth - part) by ring]
  ring

/-- The cost moves by at most the highest rate on a change of the debt. -/
theorem exactCost_debt_near (sound : Sound pool) (topped : ∀ lot ∈ pool, lot.rate ≤ top)
    (topNonneg : 0 ≤ top) (debt more : Rat) :
    |exactCost pool more - exactCost pool debt| ≤ top * |more - debt| := by
  wlog ordered : debt ≤ more generalizing debt more
  · rw [abs_sub_comm, abs_sub_comm more]
    exact this more debt (by linarith)
  · obtain ⟨less, notMuchMore⟩ := exactCost_debt_le sound topped topNonneg ordered
    rw [abs_of_nonneg (by linarith), abs_of_nonneg (by linarith)]
    linarith

private theorem exactCost_cons_worth_le {rate worth larger : Rat} (rateNonneg : 0 ≤ rate)
    (rateTop : rate ≤ top) (sound : Sound pool) (topped : ∀ lot ∈ pool, lot.rate ≤ top)
    (ordered : worth ≤ larger) :
    |exactCost (⟨rate, larger⟩ :: pool) debt - exactCost (⟨rate, worth⟩ :: pool) debt| ≤
      top * (larger - worth) := by
  have topNonneg : 0 ≤ top := rateNonneg.trans rateTop
  have used : min debt worth ≤ min debt larger := min_le_min_left debt ordered
  have usedMore : min debt larger - min debt worth ≤ larger - worth := by
    rcases le_total debt worth with covered | notCovered
    · rw [min_eq_left covered, min_eq_left (covered.trans ordered)]
      linarith
    · rw [min_eq_right notCovered]
      linarith [min_le_right debt larger]
  obtain ⟨less, notMuchLess⟩ := exactCost_debt_le sound topped topNonneg
    (sub_le_sub_left used debt)
  have here : 0 ≤ rate * (min debt larger - min debt worth) :=
    mul_nonneg rateNonneg (by linarith)
  have hereTop : rate * (min debt larger - min debt worth) ≤
      top * (min debt larger - min debt worth) :=
    mul_le_mul_of_nonneg_right rateTop (by linarith)
  have scaled : top * (min debt larger - min debt worth) ≤ top * (larger - worth) :=
    mul_le_mul_of_nonneg_left usedMore topNonneg
  simp only [exactCost]
  rw [abs_le]
  constructor <;> linarith

/-- The cost moves by at most the highest rate on a change of the front lot. -/
theorem exactCost_cons_worth_near {rate : Rat} (rateNonneg : 0 ≤ rate) (rateTop : rate ≤ top)
    (sound : Sound pool) (topped : ∀ lot ∈ pool, lot.rate ≤ top) (worth larger : Rat) :
    |exactCost (⟨rate, larger⟩ :: pool) debt - exactCost (⟨rate, worth⟩ :: pool) debt| ≤
      top * |larger - worth| := by
  wlog ordered : worth ≤ larger generalizing worth larger
  · rw [abs_sub_comm, abs_sub_comm larger]
    exact this larger worth (by linarith)
  · rw [abs_of_nonneg (sub_nonneg.2 ordered)]
    exact exactCost_cons_worth_le rateNonneg rateTop sound topped ordered

/-- The cost moves by at most the highest rate on a change of any lot. -/
theorem exactCost_append_worth_near {front back : List Lot} {rate : Rat} (rateNonneg : 0 ≤ rate)
    (rateTop : rate ≤ top) (sound : Sound back) (topped : ∀ lot ∈ back, lot.rate ≤ top)
    (worth larger : Rat) :
    |exactCost (front ++ ⟨rate, larger⟩ :: back) debt -
      exactCost (front ++ ⟨rate, worth⟩ :: back) debt| ≤ top * |larger - worth| := by
  induction front generalizing debt with
  | nil => exact exactCost_cons_worth_near rateNonneg rateTop sound topped worth larger
  | cons first front inductionHypothesis =>
    simp only [List.cons_append, exactCost, add_sub_add_left_eq_sub]
    exact inductionHypothesis

/-! ## The cost as a function of one lot -/

/-- What more debt costs at least, where no rate lies below a bound. -/
private theorem exactCost_debt_ge {bottom : Rat} (sound : Sound pool)
    (bottomed : ∀ lot ∈ pool, bottom ≤ lot.rate) (debtNonneg : 0 ≤ debt) (ordered : debt ≤ more) :
    bottom * (min more (capacity pool) - min debt (capacity pool)) ≤
      exactCost pool more - exactCost pool debt := by
  induction pool generalizing debt more with
  | nil =>
    simp [exactCost, min_eq_right debtNonneg, min_eq_right (debtNonneg.trans ordered)]
  | cons lot pool inductionHypothesis =>
    have poolNonneg := sound.tail.capacity_nonneg
    have split : ∀ {debt : Rat}, min debt (lot.worth + capacity pool) =
        min debt lot.worth + min (debt - min debt lot.worth) (capacity pool) := by
      intro debt
      rcases le_total debt lot.worth with covered | notCovered
      · rw [min_eq_left covered, sub_self, min_eq_left poolNonneg, add_zero,
          min_eq_left (by linarith)]
      · rw [min_eq_right notCovered, ← min_add_add_left, add_sub_cancel]
    have used : min debt lot.worth ≤ min more lot.worth := min_le_min_right _ ordered
    have rest := inductionHypothesis sound.tail
      (fun other member => bottomed other (List.mem_cons_of_mem lot member))
      (by linarith [min_le_left debt lot.worth]) (rest_mono lot.worth ordered)
    have here : bottom * (min more lot.worth - min debt lot.worth) ≤
        lot.rate * (min more lot.worth - min debt lot.worth) :=
      mul_le_mul_of_nonneg_right (bottomed lot List.mem_cons_self) (by linarith)
    rw [capacity_cons, split, split]
    simp only [exactCost]
    linarith

/-- More worth in the front lot, in a pool of rising rates. -/
private theorem exactCost_cons_more {rate worth larger : Rat} (rateNonneg : 0 ≤ rate)
    (sound : Sound pool) (bottomed : ∀ lot ∈ pool, rate ≤ lot.rate) (ordered : worth ≤ larger) :
    exactCost (⟨rate, larger⟩ :: pool) debt ≤ exactCost (⟨rate, worth⟩ :: pool) debt +
      rate * min (larger - worth) (max 0 (debt - (worth + capacity pool))) := by
  have used : min debt worth ≤ min debt larger := min_le_min_left debt ordered
  have saved := exactCost_debt_ge sound bottomed
    (by linarith [min_le_left debt larger]) (sub_le_sub_left used debt)
  -- The larger lot takes debt over from the pool behind it, but for what had no cover at all.
  have uncovered : min debt larger - min debt worth -
      (min (debt - min debt worth) (capacity pool) - min (debt - min debt larger) (capacity pool)) ≤
        min (larger - worth) (max 0 (debt - (worth + capacity pool))) := by
    apply le_min
    · have fewer : min (debt - min debt larger) (capacity pool) ≤
          min (debt - min debt worth) (capacity pool) :=
        min_le_min_right _ (sub_le_sub_left used debt)
      have usedMore : min debt larger ≤ min debt worth + (larger - worth) := by
        rw [← min_add_add_right]
        exact min_le_min (by linarith) (by linarith)
      linarith
    · rcases le_total debt worth with covered | notCovered
      · rw [min_eq_left covered, min_eq_left (covered.trans ordered), sub_self, zero_sub]
        exact le_max_of_le_left (by linarith)
      · rw [min_eq_right notCovered]
        rcases le_total (debt - worth) (capacity pool) with reaches | runsOut
        · have reachesStill : debt - min debt larger ≤ capacity pool := by
            linarith [min_eq_right notCovered]
          rw [min_eq_left reaches, min_eq_left reachesStill]
          exact le_max_of_le_left (by linarith)
        · rw [min_eq_right runsOut]
          apply le_max_of_le_right
          linarith [min_le_left (debt - min debt larger) (capacity pool)]
  have scaled := mul_le_mul_of_nonneg_left uncovered rateNonneg
  simp only [exactCost]
  linarith

/-- **More of one lot is never a loss where debt is covered.** In a pool that rises behind the lot,
it costs at most its own rate on the debt that had no cover before. -/
theorem exactCost_more {front back : List Lot} {rate worth larger : Rat}
    (sound : Sound (front ++ ⟨rate, worth⟩ :: back)) (bottomed : ∀ lot ∈ back, rate ≤ lot.rate)
    (ordered : worth ≤ larger) :
    exactCost (front ++ ⟨rate, larger⟩ :: back) debt ≤
      exactCost (front ++ ⟨rate, worth⟩ :: back) debt + rate * min (larger - worth)
        (max 0 (debt - capacity (front ++ ⟨rate, worth⟩ :: back))) := by
  induction front generalizing debt with
  | nil =>
    exact exactCost_cons_more sound.head.1 sound.tail bottomed ordered
  | cons lot front inductionHypothesis =>
    -- The front lot covers the same part of the debt in both pools.
    have rest := @inductionHypothesis (debt - min debt lot.worth) sound.tail
    have rateNonneg : 0 ≤ rate := (sound ⟨rate, worth⟩ (by simp)).1
    have soundRest : Sound (front ++ ⟨rate, worth⟩ :: back) := sound.tail
    have capacityNonneg := soundRest.capacity_nonneg
    have uncovered : max 0 (debt - min debt lot.worth -
        capacity (front ++ ⟨rate, worth⟩ :: back)) ≤
          max 0 (debt - capacity (lot :: (front ++ ⟨rate, worth⟩ :: back))) := by
      rw [capacity_cons]
      rcases le_total debt lot.worth with covered | notCovered
      · rw [min_eq_left covered, sub_self, zero_sub, max_eq_left (by linarith)]
        exact le_max_left _ _
      · rw [min_eq_right notCovered, sub_sub]
    have scaled := mul_le_mul_of_nonneg_left (min_le_min_left (larger - worth) uncovered) rateNonneg
    simp only [List.cons_append, exactCost]
    linarith

end Pool

end Collateral.Netting

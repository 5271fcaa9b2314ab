import Collateral.Proofs.ServingOrder

/-!
Contract: the exact charge as the domestic balance moves.

One bucket among others may be collateral, a debt or neither, depending on its worth. As its worth
rises the charge does not, except by the bucket's own rate on debt that had no cover before.

Owns: the charge as a function of the worth of one bucket.
-/

namespace Collateral.Netting

/-! ## One bucket among others -/

theorem owed_perm {left right : List Bucket} (permutation : left.Perm right) :
    owed left = owed right :=
  (permutation.map _).sum_eq

/-- The worth of all buckets together. -/
def net (buckets : List Bucket) : Rat :=
  (buckets.map fun bucket => bucket.value.toRat).sum

/-- What the debts among buckets come to. -/
theorem owed_debts (buckets : List Bucket) : owed (debts buckets) =
    ((buckets.filter fun bucket => bucket.value < 0).map fun bucket => -bucket.value.toRat).sum := by
  rw [debts, owed_perm (sortBy_perm larger _), owed, List.map_map]
  simp [Function.comp_def]

/-- What the collateral among buckets comes to. -/
theorem capacity_collateral (buckets : List Bucket) :
    capacity ((collateral buckets).map Bucket.lot) =
      ((buckets.filter fun bucket => 0 < bucket.value).map fun bucket => bucket.value.toRat).sum := by
  rw [capacity, List.map_map]
  exact ((sortBy_perm cheaper _).map _).sum_eq

/-- The collateral is worth more than the debts by what all buckets are worth. -/
theorem capacity_sub_owed (buckets : List Bucket) :
    capacity ((collateral buckets).map Bucket.lot) - owed (debts buckets) = net buckets := by
  rw [capacity_collateral, owed_debts, net]
  induction buckets with
  | nil => simp
  | cons bucket buckets inductionHypothesis =>
    rw [List.map_cons, List.sum_cons, ← inductionHypothesis]
    simp only [List.filter_cons, Decimal.lt_iff, Decimal.toRat_zero]
    rcases lt_trichotomy bucket.value.toRat 0 with negative | zero | positive
    · simp [negative, not_lt.2 negative.le]
      ring
    · simp [zero]
    · simp [positive, not_lt.2 positive.le]
      ring

/-- Collateral and debts come to what all buckets do, whatever their sign. -/
theorem capacity_add_owed (buckets : List Bucket) :
    capacity ((collateral buckets).map Bucket.lot) + owed (debts buckets) =
      (buckets.map fun bucket => |bucket.value.toRat|).sum := by
  rw [capacity_collateral, owed_debts]
  induction buckets with
  | nil => simp
  | cons bucket buckets inductionHypothesis =>
    rw [List.map_cons, List.sum_cons, ← inductionHypothesis]
    simp only [List.filter_cons, Decimal.lt_iff, Decimal.toRat_zero]
    rcases lt_trichotomy bucket.value.toRat 0 with negative | zero | positive
    · simp [negative, not_lt.2 negative.le, abs_of_neg negative]
      ring
    · simp [zero]
    · simp [positive, not_lt.2 positive.le, abs_of_pos positive]
      ring

/-- The pool of others with a bucket put in its place, the bucket's worth left open. -/
def poolWith (slot : Bucket) (others : List Bucket) (worth : Rat) : List Lot :=
  ((collateral others).takeWhile fun other => !cheaper slot other).map Bucket.lot ++
    ⟨slot.rate.toRat, worth⟩ ::
      ((collateral others).dropWhile fun other => !cheaper slot other).map Bucket.lot

/-- The charge of a bucket among others, with the bucket's worth left open. -/
def level (slot : Bucket) (others : List Bucket) (worth : Rat) : Rat :=
  exactCost (poolWith slot others (max worth 0)) (owed (debts others) + max (-worth) 0)

section Slot

variable {slot : Bucket} {others : List Bucket} {top peak : Rat}

/-- The charge of a bucket among others. -/
theorem exactCharge_cons (slot : Bucket) (others : List Bucket) (value : Decimal) :
    exactCharge ({ slot with value } :: others) = level slot others value.toRat := by
  have pool : collateral ({ slot with value } :: others) =
      if 0 < value then insertBy cheaper { slot with value } (collateral others)
      else collateral others := by
    unfold collateral
    rw [List.filter_cons]
    split <;> simp_all [sortBy]
  have debt : owed (debts ({ slot with value } :: others)) =
      owed (debts others) + max (-value.toRat) 0 := by
    unfold debts
    rw [owed_perm (sortBy_perm larger _), owed_perm (sortBy_perm larger _), List.filter_cons]
    simp only [Decimal.lt_iff, Decimal.toRat_zero]
    by_cases negative : value.toRat < 0
    · rw [max_eq_left (by linarith)]
      simp [negative, owed, add_comm]
    · rw [max_eq_right (by linarith)]
      simp [negative]
  rw [exactCharge, level, poolWith, pool, debt]
  simp only [Decimal.lt_iff, Decimal.toRat_zero]
  split
  next positive =>
    rw [insertBy_eq_append, max_eq_left positive.le]
    simp only [List.map_append, List.map_cons]
    rfl
  next notPositive =>
    have debtNonneg : 0 ≤ owed (debts others) + max (-value.toRat) 0 :=
      add_nonneg (owed_debts_nonneg others) (le_max_right _ _)
    rw [max_eq_right (not_lt.1 notPositive), exactCost_append_worthless rfl debtNonneg,
      ← List.map_append, List.takeWhile_append_dropWhile]

/-- Without the bucket the charge is what it is with a worthless one. -/
theorem exactCharge_eq_level (slot : Bucket) (others : List Bucket) :
    exactCharge others = level slot others 0 := by
  rw [level, poolWith, max_self, neg_zero, max_self, add_zero,
    exactCost_append_worthless rfl (owed_debts_nonneg others), ← List.map_append,
    List.takeWhile_append_dropWhile, exactCharge]

/-- The lots behind the slot cost no less than the slot. -/
private theorem le_rate_of_mem_dropWhile (slot : Bucket) (others : List Bucket) :
    ∀ lot ∈ ((collateral others).dropWhile fun other => !cheaper slot other).map Bucket.lot,
      slot.rate.toRat ≤ lot.rate := by
  have sorted : (insertBy cheaper slot (collateral others)).Pairwise
      fun left right => cheaper left right :=
    insertBy_pairwise cheaper_total cheaper_trans (sortBy_pairwise cheaper_total cheaper_trans _)
  rw [insertBy_eq_append] at sorted
  have behind := (List.pairwise_cons.1 (List.pairwise_append.1 sorted).2.1).1
  intro lot member
  obtain ⟨other, otherMember, rfl⟩ := List.mem_map.1 member
  rcases (cheaper_iff _ _).1 (behind other otherMember) with less | ⟨same, -⟩
  · exact less.le
  · exact same.le

private theorem mem_poolWith {worth : Rat} {lot : Lot} (member : lot ∈ poolWith slot others worth) :
    lot = ⟨slot.rate.toRat, worth⟩ ∨ ∃ other ∈ collateral others, other.lot = lot := by
  rcases List.mem_append.1 member with front | behind
  · obtain ⟨other, otherMember, rfl⟩ := List.mem_map.1 front
    exact .inr ⟨other, (List.takeWhile_subset _) otherMember, rfl⟩
  · rcases List.mem_cons.1 behind with same | back
    · exact .inl same
    · obtain ⟨other, otherMember, rfl⟩ := List.mem_map.1 back
      exact .inr ⟨other, (List.dropWhile_subset _) otherMember, rfl⟩

private theorem poolWith_sound {worth : Rat} (slotRate : 0 ≤ slot.rate.toRat)
    (worthNonneg : 0 ≤ worth) (bounded : ∀ bucket ∈ others, Bounded top peak bucket) :
    Sound (poolWith slot others worth) := by
  intro lot member
  rcases mem_poolWith member with rfl | ⟨other, otherMember, rfl⟩
  · exact ⟨slotRate, worthNonneg⟩
  · have within := collateral_within bounded other otherMember
    exact ⟨within.rate_nonneg, within.value_nonneg⟩

private theorem poolWith_topped {worth : Rat}
    (bounded : ∀ bucket ∈ others, Bounded top peak bucket) :
    ∀ lot ∈ poolWith slot others worth, lot.rate ≤ max top slot.rate.toRat := by
  intro lot member
  rcases mem_poolWith member with rfl | ⟨other, otherMember, rfl⟩
  · exact le_max_right _ _
  · exact (collateral_within bounded other otherMember).rate_le.trans (le_max_left _ _)

private theorem capacity_poolWith (slot : Bucket) (others : List Bucket) (worth : Rat) :
    capacity (poolWith slot others worth) =
      capacity ((collateral others).map Bucket.lot) + worth := by
  have parts : capacity ((collateral others).map Bucket.lot) =
      capacity (((collateral others).takeWhile fun other => !cheaper slot other).map Bucket.lot) +
        capacity (((collateral others).dropWhile fun other => !cheaper slot other).map
          Bucket.lot) := by
    rw [← capacity_append, ← List.map_append, List.takeWhile_append_dropWhile]
  rw [poolWith, capacity_append, capacity_cons, parts]
  ring

private theorem sub_max_le {worth more : Rat} (ordered : worth ≤ more) :
    max more 0 - max worth 0 ≤ more - worth := by
  rcases le_total worth 0 with negative | positive
  · rw [max_eq_right negative]
    rcases le_total more 0 with alsoNegative | notNegative
    · rw [max_eq_right alsoNegative]
      linarith
    · rw [max_eq_left notNegative]
      linarith
  · rw [max_eq_left positive, max_eq_left (positive.trans ordered)]

/-- The charge rises with the worth of a bucket by at most the bucket's own rate, on the part of the
worth that covers what all buckets lack together. -/
theorem level_le_min {worth more : Rat} (slotRate : 0 ≤ slot.rate.toRat)
    (bounded : ∀ bucket ∈ others, Bounded top peak bucket) (ordered : worth ≤ more) :
    level slot others more ≤ level slot others worth +
      slot.rate.toRat * min (more - worth) (max 0 (-(net others + worth))) := by
  have sound := poolWith_sound slotRate (le_max_right worth 0) bounded
  have topped : ∀ lot ∈ poolWith slot others (max worth 0), lot.rate ≤ max top slot.rate.toRat :=
    poolWith_topped bounded
  have less : max (-more) 0 ≤ max (-worth) 0 := max_le_max_right 0 (neg_le_neg ordered)
  have lacking : owed (debts others) + max (-more) 0 -
      capacity (poolWith slot others (max worth 0)) ≤ -(net others + worth) := by
    rw [capacity_poolWith, ← capacity_sub_owed]
    linarith [max_zero_sub_eq_self worth, max_comm worth 0, max_comm (-worth) 0]
  calc level slot others more
      ≤ exactCost (poolWith slot others (max worth 0)) (owed (debts others) + max (-more) 0) +
          slot.rate.toRat * min (max more 0 - max worth 0) (max 0
            (owed (debts others) + max (-more) 0 - capacity (poolWith slot others (max worth 0)))) :=
        exactCost_more sound (le_rate_of_mem_dropWhile slot others) (max_le_max_right 0 ordered)
    _ ≤ level slot others worth +
          slot.rate.toRat * min (more - worth) (max 0 (-(net others + worth))) := by
        have debt : exactCost (poolWith slot others (max worth 0))
            (owed (debts others) + max (-more) 0) ≤ level slot others worth :=
          (exactCost_debt_le sound topped (slotRate.trans (le_max_right _ _)) (by linarith)).1
        have rate := mul_le_mul_of_nonneg_left
          (min_le_min (sub_max_le ordered) (max_le_max_left 0 lacking)) slotRate
        linarith

/-- **The charge does not rise with the worth of a bucket where debt is covered.** It rises by at
most the bucket's own rate on what all buckets lack together. -/
theorem level_le {worth more : Rat} (slotRate : 0 ≤ slot.rate.toRat)
    (bounded : ∀ bucket ∈ others, Bounded top peak bucket) (ordered : worth ≤ more) :
    level slot others more ≤
      level slot others worth + slot.rate.toRat * max 0 (-(net others + worth)) := by
  have rate := mul_le_mul_of_nonneg_left
    (min_le_right (more - worth) (max 0 (-(net others + worth)))) slotRate
  linarith [level_le_min slotRate bounded ordered]

/-- The charge rises with the worth of a bucket by at most the bucket's own rate. -/
theorem level_le_rate {worth more : Rat} (slotRate : 0 ≤ slot.rate.toRat)
    (bounded : ∀ bucket ∈ others, Bounded top peak bucket) (ordered : worth ≤ more) :
    level slot others more ≤ level slot others worth + slot.rate.toRat * (more - worth) := by
  have rate := mul_le_mul_of_nonneg_left
    (min_le_left (more - worth) (max 0 (-(net others + worth)))) slotRate
  linarith [level_le_min slotRate bounded ordered]

/-- The charge moves by at most the highest rate with the worth of a bucket. -/
theorem level_near (slotRate : 0 ≤ slot.rate.toRat) (slotTop : slot.rate.toRat ≤ top)
    (bounded : ∀ bucket ∈ others, Bounded top peak bucket) {worth more : Rat}
    (ordered : worth ≤ more) :
    |level slot others more - level slot others worth| ≤ top * (more - worth) := by
  have within := collateral_within bounded
  have behind : ∀ other ∈ (collateral others).dropWhile fun other => !cheaper slot other,
      other.Within top peak := fun other member => within other (List.dropWhile_subset _ member)
  have lots : |level slot others more -
      exactCost (poolWith slot others (max worth 0)) (owed (debts others) + max (-more) 0)| ≤
        top * |max more 0 - max worth 0| :=
    exactCost_append_worth_near slotRate slotTop (sound_of_within behind) (topped_of_within behind)
      _ _
  have debts : |exactCost (poolWith slot others (max worth 0))
      (owed (debts others) + max (-more) 0) - level slot others worth| ≤
        top * |max (-more) 0 - max (-worth) 0| := by
    have near := exactCost_debt_near (poolWith_sound slotRate (le_max_right worth 0) bounded)
      (poolWith_topped bounded) (slotRate.trans (le_max_right top _))
      (owed (debts others) + max (-worth) 0) (owed (debts others) + max (-more) 0)
    rwa [max_eq_left slotTop, add_sub_add_left_eq_sub] at near
  -- Cash that turns a debt into collateral moves one by what it leaves of the other.
  have parts : |max more 0 - max worth 0| + |max (-more) 0 - max (-worth) 0| = more - worth := by
    rw [abs_of_nonneg (sub_nonneg.2 (max_le_max_right 0 ordered)),
      abs_of_nonpos (sub_nonpos.2 (max_le_max_right 0 (neg_le_neg ordered)))]
    linarith [max_zero_sub_eq_self worth, max_zero_sub_eq_self more, max_comm worth 0,
      max_comm (-worth) 0, max_comm more 0, max_comm (-more) 0]
  rw [← parts, mul_add]
  exact (abs_sub_le _ _ _).trans (add_le_add lots debts)

/-- What all debts among buckets come to is a part of what the buckets come to. -/
theorem owed_debts_le (buckets : List Bucket) :
    owed (debts buckets) ≤ (buckets.map fun bucket => |bucket.value.toRat|).sum := by
  rw [owed_debts]
  induction buckets with
  | nil => simp
  | cons bucket buckets inductionHypothesis =>
    rw [List.filter_cons, List.map_cons, List.sum_cons]
    split
    · rw [List.map_cons, List.sum_cons]
      exact add_le_add (neg_le_abs _) inductionHypothesis
    · exact inductionHypothesis.trans (le_add_of_nonneg_left (abs_nonneg _))

/-- The charge is at most the highest rate on all that may be owed. -/
theorem level_le_top (slotRate : 0 ≤ slot.rate.toRat) (slotTop : slot.rate.toRat ≤ top)
    (bounded : ∀ bucket ∈ others, Bounded top peak bucket) (worth : Rat) :
    level slot others worth ≤
      top * ((others.map fun bucket => |bucket.value.toRat|).sum + |worth|) := by
  have sound := poolWith_sound slotRate (le_max_right worth 0) bounded
  have topNonneg : 0 ≤ top := slotRate.trans slotTop
  have debtNonneg : 0 ≤ owed (debts others) + max (-worth) 0 :=
    add_nonneg (owed_debts_nonneg others) (le_max_right _ _)
  have cost := (exactCost_debt_le sound (poolWith_topped bounded)
    (slotRate.trans (le_max_right top _)) debtNonneg).2
  rw [exactCost_zero sound, zero_add, sub_zero, max_eq_left slotTop] at cost
  have debt : owed (debts others) + max (-worth) 0 ≤
      (others.map fun bucket => |bucket.value.toRat|).sum + |worth| :=
    add_le_add (owed_debts_le others) (max_le (neg_le_abs worth) (abs_nonneg worth))
  exact cost.trans (mul_le_mul_of_nonneg_left debt topNonneg)

end Slot

end Collateral.Netting

import Collateral.Proofs.Realized
import Mathlib.Algebra.BigOperators.Ring.List

/-!
Contract: what it changes to hold an amount in several lots.

The target of a pair is shared by all lots of the pair, but each of them is closed against all of
it. Against a target between zero and what is held together, every lot keeps as much of the target
as it has itself. So several lots keep more, and realize less, than one lot of the same amount.

Owns: lots on one side, when they close as one holding, the amounts closed of a pair, and the profit
of a holding before and after it is split.
-/

namespace Collateral.Realization

/-! ## Lots against a common target -/

/-- No two lots lie on different sides. -/
def Alike (lots : List Rat) : Prop :=
  ∀ first ∈ lots, ∀ second ∈ lots, 0 ≤ first * second

instance (lots : List Rat) : Decidable (Alike lots) :=
  inferInstanceAs (Decidable (∀ first ∈ lots, ∀ second ∈ lots, 0 ≤ first * second))

/-- Lots that have to close as one holding: towards the other side or zero, not at all, or because
there is only one of them. -/
def AsWhole (lots : List Rat) (target : Rat) : Prop :=
  lots.sum * target ≤ 0 ∨ |lots.sum| ≤ |target| ∨ lots.countP (· ≠ 0) ≤ 1

instance (lots : List Rat) (target : Rat) : Decidable (AsWhole lots target) :=
  inferInstanceAs (Decidable (_ ∨ _ ∨ _))

theorem shrinkage_neg (held target : Rat) :
    shrinkage (-held) (-target) = -shrinkage held target := by
  unfold shrinkage
  rw [neg_mul_neg, abs_neg, abs_neg]
  split
  · rfl
  · split
    · ring
    · rw [neg_zero]

/-- A lot keeps what it has of its target, and nothing of one on the other side. -/
theorem shrinkage_of_nonneg {held : Rat} (nonneg : 0 ≤ held) (target : Rat) :
    shrinkage held target = held - min held (max target 0) := by
  rcases le_or_gt target 0 with other | positive
  · rw [shrinkage_of_nonpos (mul_nonpos_of_nonneg_of_nonpos nonneg other), max_eq_right other,
      min_eq_right nonneg, sub_zero]
  · rw [max_eq_left positive.le]
    rcases nonneg.eq_or_lt with rfl | held
    · rw [shrinkage_of_nonpos (by simp), min_eq_left positive.le, sub_zero]
    · rw [shrinkage, if_neg (not_le.2 (mul_pos held positive)), abs_of_pos positive,
        abs_of_pos held]
      split
      next smaller => rw [min_eq_right smaller.le]
      next larger => rw [min_eq_left (not_lt.1 larger), sub_self]

section Kept

variable {lots : List Rat} {kept : Rat}

private theorem sum_min_le (lots : List Rat) (kept : Rat) :
    (lots.map (min · kept)).sum ≤ lots.sum := by
  simpa using List.sum_le_sum fun lot (_ : lot ∈ lots) => min_le_left lot kept

/-- Lots keep together no less than one holding would. -/
private theorem min_sum_le (nonneg : ∀ lot ∈ lots, 0 ≤ lot) (keptNonneg : 0 ≤ kept) :
    min lots.sum kept ≤ (lots.map (min · kept)).sum := by
  induction lots with
  | nil => simp
  | cons lot rest inductionHypothesis =>
    have lotNonneg := nonneg lot List.mem_cons_self
    have restKept := inductionHypothesis fun other member =>
      nonneg other (List.mem_cons_of_mem lot member)
    have restNonneg : 0 ≤ rest.sum :=
      List.sum_nonneg fun other member => nonneg other (List.mem_cons_of_mem lot member)
    rw [List.sum_cons, List.map_cons, List.sum_cons]
    grind

private theorem countP_eq_zero_iff (nonneg : ∀ lot ∈ lots, 0 ≤ lot) :
    lots.countP (· ≠ 0) = 0 ↔ lots.sum = 0 := by
  rw [List.countP_eq_zero]
  constructor
  · intro none
    exact List.sum_eq_zero fun lot member => by simpa using none lot member
  · intro nothing lot member
    have lotLe := List.single_le_sum nonneg lot member
    simpa using le_antisymm (nothing ▸ lotLe) (nonneg lot member)

/-- They keep as much only where nothing of the holding has to go, or one lot has it all. -/
private theorem sum_min_eq_iff (nonneg : ∀ lot ∈ lots, 0 ≤ lot) (positive : 0 < kept) :
    (lots.map (min · kept)).sum = min lots.sum kept ↔
      lots.sum ≤ kept ∨ lots.countP (· ≠ 0) ≤ 1 := by
  induction lots with
  | nil => simp [positive.le]
  | cons lot rest inductionHypothesis =>
    have restNonneg : ∀ other ∈ rest, 0 ≤ other :=
      fun other member => nonneg other (List.mem_cons_of_mem lot member)
    rw [List.map_cons, List.sum_cons, List.sum_cons, List.countP_cons]
    rcases (nonneg lot List.mem_cons_self).eq_or_lt with rfl | lotPositive
    · simpa [positive.le] using inductionHypothesis restNonneg
    · -- This lot is not zero, so all of the others have to be.
      have only : rest.countP (· ≠ 0) + 1 ≤ 1 ↔ rest.countP (· ≠ 0) = 0 := by omega
      rw [if_pos (by simpa using lotPositive.ne'), only, countP_eq_zero_iff restNonneg]
      have atLeast := min_sum_le restNonneg positive.le
      have atMost := sum_min_le rest kept
      have sumNonneg : 0 ≤ rest.sum := List.sum_nonneg restNonneg
      constructor
      · intro same
        by_contra short
        obtain ⟨large, others⟩ := not_or.1 short
        have sumPositive : 0 < rest.sum := lt_of_le_of_ne sumNonneg (Ne.symm others)
        rw [min_eq_right (not_le.1 large).le] at same
        have othersKeep : 0 < (rest.map (min · kept)).sum :=
          (lt_min sumPositive positive).trans_le atLeast
        rcases le_or_gt kept lot with larger | smaller
        · rw [min_eq_right larger] at same
          linarith
        · rw [min_eq_left smaller.le] at same
          rcases le_or_gt rest.sum kept with few | many
          · rw [min_eq_left few] at atLeast
            linarith [not_le.1 large]
          · rw [min_eq_right many.le] at atLeast
            linarith
      · rintro (few | nothing)
        · have sumFew : rest.sum ≤ kept := by linarith
          rw [min_eq_left sumFew] at atLeast
          rw [min_eq_left few, min_eq_left (by linarith), le_antisymm atMost atLeast]
        · rw [nothing, min_eq_left positive.le] at atLeast
          rw [nothing] at atMost
          rw [le_antisymm atMost atLeast, nothing, add_zero, add_zero]

end Kept

private theorem sum_shrinkage_of_nonneg {lots : List Rat} (nonneg : ∀ lot ∈ lots, 0 ≤ lot)
    (target : Rat) :
    |(lots.map (shrinkage · target)).sum| ≤ |shrinkage lots.sum target| ∧
      ((lots.map (shrinkage · target)).sum = shrinkage lots.sum target ↔ AsWhole lots target) := by
  have sumNonneg : 0 ≤ lots.sum := List.sum_nonneg nonneg
  have closed : (lots.map (shrinkage · target)).sum =
      lots.sum - (lots.map (min · (max target 0))).sum := by
    have each : ∀ lot ∈ lots, shrinkage lot target + min lot (max target 0) = lot := by
      intro lot member
      rw [shrinkage_of_nonneg (nonneg lot member), sub_add_cancel]
    rw [eq_sub_iff_add_eq, ← List.sum_map_add, List.map_congr_left each, List.map_id']
  rw [closed, shrinkage_of_nonneg sumNonneg]
  constructor
  · have atMost := sum_min_le lots (max target 0)
    have atLeast := min_sum_le nonneg (le_max_right target 0)
    rw [abs_of_nonneg (sub_nonneg.2 atMost),
      abs_of_nonneg (sub_nonneg.2 (min_le_left lots.sum (max target 0)))]
    linarith
  · rw [sub_right_inj]
    unfold AsWhole
    rcases le_or_gt target 0 with other | positive
    · have nothing : (lots.map (min · 0)).sum = 0 := by
        apply List.sum_eq_zero
        intro kept member
        obtain ⟨lot, lotMember, rfl⟩ := List.mem_map.1 member
        exact min_eq_right (nonneg lot lotMember)
      rw [max_eq_right other, nothing, min_eq_right sumNonneg]
      exact ⟨fun _ => .inl (mul_nonpos_of_nonneg_of_nonpos sumNonneg other), fun _ => rfl⟩
    · rw [max_eq_left positive.le, sum_min_eq_iff nonneg positive, abs_of_pos positive,
        abs_of_nonneg sumNonneg]
      refine ⟨.inr, ?_⟩
      rintro (apart | few)
      · exact .inl ((nonpos_of_mul_nonpos_left apart positive).trans positive.le)
      · exact few

theorem Alike.nonneg_or_nonpos {lots : List Rat} (alike : Alike lots) :
    (∀ lot ∈ lots, 0 ≤ lot) ∨ ∀ lot ∈ lots, lot ≤ 0 := by
  by_cases below : ∃ lot ∈ lots, lot < 0
  · obtain ⟨lot, member, negative⟩ := below
    exact .inr fun other otherMember =>
      nonpos_of_mul_nonneg_right (alike lot member other otherMember) negative
  · exact .inl fun lot member => not_lt.1 fun negative => below ⟨lot, member, negative⟩

theorem AsWhole.neg_iff {lots : List Rat} {target : Rat} :
    AsWhole (lots.map (-·)) (-target) ↔ AsWhole lots target := by
  have sums : (lots.map (-·)).sum = -lots.sum := (List.sum_neg lots).symm
  have counts : (lots.map (-·)).countP (· ≠ 0) = lots.countP (· ≠ 0) := by
    rw [List.countP_map]
    congr 1
    funext lot
    simp
  rw [AsWhole, AsWhole, sums, counts, neg_mul_neg, abs_neg, abs_neg]

/-- **Lots on one side shrink together by no more than one holding would**, and by as much only
where they have to close as one. -/
theorem sum_shrinkage {lots : List Rat} (alike : Alike lots) (target : Rat) :
    |(lots.map (shrinkage · target)).sum| ≤ |shrinkage lots.sum target| ∧
      ((lots.map (shrinkage · target)).sum = shrinkage lots.sum target ↔ AsWhole lots target) := by
  rcases alike.nonneg_or_nonpos with nonneg | nonpos
  · exact sum_shrinkage_of_nonneg nonneg target
  · -- Short lots are long ones seen from the other side.
    have negated : ∀ lot ∈ lots.map (-·), 0 ≤ lot := by
      intro lot member
      obtain ⟨other, otherMember, rfl⟩ := List.mem_map.1 member
      exact neg_nonneg.2 (nonpos other otherMember)
    have closed : ((lots.map (-·)).map (shrinkage · (-target))).sum =
        -(lots.map (shrinkage · target)).sum := by
      rw [List.map_map, List.sum_neg, List.map_map]
      congr 2
      funext lot
      exact shrinkage_neg lot target
    have mirrored := sum_shrinkage_of_nonneg negated (-target)
    rwa [closed, ← List.sum_neg, shrinkage_neg, abs_neg, abs_neg, neg_inj, AsWhole.neg_iff]
      at mirrored

/-! ## What is closed of a pair -/

/-- The exact amounts of the lots of a pair. -/
def lotsOf (held : List FxPosition) (pair : FxPair) : List Rat :=
  (held.filter (·.pair = pair)).map (·.amount.toRat)

/-- The amounts by which the held lots of a pair are closed. -/
def closings [Rounding] (held proposed : List FxPosition) (pair : FxPair) :
    Except Decimal.Error (List Decimal) := do
  let targets ← targets proposed
  (held.filter (·.pair = pair)).mapM fun position =>
    closed position.amount ((targets.get? position.pair).getD 0)

theorem closings_refines {strict actual : Rounding} (stricter : strict.Stricter actual)
    (held proposed : List FxPosition) (pair : FxPair) :
    Outcome.Refines (@closings strict held proposed pair) (@closings actual held proposed pair) :=
  (targets_refines stricter proposed).bind fun _ =>
    .mapM (fun _ => closed_refines stricter _ _) _

/-- What realizes a profit closes every lot by some amount. -/
theorem exists_closings [Rounding] {held proposed : List FxPosition} {domestic : Currency}
    {spot : Quotes} {realized : Decimal} (ran : profit held proposed domestic spot = .ok realized)
    (pair : FxPair) : ∃ amounts, closings held proposed pair = .ok amounts := by
  obtain ⟨table, found, rounds⟩ := Outcome.bind_ok.1 ran
  obtain ⟨amounts, closedAll⟩ : ∃ amounts, (held.filter (·.pair = pair)).mapM
      (fun position => closed position.amount ((table.get? position.pair).getD 0)) =
        .ok amounts := by
    apply Outcome.exists_mapM_ok
    intro position member
    obtain ⟨before, after, done⟩ := Outcome.exists_of_mem_foldlM rounds (List.mem_filter.1 member).1
    obtain ⟨amount, closedOne, -⟩ := Outcome.bind_ok.1 done
    exact ⟨amount, Outcome.liftArithmetic_ok.1 closedOne⟩
  exact ⟨amounts, Outcome.bind_ok.2 ⟨table, Outcome.liftArithmetic_ok.1 found, closedAll⟩⟩

/-- Every lot of a pair is closed by as much as it shrinks towards the target of the pair. -/
theorem closings_ok [Rounding] [Rounding.Lawful 0] {held proposed : List FxPosition}
    {pair : FxPair} {amounts : List Decimal} (done : closings held proposed pair = .ok amounts) :
    amounts.map Decimal.toRat =
      (lotsOf held pair).map (shrinkage · (amountIn proposed pair)) := by
  obtain ⟨table, found, closedAll⟩ := Outcome.bind_ok.1 done
  have closings : amounts.map Decimal.toRat = (held.filter (·.pair = pair)).map fun position =>
      shrinkage position.amount.toRat (amountIn proposed position.pair) := by
    apply Outcome.map_of_mapM _ closedAll
    intro position amount closedOne
    rw [closed_ok closedOne, targets_ok found]
  rw [closings, lotsOf, List.map_map]
  apply List.map_congr_left
  intro position member
  have same : position.pair = pair := of_decide_eq_true (List.mem_filter.1 member).2
  rw [same]
  rfl

/-- Lots of a pair on one side are closed together by no more than their sum would be. -/
theorem sum_closings {held proposed : List FxPosition} {domestic : Currency} {spot : Quotes}
    {pair : FxPair} (alike : Alike (lotsOf held pair))
    (exactRun : Rounding.Lossless fun _ => profit held proposed domestic spot) :
    ∃ amounts, closings held proposed pair = .ok amounts ∧
      |(amounts.map Decimal.toRat).sum| ≤
        |shrinkage (amountIn held pair) (amountIn proposed pair)| ∧
      ((amounts.map Decimal.toRat).sum =
          shrinkage (amountIn held pair) (amountIn proposed pair) ↔
        AsWhole (lotsOf held pair) (amountIn proposed pair)) := by
  obtain ⟨realized', exactly⟩ := exactRun
  obtain ⟨amounts, closed⟩ := @exists_closings Rounding.exact _ _ _ _ _ exactly pair
  refine ⟨amounts, closings_refines Rounding.exact_stricter _ _ _ _ closed, ?_⟩
  have amountsAre := @closings_ok Rounding.exact _ _ _ _ _ closed
  rw [amountsAre]
  exact sum_shrinkage alike (amountIn proposed pair)

/-! ## Splitting a lot -/

/-- Lots of the pair and price of a whole, on its side, that add up to it. -/
structure Splits (whole : FxPosition) (parts : List FxPosition) : Prop where
  same : ∀ part ∈ parts, part.pair = whole.pair ∧ part.price = whole.price
  alike : Alike (parts.map (·.amount.toRat))
  sum_eq : (parts.map (·.amount.toRat)).sum = whole.amount.toRat

instance (whole : FxPosition) (parts : List FxPosition) : Decidable (Splits whole parts) :=
  decidable_of_iff (_ ∧ _ ∧ _) ⟨fun ⟨same, alike, sum⟩ => ⟨same, alike, sum⟩,
    fun splits => ⟨splits.same, splits.alike, splits.sum_eq⟩⟩

theorem Splits.gain_eq {whole : FxPosition} {parts : List FxPosition} (splits : Splits whole parts)
    (spot : Quotes) (domestic : Currency) (target : FxPair → Rat) :
    gain spot domestic target parts =
      ((parts.map (·.amount.toRat)).map (shrinkage · (target whole.pair))).sum *
        unitGain spot domestic whole := by
  rw [List.map_map, ← List.sum_map_mul_right, gain]
  congr 1
  apply List.map_congr_left
  intro part member
  obtain ⟨pair, price⟩ := splits.same part member
  rw [pair, unitGain, unitGain, pair, price]
  rfl

/-- A holding realizes the same before and after it is split if its parts have to close as one, or a
unit of it gains nothing. -/
theorem profit_eq_iff_of_splits {front parts back proposed : List FxPosition} {whole : FxPosition}
    {domestic : Currency} {spot : Quotes} {split joined : Decimal} (splits : Splits whole parts)
    (splitRan : profit (front ++ parts ++ back) proposed domestic spot = .ok split)
    (splitExact : Rounding.Lossless fun _ => profit (front ++ parts ++ back) proposed domestic spot)
    (joinedRan : profit (front ++ whole :: back) proposed domestic spot = .ok joined)
    (joinedExact : Rounding.Lossless fun _ =>
      profit (front ++ whole :: back) proposed domestic spot) :
    split = joined ↔
      AsWhole (parts.map (·.amount.toRat)) (amountIn proposed whole.pair) ∨
        unitGain spot domestic whole = 0 := by
  have splitIs := profit_of_lossless splitRan splitExact
  have joinedIs := profit_of_lossless joinedRan joinedExact
  rw [gain_append, gain_append, splits.gain_eq] at splitIs
  rw [gain_append, gain_cons] at joinedIs
  rw [← Decimal.toRat_inj, splitIs, joinedIs, ← (sum_shrinkage splits.alike _).2, splits.sum_eq,
    ← sub_eq_zero, ← sub_eq_zero (b := shrinkage _ _), ← mul_eq_zero]
  ring_nf

/-- **Lots are closed as one holding exactly if they have to be.** What is closed of the lots of a
pair on one side is never more than their sum shrinks by; it is as much, and splitting a lot leaves
the profit as it is, only if the target lies on the other side or at zero, or is no smaller than the
holding, or there is just one lot, or the unit gain is zero. -/
theorem closings_eq_iff_asWhole {held proposed : List FxPosition} {domestic : Currency}
    {spot : Quotes} {pair : FxPair} {realized : Decimal} (alike : Alike (lotsOf held pair))
    (ran : profit held proposed domestic spot = .ok realized)
    (exactRun : Rounding.Lossless fun _ => profit held proposed domestic spot) :
    (∃ amounts, closings held proposed pair = .ok amounts ∧
      |(amounts.map Decimal.toRat).sum| ≤
        |shrinkage (amountIn held pair) (amountIn proposed pair)| ∧
      ((amounts.map Decimal.toRat).sum =
          shrinkage (amountIn held pair) (amountIn proposed pair) ↔
        AsWhole (lotsOf held pair) (amountIn proposed pair))) ∧
    ∀ front parts back whole joined, held = front ++ parts ++ back → Splits whole parts →
      profit (front ++ whole :: back) proposed domestic spot = .ok joined →
      (Rounding.Lossless fun _ => profit (front ++ whole :: back) proposed domestic spot) →
      (realized = joined ↔
        AsWhole (parts.map (·.amount.toRat)) (amountIn proposed whole.pair) ∨
          unitGain spot domestic whole = 0) := by
  refine ⟨sum_closings alike exactRun, ?_⟩
  rintro front parts back whole joined rfl splits joinedRan joinedExact
  exact profit_eq_iff_of_splits splits ran exactRun joinedRan joinedExact

/-! ## A thousand euros in two lots -/

open Projection (tenths whole)

private def dearEuro : Quotes :=
  Spot.quotes ⟨⟨"USD"⟩, Table.ofList [(⟨⟨"EUR"⟩, ⟨"USD"⟩⟩, (tenths 12).value),
    (⟨⟨"GBP"⟩, ⟨"USD"⟩⟩, 2)]⟩

private def twoEuroLots : List FxPosition :=
  [inDollars "EUR" (whole 600) 11, inDollars "EUR" (whole 400) 11]

private def oneEuroLot : FxPosition := inDollars "EUR" (whole 1000) 11

private def poundLot : FxPosition := inDollars "GBP" (whole 500) 19

private def keepEuros (amount : UInt64) : List FxPosition := [inDollars "EUR" (whole amount) 12]

/-- Each lot is smaller than the seven hundred euros that stay, so of the lots nothing is closed; of
one holding three hundred are. Both runs close the pounds. -/
theorem closings_eq_iff_asWhole_sevenHundred :
    profit (poundLot :: twoEuroLots) (keepEuros 700) ⟨"USD"⟩ dearEuro = .ok (whole 50) ∧
      profit [poundLot, oneEuroLot] (keepEuros 700) ⟨"USD"⟩ dearEuro = .ok (whole 80) ∧
      (∃ amounts, closings (poundLot :: twoEuroLots) (keepEuros 700) ⟨⟨"EUR"⟩, ⟨"USD"⟩⟩ =
          .ok amounts ∧
        |(amounts.map Decimal.toRat).sum| ≤ 300 ∧ (amounts.map Decimal.toRat).sum ≠ 300) ∧
      whole 50 ≠ whole 80 := by
  have ran : profit (poundLot :: twoEuroLots) (keepEuros 700) ⟨"USD"⟩ dearEuro =
      .ok (whole 50) := by decide +kernel
  have joinedRan : profit [poundLot, oneEuroLot] (keepEuros 700) ⟨"USD"⟩ dearEuro =
      .ok (whole 80) := by decide +kernel
  have alike : Alike (lotsOf (poundLot :: twoEuroLots) ⟨⟨"EUR"⟩, ⟨"USD"⟩⟩) := by decide +kernel
  obtain ⟨⟨amounts, closedAll, most, same⟩, splitting⟩ :=
    closings_eq_iff_asWhole alike ran (by decide +kernel)
  have shrinks : shrinkage (amountIn (poundLot :: twoEuroLots) ⟨⟨"EUR"⟩, ⟨"USD"⟩⟩)
      (amountIn (keepEuros 700) ⟨⟨"EUR"⟩, ⟨"USD"⟩⟩) = 300 := by decide +kernel
  rw [shrinks] at most same
  rw [abs_of_pos (by norm_num : (0 : Rat) < 300)] at most
  have apart := splitting [poundLot] twoEuroLots [] oneEuroLot (whole 80) rfl (by decide +kernel)
    joinedRan (by decide +kernel)
  exact ⟨ran, joinedRan, ⟨amounts, closedAll, most, fun equal =>
    absurd (same.1 equal) (by decide +kernel)⟩, fun equal =>
    absurd (apart.1 equal) (by decide +kernel)⟩

/-- Of two lots that should shrink by six hundred euros together, two hundred are closed. In one lot
they realize three times as much. -/
theorem closings_fall_short :
    Alike (lotsOf twoEuroLots ⟨⟨"EUR"⟩, ⟨"USD"⟩⟩) ∧ Splits oneEuroLot twoEuroLots ∧
      (Rounding.Lossless fun _ => profit twoEuroLots (keepEuros 400) ⟨"USD"⟩ dearEuro) ∧
      (Rounding.Lossless fun _ => profit [oneEuroLot] (keepEuros 400) ⟨"USD"⟩ dearEuro) ∧
      shrinkage (amountIn twoEuroLots ⟨⟨"EUR"⟩, ⟨"USD"⟩⟩)
        (amountIn (keepEuros 400) ⟨⟨"EUR"⟩, ⟨"USD"⟩⟩) = 600 ∧
      closings twoEuroLots (keepEuros 400) ⟨⟨"EUR"⟩, ⟨"USD"⟩⟩ = .ok [whole 200, 0] ∧
      ([whole 200, 0].map Decimal.toRat).sum ≠ 600 ∧
      profit twoEuroLots (keepEuros 400) ⟨"USD"⟩ dearEuro = .ok (whole 20) ∧
      profit [oneEuroLot] (keepEuros 400) ⟨"USD"⟩ dearEuro = .ok (whole 60) := by
  decide +kernel

end Collateral.Realization

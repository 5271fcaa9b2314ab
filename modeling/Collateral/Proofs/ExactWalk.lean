import Collateral.Proofs.Headroom
import Collateral.Proofs.Timeline

/-!
Contract: how far the margin of a book lies from the same walk in exact numbers.

The exact walk serves the debts one after the other from the collateral that those before them left.
The computed walk may draw otherwise, since what a draw leaves is rounded. But whatever it takes is
gone from one side for good, so all draws together take no more than what the balances come to. This
bounds the running total however many draws there are, and with it every single rounding: beyond the
bound the total lies in one decade, where rounding moves it by no more than the term that is added.

Owns: the exact walk, the running total of draws, and the distance of a margin from the exact walk.
-/

namespace Collateral

namespace Netting

/-! ## The walk in exact numbers -/

/-- What covering a debt from the front leaves of a pool. -/
def leftover : List Lot → (debt : Rat) → List Lot
  | [], _ => []
  | lot :: pool, debt =>
    if debt < lot.worth then { lot with worth := lot.worth - debt } :: pool
    else leftover pool (debt - lot.worth)

/-- The exact cost of serving debts one after the other, each from what is left of the pool. -/
def exactWalk : (debts : List Rat) → List Lot → Rat
  | [], _ => 0
  | debt :: debts, pool => exactCost pool debt + exactWalk debts (leftover pool debt)

theorem leftover_sound {pool : List Lot} (sound : Sound pool) (debt : Rat) :
    Sound (leftover pool debt) := by
  induction pool generalizing debt with
  | nil => exact sound
  | cons lot pool inductionHypothesis =>
    unfold leftover
    split
    next remains =>
      exact List.forall_mem_cons.2 ⟨⟨sound.head.1, sub_nonneg.2 remains.le⟩, sound.tail⟩
    next => exact inductionHypothesis sound.tail _

/-- Covering two debts costs what covering the first does, and the second from what is left. -/
theorem exactCost_add {pool : List Lot} (sound : Sound pool) {debt more : Rat}
    (moreNonneg : 0 ≤ more) :
    exactCost pool (debt + more) = exactCost pool debt + exactCost (leftover pool debt) more := by
  induction pool generalizing debt with
  | nil => simp [exactCost, leftover]
  | cons lot pool inductionHypothesis =>
    unfold leftover
    split
    next remains =>
      have here : exactCost (lot :: pool) debt = lot.rate * debt := by
        rw [exactCost, min_eq_left remains.le, sub_self, exactCost_zero sound.tail, add_zero]
      rw [exactCost_cons_split, here]
    next usedUp =>
      have least : lot.worth ≤ debt := not_lt.1 usedUp
      rw [exactCost, exactCost, min_eq_right least, min_eq_right (by linarith),
        add_sub_right_comm, inductionHypothesis sound.tail, add_assoc]

/-- The walk costs what covering all debts at once does. -/
theorem exactWalk_eq {debts : List Rat} {pool : List Lot} (sound : Sound pool)
    (nonneg : ∀ debt ∈ debts, 0 ≤ debt) : exactWalk debts pool = exactCost pool debts.sum := by
  induction debts generalizing pool with
  | nil => rw [exactWalk, List.sum_nil, exactCost_zero sound]
  | cons debt debts inductionHypothesis =>
    obtain ⟨-, restNonneg⟩ := List.forall_mem_cons.1 nonneg
    rw [exactWalk, inductionHypothesis (leftover_sound sound debt) restNonneg, List.sum_cons,
      exactCost_add sound (List.sum_nonneg restNonneg)]

/-! ## The running total of draws -/

/-- One more term, where the amounts behind the terms come to no more than `10 ^ 15`. Below that the
total stays below it. Above it both totals lie in one decade, and fitting adds at most the term once
more. -/
private theorem exists_add_term {total term : Decimal} {before amount : Rat}
    (totalNonneg : 0 ≤ total.toRat) (totalLe : total.toRat ≤ 10 ^ 15 + 1 + 2 * before)
    (termNonneg : 0 ≤ term.toRat) (termLe : term.toRat ≤ amount) (beforeNonneg : 0 ≤ before)
    (room : before + amount ≤ 10 ^ 15) :
    ∃ next, total.add term = .ok next ∧ 0 ≤ next.toRat ∧
      next.toRat ≤ 10 ^ 15 + 1 + 2 * (before + amount) ∧
      |next.toRat - (total.toRat + term.toRat)| ≤ 1 / 10 ^ 28 * (3 * 10 ^ 15 + 2) := by
  have sumNonneg : 0 ≤ total.toRat + term.toRat := add_nonneg totalNonneg termNonneg
  obtain ⟨next, fit⟩ := Rounding.exists_fit_of_le
    (show |total.toRat + term.toRat| ≤ 10 ^ 28 by rw [abs_of_nonneg sumNonneg]; linarith)
  have error := Decimal.nearest?_error fit
  rw [abs_of_nonneg sumNonneg] at error
  refine ⟨next, Decimal.add_ok.2 fit, Rounding.fit_nonneg sumNonneg fit, ?_, by linarith⟩
  rcases le_or_gt total.toRat (10 ^ 15) with small | large
  · linarith [(abs_le.1 error).2]
  · have limit : (coefficientLimit : Rat) = 79228162514264337593543950336 := by
      exact_mod_cast (by decide : coefficientLimit = 79228162514264337593543950336)
    have decade : (10 : Rat) ^ (13 + 1) = 10 ^ 14 := by norm_num
    have nearer := Decimal.nearest?_error_le fit sumNonneg totalNonneg
      (by decide : 13 ≤ placesLimit) (by rw [limit, decade]; linarith) (by rw [limit]; linarith)
      (by rw [limit, decade]; linarith)
    rw [sub_add_cancel_left, abs_neg, abs_of_nonneg termNonneg] at nearer
    linarith [(abs_le.1 nearer).2]

/-- The total of draws that take no more than `10 ^ 15` stays within about three times that, and each
draw moves it by no more than its own cost and two roundings. -/
private theorem exists_foldlM_draws {draws : List Draw} {start : Decimal} {before : Rat}
    (within : ∀ draw ∈ draws, draw.source.Within 1 (10 ^ 15) ∧ 0 ≤ draw.used.toRat ∧
      draw.used.toRat ≤ 10 ^ 15)
    (startNonneg : 0 ≤ start.toRat) (startLe : start.toRat ≤ 10 ^ 15 + 1 + 2 * before)
    (beforeNonneg : 0 ≤ before) (room : before + taken draws ≤ 10 ^ 15) :
    ∃ total, draws.foldlM (fun (total : Decimal) draw => do
        total.add (← draw.source.rate.mul draw.used)) start = .ok total ∧
      0 ≤ total.toRat ∧ total.toRat ≤ 10 ^ 15 + 1 + 2 * (before + taken draws) ∧
      |total.toRat - (start.toRat + drawn draws)| ≤
        draws.length * (1 / 10 ^ 28 * (4 * 10 ^ 15 + 3)) := by
  induction draws generalizing start before with
  | nil => exact ⟨start, rfl, startNonneg, by simpa using startLe, by simp⟩
  | cons draw draws inductionHypothesis =>
    obtain ⟨⟨source, usedNonneg, usedLe⟩, behind⟩ := List.forall_mem_cons.1 within
    rw [taken_cons, ← add_assoc] at room
    have restNonneg : 0 ≤ taken draws := by
      apply List.sum_nonneg
      intro amount member
      obtain ⟨other, otherMember, rfl⟩ := List.mem_map.1 member
      exact (behind other otherMember).2.1
    have productNonneg : 0 ≤ draw.source.rate.toRat * draw.used.toRat :=
      mul_nonneg source.rate_nonneg usedNonneg
    have productLe : draw.source.rate.toRat * draw.used.toRat ≤ draw.used.toRat :=
      mul_le_of_le_one_left usedNonneg source.rate_le
    obtain ⟨term, multiplied⟩ := Rounding.exists_fit_of_le
      (show |draw.source.rate.toRat * draw.used.toRat| ≤ 10 ^ 28 by
        rw [abs_of_nonneg productNonneg]
        linarith)
    have termNonneg := Rounding.fit_nonneg productNonneg multiplied
    have termLe := Rounding.fit_le productLe multiplied
    have termNear := Rounding.Lawful.fit_error multiplied
    rw [abs_of_nonneg productNonneg] at termNear
    obtain ⟨next, added, nextNonneg, nextLe, nextNear⟩ := exists_add_term startNonneg startLe
      termNonneg termLe beforeNonneg (by linarith)
    obtain ⟨total, summed, totalNonneg, totalLe, totalNear⟩ := inductionHypothesis behind nextNonneg
      nextLe (by linarith) room
    refine ⟨total, Outcome.foldlM_cons_ok.2 ⟨next, ?_, summed⟩, totalNonneg, ?_, ?_⟩
    · exact Outcome.bind_ok.2 ⟨term, Decimal.mul_ok.2 multiplied, added⟩
    · rwa [taken_cons, ← add_assoc]
    · rw [drawn_cons, List.length_cons]
      push_cast
      rw [abs_le] at termNear nextNear totalNear ⊢
      constructor <;> linarith

/-- **The charge of buckets lies within a few roundings a bucket of the exact one,** however many
buckets there are. -/
theorem exists_charge_near {buckets : List Bucket}
    (bounded : ∀ bucket ∈ buckets, Bounded 1 (10 ^ 15) bucket)
    (sized : (buckets.map fun bucket => |bucket.value.toRat|).sum ≤ 10 ^ 15) :
    ∃ result, charge buckets = .ok result ∧ 0 ≤ result.toRat ∧
      result.toRat ≤ 3 * 10 ^ 15 + 1 ∧ result.toRat ≤ buckets.length * (3 * 10 ^ 15 + 1) ∧
      |result.toRat - exactCharge buckets| ≤ buckets.length * (51 / 10 ^ 14) := by
  have pool := collateral_within bounded
  have sides := debts_within bounded
  obtain ⟨covered, coveredDone⟩ := exists_coverAll pool sides
  have accounts : covered.Accounts (1 / 10 ^ 28) 1 (10 ^ 15) (collateral buckets)
      (owed (debts buckets)) (debts buckets).length := coverAll_ok pool sides coveredDone
  have count : covered.draws.length ≤ buckets.length := by
    have both := length_collateral_add_length_debts_le buckets
    have draws := accounts.draws_count
    omega
  have countRat : (covered.draws.length : Rat) ≤ buckets.length := by exact_mod_cast count
  have soundRest := sound_of_within accounts.pool_within
  have takenLe : 0 + taken covered.draws ≤ 10 ^ 15 := by
    have amounts := accounts.taken_le
    rw [capacity_add_owed] at amounts
    linarith [soundRest.capacity_nonneg]
  have start : (0 : Decimal).toRat ≤ 10 ^ 15 + 1 + 2 * 0 := by
    rw [Decimal.toRat_zero]
    norm_num
  obtain ⟨result, added, nonneg, le, near⟩ := exists_foldlM_draws accounts.draws_within
    Decimal.toRat_zero.ge start le_rfl takenLe
  have atMost : result.toRat ≤ 3 * 10 ^ 15 + 1 := by linarith
  refine ⟨result, Outcome.bind_ok.2 ⟨covered, coveredDone, added⟩, nonneg, atMost, ?_, ?_⟩
  · cases drawsAre : covered.draws with
    | nil =>
      rw [drawsAre] at added
      obtain rfl := Outcome.pure_ok.1 added
      rw [Decimal.toRat_zero]
      positivity
    | cons draw draws =>
      have some : (1 : Rat) ≤ buckets.length := by
        rw [drawsAre, List.length_cons] at count
        exact_mod_cast Nat.one_le_iff_ne_zero.2 (by omega)
      linarith
  · have cost := accounts.cost 0 le_rfl
    rw [exactCost_zero soundRest, add_zero, add_zero, ← exactCharge] at cost
    rw [Decimal.toRat_zero, zero_add] at near
    have both := (abs_sub_le _ _ _).trans (add_le_add near cost)
    linarith

/-- The exact charge is what the exact walk costs. -/
theorem exactWalk_eq_exactCharge {top peak : Rat} {buckets : List Bucket}
    (bounded : ∀ bucket ∈ buckets, Bounded top peak bucket) :
    exactWalk ((debts buckets).map fun debt => debt.value.toRat)
      ((collateral buckets).map Bucket.lot) = exactCharge buckets := by
  apply exactWalk_eq (sound_of_within (collateral_within bounded))
  intro size member
  obtain ⟨debt, debtMember, rfl⟩ := List.mem_map.1 member
  exact (debts_within bounded debt debtMember).1

end Netting

namespace Margin

variable {terms : Terms} {book : Book} {found : List Bucket}

/-- **The margin is that of the walk in exact numbers, but for a few roundings a balance.** Balances
that come to no more than `10 ^ 15`, at haircuts up to one and a multiplier up to a thousand, have a
margin, and it is not below zero. -/
theorem exists_ofBook_near_exactWalk (highestLe : terms.haircuts.highest ≤ 1)
    (multiplierNonneg : 0 ≤ terms.multiplier.toRat) (multiplierLe : terms.multiplier.toRat ≤ 1000)
    (built : buckets terms book = .ok found)
    (sized : (found.map fun bucket => |bucket.value.toRat|).sum ≤ 10 ^ 15) :
    ∃ margin, ofBook terms book = .ok margin ∧ 0 ≤ margin.toRat ∧
      |margin.toRat - terms.multiplier.toRat *
          Netting.exactWalk ((Netting.debts found).map fun debt => debt.value.toRat)
            ((Netting.collateral found).map Bucket.lot)| ≤
        (book.balances.entries.filter fun entry => !isFlat entry.2).length *
          terms.multiplier.toRat * (1 / 10 ^ 12) + 1 / 10 ^ 28 := by
  have count : found.length =
      (book.balances.entries.filter fun entry => !isFlat entry.2).length := by
    have currencies : found.map Bucket.currency =
        (book.balances.entries.filter fun entry => !isFlat entry.2).map Prod.fst :=
      Outcome.map_of_mapM (fun _ _ done => (bucket_ok.1 done).1) built
    simpa using congrArg List.length currencies
  have bounded : ∀ bucket ∈ found, Netting.Bounded 1 (10 ^ 15) bucket := by
    intro bucket member
    obtain ⟨rateNonneg, rateLe, -⟩ := buckets_bounded built bucket member
    refine ⟨rateNonneg, rateLe.trans highestLe, le_trans ?_ sized⟩
    refine List.single_le_sum (fun size sizeMember => ?_) _ (List.mem_map.2 ⟨bucket, member, rfl⟩)
    obtain ⟨other, -, rfl⟩ := List.mem_map.1 sizeMember
    exact abs_nonneg _
  obtain ⟨charge, charged, chargeNonneg, chargeLe, chargeEach, chargeNear⟩ :=
    Netting.exists_charge_near bounded sized
  rw [count] at chargeEach chargeNear
  have productNonneg : 0 ≤ charge.toRat * terms.multiplier.toRat :=
    mul_nonneg chargeNonneg multiplierNonneg
  have productLe : charge.toRat * terms.multiplier.toRat ≤ (3 * 10 ^ 15 + 1) * 1000 :=
    mul_le_mul chargeLe multiplierLe multiplierNonneg (by norm_num)
  obtain ⟨margin, scaled⟩ := Rounding.exists_fit_of_le
    (show |charge.toRat * terms.multiplier.toRat| ≤ 10 ^ 28 by
      rw [abs_of_nonneg productNonneg]
      linarith)
  refine ⟨margin, ?_, Rounding.fit_nonneg productNonneg scaled, ?_⟩
  · exact Outcome.bind_ok.2 ⟨found, built, Outcome.bind_ok.2
      ⟨charge, Outcome.liftArithmetic_ok.2 charged, Outcome.liftArithmetic_ok.2
        (Decimal.mul_ok.2 scaled)⟩⟩
  · have last := Rounding.Lawful.fit_error scaled
    rw [abs_of_nonneg productNonneg] at last
    have each := mul_le_mul_of_nonneg_right chargeEach multiplierNonneg
    have whole : |terms.multiplier.toRat * charge.toRat - terms.multiplier.toRat *
        Netting.exactCharge found| ≤ terms.multiplier.toRat *
          ((book.balances.entries.filter fun entry => !isFlat entry.2).length * (51 / 10 ^ 14)) := by
      rw [← mul_sub, abs_mul, abs_of_nonneg multiplierNonneg]
      exact mul_le_mul_of_nonneg_left chargeNear multiplierNonneg
    rw [Netting.exactWalk_eq_exactCharge bounded]
    rw [mul_comm charge.toRat] at last each
    have manyNonneg : 0 ≤ ((book.balances.entries.filter fun entry => !isFlat entry.2).length : Rat) *
        terms.multiplier.toRat := mul_nonneg (Nat.cast_nonneg _) multiplierNonneg
    linarith [(abs_sub_le _ _ _).trans (add_le_add last whole)]

/-! ## Dollars owed to the last place -/

open Projection (whole)

/-- A third, to the last place. -/
private def thirdRate : Decimal :=
  Figure.value ⟨false, 10 ^ 28 / 3, 28, by decide⟩

private theorem thirdRate_nonneg : 0 ≤ thirdRate := by decide +kernel

private def thirdTerms : Terms :=
  ⟨⟨"USD"⟩, Spot.quotes ⟨⟨"USD"⟩, Table.ofList
    [(⟨⟨"EUR"⟩, ⟨"USD"⟩⟩, 2), (⟨⟨"GBP"⟩, ⟨"USD"⟩⟩, 2)]⟩,
    .uniform ⟨"broker"⟩ thirdRate thirdRate_nonneg, 2⟩

/-- Euros are owed with twenty-five places, and a dollar more. -/
private def finelyOwing : Book :=
  ⟨Table.ofList [(⟨"EUR"⟩, Figure.value ⟨true, 100000000000000000000000001, 25, by decide +kernel⟩),
    (⟨"GBP"⟩, whole 100), (⟨"USD"⟩, -whole 1)]⟩

/-- What twenty-one dollars and a trace cost exactly at the haircut, before the multiplier. -/
private def finelyCharged : Rat :=
  350000000000000000000000003298333333333333333333333333 / (5 * 10 ^ 52)

/-- The computed margin is not twice the exact charge, but as near to it as the bound says. -/
theorem exists_ofBook_near_exactWalk_finelyOwing :
    ∃ found margin, buckets thirdTerms finelyOwing = .ok found ∧
      Netting.exactWalk ((Netting.debts found).map fun debt => debt.value.toRat)
        ((Netting.collateral found).map Bucket.lot) = finelyCharged ∧
      ofBook thirdTerms finelyOwing = .ok margin ∧ margin.toRat ≠ 2 * finelyCharged ∧
      |margin.toRat - 2 * finelyCharged| ≤ 3 * 2 * (1 / 10 ^ 12) + 1 / 10 ^ 28 := by
  have figures : (buckets thirdTerms finelyOwing).map (fun found =>
      decide ((found.map fun bucket => |bucket.value.toRat|).sum ≤ 10 ^ 15 ∧
        Netting.exactWalk ((Netting.debts found).map fun debt => debt.value.toRat)
          ((Netting.collateral found).map Bucket.lot) = finelyCharged)) = .ok true := by
    decide +kernel
  obtain ⟨found, built, holds⟩ := Outcome.map_ok.1 figures
  obtain ⟨sized, walked⟩ := of_decide_eq_true holds
  have multiplier : thirdTerms.multiplier.toRat = 2 := by decide +kernel
  have count : (finelyOwing.balances.entries.filter fun entry => !isFlat entry.2).length = 3 := by
    decide +kernel
  have margined : ofBook thirdTerms finelyOwing =
    .ok (Figure.value ⟨false, 14000000000000000000000000132, 27, by decide⟩) := by decide +kernel
  obtain ⟨margin, margined', -, near⟩ := exists_ofBook_near_exactWalk (by decide +kernel)
    (by rw [multiplier]; norm_num) (by rw [multiplier]; norm_num) built sized
  obtain rfl := Except.ok.inj (margined.symm.trans margined')
  rw [walked, multiplier, count] at near
  exact ⟨found, _, built, walked, margined, by decide +kernel, near⟩

end Margin

end Collateral

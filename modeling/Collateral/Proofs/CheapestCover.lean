import Collateral.Proofs.Assignment
import Collateral.Proofs.Bookings
import Collateral.Proofs.Lossless
import Collateral.Proofs.Timeline

/-!
Contract: the margin of a book is the cheapest cover of its debts.

Where no calculation rounds, the margin is the multiplier times the least that covering the debts of
the book can cost, over all ways of covering as much of them as the collateral allows. So it does not
depend on the order in which debts are served, and debt beyond the collateral is not charged.

Owns: the two sides of a book, and its margin as the least cost.
-/

namespace Collateral.Margin

/-- The exact worth of a balance at the rate of its currency. -/
def exactWorth (terms : Terms) (entry : Currency × Decimal) : Rat :=
  rateOf terms.spot terms.domestic entry.1 * entry.2.toRat

/-- The collateral and the debts of a book: the balances that are not flat and are worth more, or
less, than nothing. -/
def sides (terms : Terms) (book : Book) :
    Netting.Sides (Currency × Decimal) (Currency × Decimal) where
  sources := book.balances.entries.filter fun entry =>
    !isFlat entry.2 && decide (0 < exactWorth terms entry)
  lot entry := ⟨(terms.haircuts.rate ⟨entry.1, terms.domestic⟩).toRat, exactWorth terms entry⟩
  debts := book.balances.entries.filter fun entry =>
    !isFlat entry.2 && decide (exactWorth terms entry < 0)
  size entry := -exactWorth terms entry

theorem sources_nodup (terms : Terms) (book : Book) : (sides terms book).sources.Nodup :=
  (List.Nodup.of_map Prod.fst book.balances.distinct).filter _

theorem size_nonneg_of_mem (terms : Terms) (book : Book) :
    ∀ entry ∈ (sides terms book).debts, 0 ≤ (sides terms book).size entry := by
  intro entry member
  have below : exactWorth terms entry < 0 := by
    simpa using (Bool.and_eq_true_iff.1 (List.mem_filter.1 member).2).2
  exact neg_nonneg.2 below.le

section Exact

variable [Rounding] [Rounding.Lawful 0] {terms : Terms} {book : Book} {found : List Bucket}

/-- The buckets of a book hold its balances at their exact worth. -/
theorem lots_of_buckets (built : buckets terms book = .ok found) :
    found.map Bucket.lot =
      (book.balances.entries.filter (!isFlat ·.2)).map (sides terms book).lot := by
  apply Outcome.map_of_mapM _ built
  intro entry result done
  obtain ⟨-, rateIs, converted⟩ := bucket_ok.1 done
  have near := worthOf_near converted
  rw [zero_mul, abs_nonpos_iff, sub_eq_zero, worthOf_ok converted] at near
  rw [Bucket.lot, rateIs, near]
  rfl

/-- Buckets chosen by their lots hold the balances that are so chosen. -/
private theorem lots_of_chosen (built : buckets terms book = .ok found)
    (chosen : Netting.Lot → Bool) :
    (found.filter fun bucket => chosen bucket.lot).map Bucket.lot =
      (book.balances.entries.filter fun entry =>
        !isFlat entry.2 && chosen ((sides terms book).lot entry)).map (sides terms book).lot := by
  have composed : (fun bucket : Bucket => chosen bucket.lot) = chosen ∘ Bucket.lot := rfl
  rw [composed, ← List.filter_map, lots_of_buckets built, List.filter_map, List.filter_filter]
  simp only [Function.comp_def, Bool.and_comm]

/-- The pool holds the sources of the book. -/
theorem pool_perm (built : buckets terms book = .ok found) :
    ((Netting.collateral found).map Bucket.lot).Perm
      ((sides terms book).sources.map (sides terms book).lot) := by
  have positive : (fun bucket : Bucket => decide (0 < bucket.value)) =
      fun bucket => decide (0 < bucket.lot.worth) := by
    funext bucket
    rw [decide_eq_decide, Decimal.lt_iff, Decimal.toRat_zero]
    rfl
  have lots := lots_of_chosen built fun lot => decide (0 < lot.worth)
  rw [← positive] at lots
  exact ((sortBy_perm _ _).map _).trans (.of_eq lots)

/-- The debts among the buckets come to those of the book. -/
theorem owed_debts_eq (built : buckets terms book = .ok found) :
    Netting.owed (Netting.debts found) = (sides terms book).owed := by
  have negative : (fun bucket : Bucket => decide (bucket.value < 0)) =
      fun bucket => decide (bucket.lot.worth < 0) := by
    funext bucket
    rw [decide_eq_decide, Decimal.lt_iff, Decimal.toRat_zero]
    rfl
  have lots := lots_of_chosen built fun lot => decide (lot.worth < 0)
  rw [← negative] at lots
  have amounts := congrArg (fun lots => (lots.map fun lot => -lot.worth).sum) lots
  simp only [List.map_map] at amounts
  rw [Netting.owed_debts]
  exact amounts

/-- The exact charge is the least cost of covering the debts. -/
theorem exactCharge_isLeast (built : buckets terms book = .ok found) :
    IsLeast {cost | ∃ part, (sides terms book).Covers part ∧ (sides terms book).cost part = cost}
      (Netting.exactCharge found) := by
  have sound : Netting.Sound ((Netting.collateral found).map Bucket.lot) :=
    Netting.sound_of_within (Netting.collateral_within (buckets_bounded built))
  have rising : ((Netting.collateral found).map Bucket.lot).Pairwise
      fun left right => left.rate ≤ right.rate := by
    apply List.pairwise_map.2
    apply (sortBy_pairwise Netting.cheaper_total Netting.cheaper_trans _).imp
    intro left right ordered
    rcases (Netting.cheaper_iff left right).1 ordered with less | ⟨same, -⟩
    · exact less.le
    · exact same.le
  rw [Netting.exactCharge, owed_debts_eq built]
  exact Netting.Sides.exactCost_isLeast (pool_perm built) sound (size_nonneg_of_mem terms book) rising
    (sources_nodup terms book)

/-- Where the debts go beyond the collateral, all collateral is charged and nothing else. -/
theorem exactCharge_of_short (built : buckets terms book = .ok found)
    (short : (sides terms book).held ≤ (sides terms book).owed) :
    Netting.exactCharge found = ((sides terms book).sources.map fun entry =>
      ((sides terms book).lot entry).rate * ((sides terms book).lot entry).worth).sum := by
  have arranged := pool_perm built
  have sound : Netting.Sound ((Netting.collateral found).map Bucket.lot) :=
    Netting.sound_of_within (Netting.collateral_within (buckets_bounded built))
  rw [← Netting.Sides.capacity_eq_held arranged] at short
  rw [Netting.exactCharge, owed_debts_eq built, Netting.exactCost_of_capacity_le sound short,
    (arranged.map fun lot => lot.rate * lot.worth).sum_eq, List.map_map]
  rfl

/-- In whatever order the debts are served, the charge is the exact one. -/
theorem charge_of_perm (built : buckets terms book = .ok found) {order : List Bucket}
    (rearranged : order.Perm (Netting.debts found)) {charge : Decimal}
    (charged : Netting.chargeInOrder order (Netting.collateral found) = .ok charge) :
    charge.toRat = Netting.exactCharge found := by
  have bounded := buckets_bounded built
  have near := Netting.near_chargeInOrder (Netting.collateral_within bounded)
    (fun debt member => Netting.debts_within bounded debt (rearranged.mem_iff.1 member)) le_rfl
    terms.haircuts.highest_nonneg (book.gross_nonneg _ _) charged
  rw [near.eq_of_exact, Netting.owed_perm rearranged, Netting.exactCharge]

end Exact

variable {terms : Terms} {book : Book} {margin : Decimal}

/-- **The margin is the cheapest cover.** Where no calculation rounds, it is the multiplier times the
least cost of covering the debts; if these go beyond the collateral, that is the cost of all
collateral. Debts that are served in any other order cost the same. -/
theorem ofBook_isLeast (margined : ofBook terms book = .ok margin)
    (exactRun : Rounding.Lossless fun _ => ofBook terms book) :
    ∃ least, margin.toRat = terms.multiplier.toRat * least ∧
      IsLeast {cost | ∃ part, (sides terms book).Covers part ∧
        (sides terms book).cost part = cost} least ∧
      ((sides terms book).held ≤ (sides terms book).owed →
        least = ((sides terms book).sources.map fun entry =>
          ((sides terms book).lot entry).rate * ((sides terms book).lot entry).worth).sum) ∧
      ∃ found, buckets terms book = .ok found ∧
        ∀ order charge, order.Perm (Netting.debts found) →
          @Netting.chargeInOrder Rounding.exact order (Netting.collateral found) = .ok charge →
          charge.toRat = least := by
  have exactly := exactRun.exactly (ofBook_refines Rounding.exact_stricter terms book) margined
  obtain ⟨found, built, onward⟩ := Outcome.bind_ok.1 exactly
  have sameBuckets := buckets_refines Rounding.exact_stricter terms book found built
  let _ : Rounding := Rounding.exact
  obtain ⟨charge, charged, scaled⟩ := Outcome.bind_ok.1 onward
  rw [Outcome.liftArithmetic_ok] at charged scaled
  have charges : charge.toRat = Netting.exactCharge found := charge_of_perm built (.refl _) charged
  have product : margin.toRat = charge.toRat * terms.multiplier.toRat :=
    (Rounding.near_fit_one (Decimal.mul_ok.1 scaled)).eq_of_exact
  refine ⟨Netting.exactCharge found, ?_, exactCharge_isLeast built, exactCharge_of_short built, found,
    sameBuckets, fun order charge rearranged => charge_of_perm built rearranged⟩
  rw [product, charges, mul_comm]

/-! ## Euros and pounds against dollars and francs -/

open Projection (poundHaircuts whole)

/-- Every foreign currency stands at two dollars. -/
private def twoHaircuts : Terms where
  domestic := ⟨"USD"⟩
  spot := Spot.quotes ⟨⟨"USD"⟩, Table.ofList
    [(⟨⟨"EUR"⟩, ⟨"USD"⟩⟩, 2), (⟨⟨"GBP"⟩, ⟨"USD"⟩⟩, 2), (⟨⟨"CHF"⟩, ⟨"USD"⟩⟩, 2)]⟩
  haircuts := poundHaircuts
  multiplier := 2

private def twoDebts : Book :=
  ⟨Table.ofList [(⟨"EUR"⟩, whole 300), (⟨"USD"⟩, -whole 450), (⟨"GBP"⟩, whole 250),
    (⟨"CHF"⟩, -whole 150)]⟩

/-- All pounds at a tenth and a part of the euros at a fifth cover the debts, for a hundred. -/
theorem ofBook_isLeast_twoDebts :
    ofBook twoHaircuts twoDebts = .ok (whole 200) ∧
      IsLeast {cost | ∃ part, (sides twoHaircuts twoDebts).Covers part ∧
        (sides twoHaircuts twoDebts).cost part = cost} 100 := by
  have margined : ofBook twoHaircuts twoDebts = .ok (whole 200) := by decide +kernel
  have exactRun : Rounding.Lossless fun _ => ofBook twoHaircuts twoDebts :=
    Rounding.lossless_of_toBool (by decide +kernel)
  have figures : (whole 200).toRat = 200 ∧
    twoHaircuts.multiplier.toRat = 2 := by decide +kernel
  obtain ⟨least, marginIs, isLeast, -⟩ := ofBook_isLeast margined exactRun
  rw [figures.1, figures.2] at marginIs
  obtain rfl : least = 100 := by linarith
  exact ⟨margined, isLeast⟩

end Collateral.Margin

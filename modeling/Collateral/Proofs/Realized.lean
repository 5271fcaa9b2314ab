import Collateral.Proofs.Bookings
import Collateral.Proofs.Lossless
import Collateral.Proofs.Timeline
import Collateral.Realization

/-!
Contract: what a change of positions realizes where no calculation rounds, and that closing in
stages realizes what closing at once does.

Every held position moves the result by the amount it shrinks, at the gain of one unit. How much it
shrinks depends on its own amount and on the target of its pair alone. So a stage in between leaves
no trace in the result, as long as it goes only a part of the way to the final positions.

Owns: the exact amount by which a holding shrinks, the exact profit, the reading of a run as that
profit, and closing in stages.
-/

namespace Collateral.Realization

/-! ## Exact amounts -/

/-- What the positions of a pair add up to. -/
def amountIn (positions : List FxPosition) (pair : FxPair) : Rat :=
  ((positions.filter (·.pair = pair)).map (·.amount.toRat)).sum

/-- By how much a holding shrinks towards a target. It goes in full where the target lies on the
other side or at zero. -/
def shrinkage (held target : Rat) : Rat :=
  if held * target ≤ 0 then held
  else if |target| < |held| then held - target
  else 0

/-- What one unit of a position gains over its price, in domestic currency. -/
def unitGain (spot : Quotes) (domestic : Currency) (position : FxPosition) : Rat :=
  (rateOf spot position.pair.quote position.pair.base - position.price.toRat) *
    rateOf spot domestic position.pair.quote

/-- What the held positions realize on the way to the targets of their pairs. -/
def gain (spot : Quotes) (domestic : Currency) (target : FxPair → Rat)
    (held : List FxPosition) : Rat :=
  (held.map fun position =>
    shrinkage position.amount.toRat (target position.pair) * unitGain spot domestic position).sum

@[simp] theorem amountIn_nil (pair : FxPair) : amountIn [] pair = 0 := rfl

theorem amountIn_cons (position : FxPosition) (positions : List FxPosition) (pair : FxPair) :
    amountIn (position :: positions) pair =
      (if position.pair = pair then position.amount.toRat else 0) + amountIn positions pair := by
  unfold amountIn
  split
  next same => simp [same]
  next differs => simp [differs]

theorem amountIn_append (front back : List FxPosition) (pair : FxPair) :
    amountIn (front ++ back) pair = amountIn front pair + amountIn back pair := by
  simp [amountIn]

theorem amountIn_eq_zero {positions : List FxPosition} {pair : FxPair}
    (absent : pair ∉ positions.map FxPosition.pair) : amountIn positions pair = 0 := by
  have none : positions.filter (·.pair = pair) = [] := by
    simpa [List.filter_eq_nil_iff] using absent
  rw [amountIn, none, List.map_nil, List.sum_nil]

@[simp] theorem gain_nil (spot : Quotes) (domestic : Currency) (target : FxPair → Rat) :
    gain spot domestic target [] = 0 := rfl

theorem gain_append (spot : Quotes) (domestic : Currency) (target : FxPair → Rat)
    (front back : List FxPosition) :
    gain spot domestic target (front ++ back) =
      gain spot domestic target front + gain spot domestic target back := by
  simp [gain]

theorem gain_cons (spot : Quotes) (domestic : Currency) (target : FxPair → Rat)
    (position : FxPosition) (positions : List FxPosition) :
    gain spot domestic target (position :: positions) =
      shrinkage position.amount.toRat (target position.pair) * unitGain spot domestic position +
        gain spot domestic target positions := by
  simp [gain]

/-- Where no pair repeats, the amount of a pair is that of its position. -/
theorem amountIn_of_nodup {positions : List FxPosition}
    (distinct : (positions.map FxPosition.pair).Nodup) {position : FxPosition}
    (member : position ∈ positions) :
    amountIn positions position.pair = position.amount.toRat := by
  induction positions with
  | nil => contradiction
  | cons head rest inductionHypothesis =>
    obtain ⟨absent, restDistinct⟩ := List.nodup_cons.1 distinct
    rw [amountIn_cons]
    rcases List.mem_cons.1 member with rfl | inRest
    · rw [if_pos rfl, amountIn_eq_zero absent, add_zero]
    · have differs : head.pair ≠ position.pair :=
        fun same => absent (same ▸ List.mem_map_of_mem inRest)
      rw [if_neg differs, zero_add, inductionHypothesis restDistinct inRest]

section Transfer

variable {strict actual : Rounding} (stricter : strict.Stricter actual)

include stricter

open Outcome (Refines)

theorem targets_refines (proposed : List FxPosition) :
    Refines (@targets strict proposed) (@targets actual proposed) :=
  .foldlM (fun _ _ => (Decimal.fitted_refines stricter _ _).bind fun _ => .refl _) proposed _

theorem closed_refines (held target : Decimal) :
    Refines (@closed strict held target) (@closed actual held target) :=
  .ite (.refl _) (.ite (Decimal.fitted_refines stricter _ _) (.refl _))

theorem ofPosition_refines (spot : Quotes) (domestic : Currency) (target : Decimal)
    (position : FxPosition) (realized : Decimal) :
    Refines (@ofPosition strict spot domestic target position realized)
      (@ofPosition actual spot domestic target position realized) := by
  refine (closed_refines stricter _ _).mapError.bind fun closed => ?_
  refine .ite (.refl _) ((Refines.refl _).bind fun rate => ?_)
  refine (Decimal.fitted_refines stricter _ _).mapError.bind fun gain => ?_
  refine (Decimal.fitted_refines stricter _ _).mapError.bind fun inQuote => ?_
  refine (spot.convert_refines stricter _ _).mapError.bind fun value => ?_
  exact (Decimal.fitted_refines stricter _ _).mapError

theorem profit_refines (held proposed : List FxPosition) (domestic : Currency) (spot : Quotes) :
    Refines (@profit strict held proposed domestic spot)
      (@profit actual held proposed domestic spot) :=
  (targets_refines stricter proposed).mapError.bind fun _ =>
    .foldlM (fun _ _ => ofPosition_refines stricter spot domestic _ _ _) held 0

end Transfer

/-! ## Reading a run -/

theorem sameSide_iff {left right : Decimal} :
    sameSide left right ↔ 0 < left.toRat * right.toRat := by
  simp [sameSide, Decimal.lt_iff, mul_pos_iff]

section Exact

variable [Rounding] [Rounding.Lawful 0] {held proposed : List FxPosition} {domestic : Currency}
  {spot : Quotes}

/-- The target of a pair is what its proposed positions add up to. -/
theorem targets_ok {table : Table FxPair Decimal} (found : targets proposed = .ok table)
    (pair : FxPair) : ((table.get? pair).getD 0).toRat = amountIn proposed pair := by
  unfold targets at found
  induction proposed using List.reverseRecOn generalizing table with
  | nil =>
    rw [← Outcome.pure_ok.1 found]
    exact Decimal.toRat_zero
  | append_singleton front position inductionHypothesis =>
    obtain ⟨before, first, last⟩ := Outcome.foldlM_concat_ok.1 found
    obtain ⟨target, added, inserted⟩ := Outcome.bind_ok.1 last
    have targetIs : target.toRat =
        ((before.get? position.pair).getD 0).toRat + position.amount.toRat :=
      Decimal.toRat_of_add added
    rw [amountIn_append, ← inductionHypothesis first, amountIn_cons, amountIn_nil, add_zero,
      ← Outcome.pure_ok.1 inserted, Table.get?_insert]
    by_cases same : position.pair = pair
    · subst same
      rw [if_pos rfl, if_pos rfl, Option.getD_some, targetIs]
    · rw [if_neg same, if_neg same, add_zero]

theorem closed_ok {position target amount : Decimal} (done : closed position target = .ok amount) :
    amount.toRat = shrinkage position.toRat target.toRat := by
  unfold closed at done
  unfold shrinkage
  have sides : position.toRat * target.toRat ≤ 0 ↔ (!sameSide position target) = true := by
    rw [Bool.not_eq_true', ← Bool.not_eq_true, sameSide_iff, not_lt]
  have smaller : |target.toRat| < |position.toRat| ↔ target.abs < position.abs := by
    rw [Decimal.lt_iff, Decimal.toRat_abs, Decimal.toRat_abs]
  simp only [sides, smaller]
  split at done
  next apart => rw [if_pos apart, Outcome.pure_ok.1 done]
  next together =>
    rw [if_neg together]
    split at done
    next shrinks =>
      rw [if_pos shrinks]
      exact Decimal.toRat_of_sub done
    next keeps => rw [if_neg keeps, ← Outcome.pure_ok.1 done, Decimal.toRat_zero]

theorem ofPosition_ok {target realized result : Decimal} {position : FxPosition}
    (done : ofPosition spot domestic target position realized = .ok result) :
    result.toRat = realized.toRat +
      shrinkage position.amount.toRat target.toRat * unitGain spot domestic position := by
  obtain ⟨amount, closedDone, onward⟩ := Outcome.bind_ok.1 done
  rw [← closed_ok (Outcome.liftArithmetic_ok.1 closedDone)]
  split at onward
  next nothing => rw [← Outcome.pure_ok.1 onward, nothing, Decimal.toRat_zero, zero_mul, add_zero]
  next =>
    simp only [Outcome.bind_ok, Outcome.liftArithmetic_ok, Outcome.liftConversion_ok] at onward
    obtain ⟨rate, rateIs, gain, gained, inQuote, quoted, value, converted, added⟩ := onward
    obtain ⟨toDomestic, toDomesticIs, multiplied⟩ := Outcome.bind_ok.1 converted
    rw [Outcome.liftIntoConversion_ok] at multiplied
    have resultIs : result.toRat = realized.toRat + value.toRat :=
      Decimal.toRat_of_add added
    have valueIs : value.toRat = inQuote.toRat * toDomestic.toRat :=
      Decimal.toRat_of_mul multiplied
    have inQuoteIs : inQuote.toRat = amount.toRat * gain.toRat :=
      Decimal.toRat_of_mul quoted
    have gainIs : gain.toRat = rate.toRat - position.price.toRat :=
      Decimal.toRat_of_sub gained
    have spotRate : rateOf spot position.pair.quote position.pair.base = rate.toRat := by
      simp [rateOf, rateIs]
    have conversionRate : rateOf spot domestic position.pair.quote = toDomestic.toRat := by
      simp [rateOf, toDomesticIs]
    rw [resultIs, valueIs, inQuoteIs, gainIs, unitGain, spotRate, conversionRate, mul_assoc]

theorem profit_ok {result : Decimal} (done : profit held proposed domestic spot = .ok result) :
    result.toRat = gain spot domestic (amountIn proposed) held := by
  obtain ⟨table, found, realized⟩ := Outcome.bind_ok.1 done
  have target := targets_ok (Outcome.liftArithmetic_ok.1 found)
  clear done
  induction held using List.reverseRecOn generalizing result with
  | nil =>
    rw [← Outcome.pure_ok.1 realized]
    exact Decimal.toRat_zero
  | append_singleton front position inductionHypothesis =>
    obtain ⟨before, first, last⟩ := Outcome.foldlM_concat_ok.1 realized
    rw [ofPosition_ok last, inductionHypothesis first, target, gain_append, gain_cons,
      gain_nil, add_zero]

end Exact

/-- A run that loses nothing to rounding realizes the exact profit. -/
theorem profit_of_lossless {held proposed : List FxPosition} {domestic : Currency} {spot : Quotes}
    {result : Decimal} (ran : profit held proposed domestic spot = .ok result)
    (exactRun : Rounding.Lossless fun _ => profit held proposed domestic spot) :
    result.toRat = gain spot domestic (amountIn proposed) held := by
  have exactly := exactRun.exactly
    (profit_refines Rounding.exact_stricter held proposed domestic spot) ran
  let _ : Rounding := Rounding.exact
  exact profit_ok exactly

/-! ## Closing in stages -/

/-- A position with some or all of its amount closed, at the price it had. -/
structure Reduced (lot left : FxPosition) : Prop where
  pair_eq : left.pair = lot.pair
  price_eq : left.price = lot.price
  zero : lot.amount = 0 → left.amount = 0
  nonneg : 0 ≤ left.amount.toRat / lot.amount.toRat
  le_one : left.amount.toRat / lot.amount.toRat ≤ 1

instance (lot left : FxPosition) : Decidable (Reduced lot left) :=
  decidable_of_iff (_ ∧ _ ∧ _ ∧ _ ∧ _)
    ⟨fun ⟨pair, price, zero, nonneg, leOne⟩ => ⟨pair, price, zero, nonneg, leOne⟩,
      fun reduced => ⟨reduced.pair_eq, reduced.price_eq, reduced.zero, reduced.nonneg,
        reduced.le_one⟩⟩

/-- A final amount that goes on from what a stage has left: it is no larger, or lies on the other
side, or is zero. -/
def Onward (left final : Rat) : Prop := |final| ≤ |left| ∨ final * left < 0 ∨ final = 0

instance (left final : Rat) : Decidable (Onward left final) :=
  inferInstanceAs (Decidable (_ ∨ _ ∨ _))

theorem shrinkage_of_nonpos {held target : Rat} (apart : held * target ≤ 0) :
    shrinkage held target = held := if_pos apart

/-- Towards a target on its own side that is no larger, a holding shrinks by the difference. -/
theorem shrinkage_of_abs_le {held target : Rat} (together : 0 < held * target)
    (smaller : |target| ≤ |held|) : shrinkage held target = held - target := by
  rw [shrinkage, if_neg (not_le.2 together)]
  split
  next => rfl
  next large =>
    have same : |target| = |held| := le_antisymm smaller (not_lt.1 large)
    rcases abs_eq_abs.1 same with rfl | rfl
    · rw [sub_self]
    · linarith [mul_self_nonneg held]

/-- **A holding shrinks in two stages by as much as at once.** -/
theorem shrinkage_add_shrinkage {held left final : Rat} (zero : held = 0 → left = 0)
    (nonneg : 0 ≤ left / held) (leOne : left / held ≤ 1) (onward : Onward left final) :
    shrinkage held left + shrinkage left final = shrinkage held final := by
  by_cases heldZero : held = 0
  · rw [heldZero, zero heldZero, shrinkage_of_nonpos (by simp), shrinkage_of_nonpos (by simp),
      add_zero]
  -- What is left is a part of what was held.
  obtain ⟨part, partIs⟩ : ∃ part, part = left / held := ⟨_, rfl⟩
  rw [← partIs] at nonneg leOne
  obtain rfl : left = part * held := by rw [partIs, div_mul_cancel₀ _ heldZero]
  have squares : 0 < held * held := mul_self_pos.2 heldZero
  rcases nonneg.eq_or_lt with rfl | positive
  · -- Nothing is left, so nothing is proposed in the end.
    have finalZero : final = 0 := by
      rcases onward with within | apart | none
      · simpa using within
      · simp at apart
      · exact none
    rw [finalZero, zero_mul, shrinkage_of_nonpos (by simp), shrinkage_of_nonpos (by simp),
      add_zero]
  · have leftTogether : 0 < held * (part * held) := by
      rw [mul_left_comm]
      exact mul_pos positive squares
    have leftSmaller : |part * held| ≤ |held| := by
      rw [abs_mul, abs_of_pos positive]
      exact mul_le_of_le_one_left (abs_nonneg held) leOne
    rw [shrinkage_of_abs_le leftTogether leftSmaller]
    -- The final amount lies on the same side of what was held as of what is left.
    have sides : part * held * final = part * (held * final) := mul_assoc _ _ _
    by_cases apart : held * final ≤ 0
    · have leftApart : part * held * final ≤ 0 := by
        rw [sides]
        exact mul_nonpos_of_nonneg_of_nonpos positive.le apart
      rw [shrinkage_of_nonpos apart, shrinkage_of_nonpos leftApart, sub_add_cancel]
    · have together : 0 < held * final := not_le.1 apart
      have leftOnward : 0 < part * held * final := by
        rw [sides]
        exact mul_pos positive together
      have within : |final| ≤ |part * held| := by
        rcases onward with within | other | rfl
        · exact within
        · rw [mul_comm] at other
          exact absurd leftOnward other.le.not_gt
        · simp at together
      rw [shrinkage_of_abs_le leftOnward within,
        shrinkage_of_abs_le together (within.trans leftSmaller), sub_add_sub_cancel]

/-- Lots shrink in two stages to the same gain as at once, if the stage between leaves of every lot
what it aims at. -/
private theorem gain_add_gain {spot : Quotes} {domestic : Currency} {middle final : FxPair → Rat}
    {held left : List FxPosition}
    (staged : List.Forall₂ (fun lot rest => (middle rest.pair = rest.amount.toRat ∧
      Onward rest.amount.toRat (final rest.pair)) ∧ Reduced lot rest) held left) :
    gain spot domestic middle held + gain spot domestic final left =
      gain spot domestic final held := by
  induction staged with
  | nil => simp
  | @cons lot rest lots others stage _ inductionHypothesis =>
    obtain ⟨⟨aimed, onward⟩, reduced⟩ := stage
    have units : unitGain spot domestic rest = unitGain spot domestic lot := by
      rw [unitGain, unitGain, reduced.pair_eq, reduced.price_eq]
    have zero : lot.amount.toRat = 0 → rest.amount.toRat = 0 :=
      fun none => Decimal.toRat_eq_zero.2 (reduced.zero (Decimal.toRat_eq_zero.1 none))
    rw [reduced.pair_eq] at aimed onward
    have together := shrinkage_add_shrinkage zero reduced.nonneg reduced.le_one onward
    rw [gain_cons, gain_cons, gain_cons, reduced.pair_eq, units, aimed, ← together,
      ← inductionHypothesis]
    ring

/-- **Closing in stages realizes what closing at once does.** The lots have pairs of their own. The
first stage leaves a part of every lot, and the second goes on from what is left. -/
theorem profit_add_profit {held left final : List FxPosition} {domestic : Currency} {spot : Quotes}
    {first second whole : Decimal} (distinct : (held.map FxPosition.pair).Nodup)
    (reduced : List.Forall₂ Reduced held left)
    (onward : ∀ rest ∈ left, Onward rest.amount.toRat (amountIn final rest.pair))
    (firstRan : profit held left domestic spot = .ok first)
    (firstExact : Rounding.Lossless fun _ => profit held left domestic spot)
    (secondRan : profit left final domestic spot = .ok second)
    (secondExact : Rounding.Lossless fun _ => profit left final domestic spot)
    (wholeRan : profit held final domestic spot = .ok whole)
    (wholeExact : Rounding.Lossless fun _ => profit held final domestic spot) :
    first.toRat + second.toRat = whole.toRat := by
  have samePairs : held.map FxPosition.pair = left.map FxPosition.pair :=
    List.forall₂_eq_eq_eq ▸ List.forall₂_map_left_iff.2
      (List.forall₂_map_right_iff.2 (reduced.imp fun _ _ part => part.pair_eq.symm))
  have aimed : ∀ rest ∈ left, amountIn left rest.pair = rest.amount.toRat :=
    fun rest member => amountIn_of_nodup (samePairs ▸ distinct) member
  have staged : List.Forall₂ (fun lot rest => (amountIn left rest.pair = rest.amount.toRat ∧
      Onward rest.amount.toRat (amountIn final rest.pair)) ∧ Reduced lot rest) held left :=
    .flip ((List.forall₂_and_left left held).2
      ⟨fun rest member => ⟨aimed rest member, onward rest member⟩, .flip reduced⟩)
  rw [profit_of_lossless firstRan firstExact, profit_of_lossless secondRan secondExact,
    profit_of_lossless wholeRan wholeExact, gain_add_gain staged]

/-! ## Euros turned round, pounds closed early and francs closed in part -/

open Projection (tenths whole)

/-- A position against dollars, at a price in tenths. -/
def inDollars (code : String) (amount : Decimal) (price : UInt64) : FxPosition :=
  ⟨⟨⟨code⟩, ⟨"USD"⟩⟩, amount, (tenths price).value⟩

private def halfPoundDollars : Quotes :=
  Spot.quotes ⟨⟨"USD"⟩, Table.ofList [(⟨⟨"EUR"⟩, ⟨"USD"⟩⟩, (tenths 12).value),
    (⟨⟨"CHF"⟩, ⟨"USD"⟩⟩, (tenths 15).value), (⟨⟨"GBP"⟩, ⟨"USD"⟩⟩, 2),
    (⟨⟨"USD"⟩, ⟨"GBP"⟩⟩, (tenths 5).value)]⟩

private def threePairs : List FxPosition :=
  [inDollars "EUR" (whole 1000) 11, inDollars "GBP" (whole 500) 19, inDollars "CHF" (-whole 300) 16]

private def partlyClosed : List FxPosition :=
  [inDollars "EUR" (whole 400) 11, inDollars "GBP" 0 19, inDollars "CHF" (-whole 120) 16]

/-- The francs come in two positions. -/
private def turnedRound : List FxPosition :=
  [inDollars "CHF" (-whole 20) 15, inDollars "EUR" (-whole 250) 12, inDollars "CHF" (-whole 50) 15]

/-- In pounds. -/
theorem profit_add_profit_threePairs :
    profit threePairs partlyClosed ⟨"GBP"⟩ halfPoundDollars = .ok (whole 64) ∧
      profit partlyClosed turnedRound ⟨"GBP"⟩ halfPoundDollars = .ok (tenths 225).value ∧
      profit threePairs turnedRound ⟨"GBP"⟩ halfPoundDollars = .ok (tenths 865).value ∧
      (whole 64).toRat + (tenths 225).value.toRat = (tenths 865).value.toRat := by
  have first : profit threePairs partlyClosed ⟨"GBP"⟩ halfPoundDollars = .ok (whole 64) := by
    decide +kernel
  have second : profit partlyClosed turnedRound ⟨"GBP"⟩ halfPoundDollars =
      .ok (tenths 225).value := by decide +kernel
  have atOnce : profit threePairs turnedRound ⟨"GBP"⟩ halfPoundDollars =
      .ok (tenths 865).value := by decide +kernel
  exact ⟨first, second, atOnce, profit_add_profit (by decide +kernel) (by decide +kernel)
    (by decide +kernel) first (by decide +kernel) second (by decide +kernel) atOnce
    (by decide +kernel)⟩

end Collateral.Realization

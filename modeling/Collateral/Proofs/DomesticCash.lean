import Collateral.Proofs.Ascent
import Collateral.Proofs.Lossless
import Collateral.Proofs.Timeline

/-!
Contract: what domestic cash does to the margin of the book that it is paid into.

The domestic balance is a debt, flat or collateral, and a payment may take it from any of these to a
later one. As collateral it stands wherever its haircut puts it. In all cases the cash raises the
margin by at most the domestic haircut: it can cover debt that had no cover, and on that it is charged.
Elsewhere it pays a debt or takes the place of collateral that costs no less.

Owns: the margin of a book after a payment, and its distance from the margin before.
-/

namespace Collateral

/-- Putting the value of a key in its place changes nothing that is kept, where the value of a key
that has no entry is not kept either. -/
theorem Table.filter_place_self {κ α : Type} [DecidableEq κ] {key : κ} {absent : α}
    {keep : κ × α → Bool} (leftOut : keep (key, absent) = false) (entries : List (κ × α)) :
    (Table.place key (((entries.find? (·.1 = key)).map Prod.snd).getD absent) entries).filter keep =
      entries.filter keep := by
  induction entries with
  | nil => simp [Table.place, leftOut]
  | cons head rest inductionHypothesis =>
    unfold Table.place
    by_cases same : head.1 = key
    · rw [if_pos same, List.find?_cons_of_pos (by simpa using same), ← same]
      rfl
    · rw [if_neg same, List.find?_cons_of_neg (by simpa using same), List.filter_cons,
        List.filter_cons, inductionHypothesis]

namespace Margin

/-- The margin of a book into which domestic cash has been paid. -/
def withCash [Rounding] (terms : Terms) (book : Book) (cash : Decimal) : Except Failure Decimal := do
  ofBook terms (← book.add terms.domestic cash)

theorem withCash_refines {strict actual : Rounding} (stricter : strict.Stricter actual)
    (terms : Terms) (book : Book) (cash : Decimal) :
    Outcome.Refines (@withCash strict terms book cash) (@withCash actual terms book cash) :=
  (book.add_refines stricter _ _).mapError.bind fun paid => ofBook_refines stricter terms paid

section Exact

variable [Rounding] {terms : Terms} {book : Book} {balance margin cash : Decimal}

/-- A book that has no domestic balance is margined like one with a balance of zero. -/
theorem ofBook_insert_balance (terms : Terms) (book : Book) :
    ofBook terms ⟨book.balances.insert terms.domestic (book.balance terms.domestic)⟩ =
      ofBook terms book := by
  have zeroFlat : (!isFlat 0) = false := by
    rw [isFlat_zero]
    rfl
  have entries : (book.balances.insert terms.domestic (book.balance terms.domestic)).entries.filter
      (fun entry => !isFlat entry.2) = book.balances.entries.filter fun entry => !isFlat entry.2 :=
    Table.filter_place_self zeroFlat book.balances.entries
  rw [ofBook, ofBook, buckets, buckets, entries]

variable [Rounding.Lawful 0]

/-- Without rounding the margin is the exact one at the domestic balance. -/
private theorem exactAt_of_ofBook (par : terms.AtPar)
    (multiplierNonneg : 0 ≤ terms.multiplier.toRat)
    (margined : ofBook terms ⟨book.balances.insert terms.domestic balance⟩ = .ok margin) :
    ∃ others, foreign terms book = .ok others ∧ margin.toRat = exactAt terms others balance := by
  obtain ⟨others, built, near, -⟩ := near_ofBook par multiplierNonneg margined
  exact ⟨others, built, near.eq_of_exact⟩

/-- Cash raises a margin that no calculation rounds by at most the domestic haircut. -/
private theorem withCash_le_of_exact (par : terms.AtPar)
    (multiplierNonneg : 0 ≤ terms.multiplier.toRat) (cashNonneg : 0 ≤ cash.toRat)
    {raised : Decimal} (before : ofBook terms book = .ok margin)
    (after : withCash terms book cash = .ok raised) :
    raised.toRat ≤ margin.toRat + terms.multiplier.toRat * (slot terms).rate.toRat *
      (cash.toRat + 1 / 10 ^ 6) := by
  obtain ⟨paid, added, margined⟩ := Outcome.bind_ok.1 after
  obtain ⟨balance, balanceIs, collected⟩ := Outcome.bind_ok.1 (Outcome.liftArithmetic_ok.1 added)
  rw [← Outcome.pure_ok.1 collected] at margined
  rw [← ofBook_insert_balance] at before
  obtain ⟨others, built, marginIs⟩ := exactAt_of_ofBook par multiplierNonneg before
  obtain ⟨others', built', raisedIs⟩ := exactAt_of_ofBook par multiplierNonneg margined
  obtain rfl := Except.ok.inj (built.symm.trans built')
  have sum : balance.toRat = (book.balance terms.domestic).toRat + cash.toRat :=
    Decimal.toRat_of_add balanceIs
  have ordered : (book.balance terms.domestic).toRat ≤ balance.toRat := by
    rw [sum]
    exact le_add_of_nonneg_right cashNonneg
  have rise := exactAt_le_rate multiplierNonneg built ordered
  rwa [← marginIs, ← raisedIs, sum, add_sub_cancel_left] at rise

end Exact

variable {terms : Terms} {book : Book} {cash margin raised : Decimal}

/-- **Cash raises the margin by at most the domestic haircut** on it and on what is flat, where no
calculation rounds. Where that haircut is zero, cash never raises the margin. -/
theorem withCash_le (par : terms.AtPar) (multiplierNonneg : 0 ≤ terms.multiplier.toRat)
    (cashNonneg : 0 ≤ cash.toRat) (before : ofBook terms book = .ok margin)
    (exactBefore : Rounding.Lossless fun _ => ofBook terms book)
    (after : withCash terms book cash = .ok raised)
    (exactAfter : Rounding.Lossless fun _ => withCash terms book cash) :
    raised.toRat ≤ margin.toRat + terms.multiplier.toRat *
        (terms.haircuts.rate ⟨terms.domestic, terms.domestic⟩).toRat * (cash.toRat + 1 / 10 ^ 6) ∧
      (terms.haircuts.rate ⟨terms.domestic, terms.domestic⟩ = 0 → raised ≤ margin) := by
  have exactlyBefore := exactBefore.exactly
    (ofBook_refines Rounding.exact_stricter terms book) before
  have exactlyAfter := exactAfter.exactly
    (withCash_refines Rounding.exact_stricter terms book cash) after
  let _ : Rounding := Rounding.exact
  have rise : raised.toRat ≤ margin.toRat + terms.multiplier.toRat *
      (terms.haircuts.rate ⟨terms.domestic, terms.domestic⟩).toRat * (cash.toRat + 1 / 10 ^ 6) :=
    withCash_le_of_exact par multiplierNonneg cashNonneg exactlyBefore exactlyAfter
  refine ⟨rise, fun free => ?_⟩
  rwa [free, Decimal.toRat_zero, mul_zero, zero_mul, add_zero, ← Decimal.le_iff] at rise

/-! ## Dollars paid into a debt -/

open Projection (poundHaircuts whole)

private def twoDollars : Spot :=
  ⟨⟨"USD"⟩, Table.ofList [(⟨⟨"EUR"⟩, ⟨"USD"⟩⟩, 2), (⟨⟨"GBP"⟩, ⟨"USD"⟩⟩, 2)]⟩

private def fifthOnDollars : Terms := ⟨⟨"USD"⟩, twoDollars.quotes, poundHaircuts, 2⟩

/-- The pounds do not cover the euros. -/
private def shortOfDollars : Book :=
  ⟨Table.ofList [(⟨"EUR"⟩, -whole 300), (⟨"USD"⟩, -whole 50), (⟨"GBP"⟩, whole 100)]⟩

/-- Eighty dollars pay the debt of fifty. The thirty that are left cover euros, at a fifth. -/
theorem withCash_le_shortOfDollars :
    ofBook fifthOnDollars shortOfDollars = .ok (whole 40) ∧
      withCash fifthOnDollars shortOfDollars (whole 80) = .ok (whole 52) ∧
      (whole 52).toRat ≤ (whole 40).toRat + 2 * (1 / 5) * (80 + 1 / 10 ^ 6) := by
  have par : fifthOnDollars.AtPar := Spot.quotes_atPar (by rw [fifthOnDollars])
  have figures : fifthOnDollars.multiplier.toRat = 2 ∧ (whole 80).toRat = 80 ∧
      (fifthOnDollars.haircuts.rate ⟨fifthOnDollars.domestic, fifthOnDollars.domestic⟩).toRat =
        1 / 5 := by decide +kernel
  obtain ⟨multiplier, cash, rate⟩ := figures
  have before : ofBook fifthOnDollars shortOfDollars = .ok (whole 40) := by decide +kernel
  have after : withCash fifthOnDollars shortOfDollars (whole 80) = .ok (whole 52) := by
    decide +kernel
  have rise := (withCash_le par (by rw [multiplier]; norm_num) (by rw [cash]; norm_num) before
    (Rounding.lossless_of_toBool (by decide +kernel)) after
    (Rounding.lossless_of_toBool (by decide +kernel))).1
  rw [multiplier, cash, rate] at rise
  exact ⟨before, after, rise⟩

end Margin

end Collateral

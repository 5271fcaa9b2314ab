import Collateral.Proofs.MissingPaths
import Collateral.Proofs.Overflows
import Collateral.Settings.Basic

/-!
Contract: what flat balances do to a deposit.

The margin leaves flat balances out before it converts anything. The total from which a deposit is
solved does not: it converts every balance that the book holds. So a book can have a margin and no
deposit, and it has none for want of a path exactly when it holds a flat balance that cannot be
converted. Nothing else that a deposit converts lacks a path once the book has a margin, neither the
balances that are not flat nor, at any point of the search, the book with more cash.

Owns: the currencies that stop a total, and those that stop a deposit for a book with a margin.
-/

namespace Collateral

open Outcome (FailsBy)

namespace Book

/-- A currency without a path of which the book holds an amount that is flat, and may be zero. -/
def StrandsFlat (terms : Terms) (book : Book) (currency : Currency) : Prop :=
  terms.LacksPath currency ∧
    ∃ amount, book.balances.get? currency = some amount ∧ |amount.toRat| < 1 / 10 ^ 6

variable [Rounding] {terms : Terms}

/-- A total is stopped by the balances without a path, whatever their size. -/
theorem totalIn_stoppedBy [SummationOrder] (terms : Terms) (book : Book) :
    StoppedBy terms
      (fun currency => terms.LacksPath currency ∧
        ∃ amount, book.balances.get? currency = some amount)
      (liftM (book.totalIn terms.domestic terms.spot) : Except Failure Decimal) := by
  have rounds : ∀ entry ∈ book.summands, ∀ total : Decimal,
      StoppedBy terms (fun other => other = entry.1 ∧ terms.LacksPath other)
        (liftM (terms.spot.convert entry.2 ⟨entry.1, terms.domestic⟩ >>= fun value =>
          (liftM (total.add value) : Except Spot.ConversionError Decimal)) :
            Except Failure Decimal) := by
    intro entry _ total
    rw [Outcome.liftConversion_bind]
    simp only [Outcome.liftConversion_lift]
    apply ((terms.convert_stoppedBy entry.1 entry.2).bind fun _ _ => .arithmetic _).congr
    intro other
    exact or_iff_left not_false
  rw [totalIn, Outcome.liftConversion_foldlM]
  apply (StoppedBy.foldlM rounds 0).congr
  intro currency
  constructor
  · rintro ⟨⟨holder, amount⟩, member, rfl, lacks⟩
    exact ⟨lacks, amount, Table.get?_eq_some_iff.2 (book.summands_perm.mem_iff.1 member)⟩
  · rintro ⟨lacks, amount, held⟩
    have member := book.summands_perm.mem_iff.2 (Table.get?_eq_some_iff.1 held)
    exact ⟨(currency, amount), member, rfl, lacks⟩

variable {book : Book} {margin : Decimal}

/-- Where there is a margin, a balance without a path is flat. -/
theorem strandsFlat_iff_of_margined (margined : Margin.ofBook terms book = .ok margin)
    (currency : Currency) :
    book.StrandsFlat terms currency ↔
      terms.LacksPath currency ∧ ∃ amount, book.balances.get? currency = some amount := by
  constructor
  · rintro ⟨lacks, amount, held, -⟩
    exact ⟨lacks, amount, held⟩
  · rintro ⟨lacks, amount, held⟩
    have flat : Margin.isFlat (book.balance currency) := by
      by_contra large
      exact (Margin.ofBook_stoppedBy book).clear margin margined currency ⟨lacks, large⟩
    rw [balance, held] at flat
    exact ⟨lacks, amount, held, Margin.isFlat_iff.1 flat⟩

end Book

namespace Deposit

variable {terms : Terms} {book : Book} {margin : Decimal}

/-- A failure that leaves the range of decimals, ends a search or refuses a target, or else names a
currency of a flat balance. -/
private inductive Excused (terms : Terms) (book : Book) : Failure → Prop
  | searched {failure : Failure} (caused : Search.Cause failure) : Excused terms book failure
  | arithmetic (error : Decimal.Error) : Excused terms book (.arithmetic error)
  | refused (target : Float) : Excused terms book (.invalidTarget target)
  | flat (currency : Currency) (strands : book.StrandsFlat terms currency) :
    Excused terms book (.noPath ⟨currency, terms.domestic⟩)

/-- In a book with a margin nothing but its total can want for a path. -/
private theorem solve_excused [Rounding] [SummationOrder] {grain : Rat} [Rounding.Lawful grain]
    (par : terms.AtPar)
    (margined : Margin.ofBook terms book = .ok margin) (target : Float) (effort : Effort) :
    FailsBy (Excused terms book) (solve (Problem.ofTerms terms book) target effort) := by
  have covers : ∀ failure, Search.Cause failure → Excused terms book failure :=
    fun _ => .searched
  apply solve_failsBy covers (fun _ => .refused target)
  case totals =>
    intro failure failed
    cases (book.totalIn_stoppedBy terms).cause failure failed with
    | arithmetic error => exact .arithmetic error
    | noPath currency held =>
      exact .flat currency ((Book.strandsFlat_iff_of_margined margined currency).2 held)
  case margins => exact .of_ok margined
  case residuals =>
    intro total factor cash
    exact (residual_failsBy par margined total factor cash).weaken fun _ overflow =>
      .searched (.inl overflow)

/-- **A book with a margin has no deposit, for want of a path, exactly where it holds a flat balance
that cannot be converted.** The failure names the currency of such a balance, and one of them is
enough to leave every target without a deposit. -/
theorem solve_noPath_iff_strandsFlat [SummationOrder] (par : terms.AtPar)
    (margined : Margin.ofBook terms book = .ok margin) (target : Float) (effort : Effort) :
    (∀ pair, solve (Problem.ofTerms terms book) target effort = .error (.noPath pair) →
      ∃ currency, book.StrandsFlat terms currency ∧ pair = ⟨currency, terms.domestic⟩) ∧
    (∀ currency, book.StrandsFlat terms currency → ∀ cash,
      solve (Problem.ofTerms terms book) target effort ≠ .ok cash) ∧
    ∀ decimal, target? target = some decimal →
      (∀ error, book.totalIn terms.domestic terms.spot ≠ .error (.arithmetic error)) →
      ((∃ pair, solve (Problem.ofTerms terms book) target effort = .error (.noPath pair)) ↔
        ∃ currency, book.StrandsFlat terms currency) := by
  have named : ∀ pair,
      solve (Problem.ofTerms terms book) target effort = .error (.noPath pair) →
        ∃ currency, book.StrandsFlat terms currency ∧ pair = ⟨currency, terms.domestic⟩ := by
    intro pair failed
    obtain caused | error | other | ⟨currency, strands⟩ :=
      solve_excused par margined target effort _ failed
    · rcases caused with ⟨operation, overflow⟩ | ⟨iterations, found, exhausted⟩
      · cases overflow
      · cases exhausted
    · exact ⟨currency, strands, rfl⟩
  have untotaled : ∀ currency, book.StrandsFlat terms currency → ∀ total,
      book.totalIn terms.domestic terms.spot ≠ .ok total := by
    intro currency strands total totaled
    exact (book.totalIn_stoppedBy terms).clear total (Outcome.liftConversion_ok.2 totaled) currency
      ((Book.strandsFlat_iff_of_margined margined currency).1 strands)
  refine ⟨named, ?unsolved, ?exactly⟩
  case unsolved =>
    intro currency strands cash solved
    obtain ⟨-, total, -, -, totaled, -⟩ := solve_ok solved
    exact untotaled currency strands total totaled
  case exactly =>
    intro decimal targetIs inRange
    constructor
    · rintro ⟨pair, failed⟩
      obtain ⟨currency, strands, -⟩ := named pair failed
      exact ⟨currency, strands⟩
    · rintro ⟨currency, strands⟩
      cases totaled : book.totalIn terms.domestic terms.spot with
      | ok total => exact absurd totaled (untotaled currency strands total)
      | error error =>
        cases error with
        | arithmetic error => exact absurd totaled (inRange error)
        | noPath pair =>
          refine ⟨pair, ?_⟩
          rw [solve, targetIs]
          change
            ((liftM (book.totalIn terms.domestic terms.spot) : Except Failure Decimal) >>= _) = _
          rw [totaled]
          rfl

/-! ## Francs without a rate -/

open Projection (tenths whole)

/-- Nothing converts francs. -/
private def euroRates : Spot :=
  ⟨⟨"USD"⟩, Table.ofList [(⟨⟨"EUR"⟩, ⟨"USD"⟩⟩, (tenths 12).value)]⟩

private theorem tenthHaircut_nonneg : 0 ≤ Figure.tenth.value := by decide +kernel

private def tenthOnEuros : Terms where
  domestic := ⟨"USD"⟩
  spot := euroRates
  haircuts := .uniform ⟨"broker"⟩ Figure.tenth.value tenthHaircut_nonneg
  multiplier := 2

private theorem tenthOnEuros_atPar : tenthOnEuros.AtPar := by
  have quoted : tenthOnEuros.spot = euroRates.quotes := by rw [tenthOnEuros]
  exact Spot.quotes_atPar quoted

private theorem lacksPath_francs : tenthOnEuros.LacksPath ⟨"CHF"⟩ := by
  unfold Terms.LacksPath
  decide +kernel

/-- Dollars against a debt in euros, and what is left of francs that have been sold. -/
private def soldFrancs : Book :=
  ⟨Table.ofList [(⟨"USD"⟩, whole 480000), (⟨"EUR"⟩, -whole 250000), (⟨"CHF"⟩, 0)]⟩

/-- Dollars, and a tenth of a millionth of a franc. -/
private def traceOfFrancs : Book :=
  ⟨Table.ofList [(⟨"USD"⟩, whole 1000), (⟨"CHF"⟩, Figure.value ⟨false, 1, 7, by decide⟩)]⟩

/-- The margin of sixty thousand does not see the zero in francs, and the deposit fails for it. -/
theorem solve_noPath_iff_strandsFlat_francs :
    Margin.ofBook tenthOnEuros soldFrancs = .ok (whole 60000) ∧
    soldFrancs.StrandsFlat tenthOnEuros ⟨"CHF"⟩ ∧
    ∃ pair, solve (Problem.ofTerms tenthOnEuros soldFrancs) 0.5 ({} : Settings).search.effort =
      .error (.noPath pair) := by
  have margined : Margin.ofBook tenthOnEuros soldFrancs = .ok (whole 60000) := by decide +kernel
  have targetIs : target? 0.5 = some (Figure.value ⟨false, 5, 1, by decide⟩) := by decide +kernel
  have strands : soldFrancs.StrandsFlat tenthOnEuros ⟨"CHF"⟩ :=
    ⟨lacksPath_francs, 0, by decide +kernel, by decide +kernel⟩
  have inRange : ∀ error, soldFrancs.totalIn tenthOnEuros.domestic tenthOnEuros.spot ≠
      .error (.arithmetic error) := by
    have failed : soldFrancs.totalIn tenthOnEuros.domestic tenthOnEuros.spot =
        .error (.noPath ⟨⟨"CHF"⟩, ⟨"USD"⟩⟩) := by decide +kernel
    rw [failed]
    nofun
  obtain ⟨-, -, exactly⟩ := solve_noPath_iff_strandsFlat tenthOnEuros_atPar margined 0.5
    ({} : Settings).search.effort
  exact ⟨margined, strands, (exactly _ targetIs inRange).2 ⟨⟨"CHF"⟩, strands⟩⟩

/-- A book may have a margin, even one of zero, and fail to convert for its deposit. -/
theorem solve_noPath_with_margin :
    ¬∀ (terms : Terms) (book : Book) (margin : Decimal) (target : Float) (effort : Effort)
      (pair : FxPair), terms.AtPar → (target? target).isSome →
      Margin.ofBook terms book = .ok margin →
      solve (Problem.ofTerms terms book) target effort ≠ .error (.noPath pair) := by
  intro converts
  exact converts tenthOnEuros traceOfFrancs 0 0.5 ({} : Settings).search.effort
    ⟨⟨"CHF"⟩, ⟨"USD"⟩⟩ tenthOnEuros_atPar (by decide +kernel) (by decide +kernel)
    (by decide +kernel)

end Deposit

end Collateral

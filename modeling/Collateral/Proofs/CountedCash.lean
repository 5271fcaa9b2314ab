import Collateral.Proofs.Balances
import Collateral.Proofs.Projected

/-!
Contract: the cash that the two margins of a projected date count.

Before the deposit that is the broker's cash alone, and after it the broker's cash together with all
further cash, each counted once. Where the further cash is nothing but zeros, the second margin is
taken over from the first one instead of computed. Zeros leave every balance as it is, so this does
not show, even where they stand in currencies without a path.

Owns: the balances of the broker's cash and of the combined cash, and both margins of a date as margins
of its positions held together with cash.
-/

namespace Collateral.Projection

/-! ## Balances of cash -/

theorem balance_brokerCash (setting : Setting) (currency : Currency) :
    Book.balance ⟨brokerCash setting⟩ currency =
      if setting.terms.domestic = currency then setting.summary.cash.value else 0 :=
  Book.balance_insert {} _ _ _

/-- Cash of nothing but zeros has no balance. -/
theorem balance_of_all_zero {additional : Table Currency Decimal}
    (zeros : additional.values.all (· = 0)) (currency : Currency) :
    Book.balance ⟨additional⟩ currency = 0 := by
  unfold Book.balance
  cases found : additional.get? currency with
  | none => rfl
  | some amount =>
    have member : amount ∈ additional.values :=
      List.mem_map_of_mem (Table.get?_eq_some_iff.1 found)
    exact of_decide_eq_true (List.all_eq_true.1 zeros amount member)

section Counted

variable [Rounding] {grain : Rat} [Rounding.Lawful grain] {terms : Terms} {summary : Summary}
  {additional cash : Table Currency Decimal} {positions : List FxPosition} {before after : Decimal}

omit [Rounding.Lawful grain] in
/-- Cash is combined as it is booked. -/
private theorem addAll_of_combinedCash {setting : Setting}
    (combined : combinedCash setting additional = .ok cash) :
    Book.addAll ⟨brokerCash setting⟩ additional.entries = .ok ⟨cash⟩ := by
  unfold combinedCash at combined
  unfold Book.addAll
  generalize brokerCash setting = start at combined ⊢
  generalize additional.entries = entries at combined ⊢
  induction entries generalizing start with
  | nil => rw [Outcome.pure_ok.1 combined]; rfl
  | cons entry entries inductionHypothesis =>
    obtain ⟨next, first, rest⟩ := Outcome.foldlM_cons_ok.1 combined
    obtain ⟨sum, summed, collected⟩ := Outcome.bind_ok.1 first
    rw [← Outcome.pure_ok.1 collected] at rest
    have booked : Book.add ⟨start⟩ entry.1 entry.2 = .ok ⟨start.insert entry.1 sum⟩ :=
      Book.add_ok.2 ⟨sum, summed, rfl⟩
    exact Outcome.foldlM_cons_ok.2 ⟨_, booked, inductionHypothesis _ rest⟩

include grain

/-- A balance of the combined cash is the broker's and the further one together. -/
theorem balance_combinedCash {setting : Setting}
    (combined : combinedCash setting additional = .ok cash) (currency : Currency) :
    (Book.balance ⟨brokerCash setting⟩ currency).add (Book.balance ⟨additional⟩ currency) =
      .ok (Book.balance ⟨cash⟩ currency) :=
  Book.balance_of_addAll (addAll_of_combinedCash combined) currency

/-! ## The margin after the deposit -/

/-- Whether or not its computation is skipped, the margin after the deposit is that of the positions
held together with all the cash. -/
theorem ofHoldings_of_marginAfter
    (margined : Calculator.haircut.ofHoldings terms positions
      (brokerCash ⟨.haircut, terms, summary⟩) = .ok before)
    (remargined : marginAfter ⟨.haircut, terms, summary⟩ positions before additional = .ok after)
    (counted : ∀ currency, (Book.balance ⟨brokerCash ⟨.haircut, terms, summary⟩⟩ currency).add
      (Book.balance ⟨additional⟩ currency) = .ok (Book.balance ⟨cash⟩ currency)) :
    Calculator.haircut.ofHoldings terms positions cash = .ok after := by
  unfold marginAfter at remargined
  split at remargined
  next zeros =>
    rw [← Outcome.pure_ok.1 remargined]
    refine Margin.ofHoldings_of_balances (fun currency => ?_) margined
    have unchanged := counted currency
    rw [balance_of_all_zero zeros, Decimal.add_zero_ok] at unchanged
    exact Except.ok.inj unchanged
  next =>
    obtain ⟨all, combined, computed⟩ := Outcome.bind_ok.1 remargined
    refine Margin.ofHoldings_of_balances (fun currency => ?_) computed
    have together := balance_combinedCash (Outcome.liftArithmetic_ok.1 combined) currency
    rw [counted] at together
    exact (Except.ok.inj together).symm

end Counted

/-! ## The runs -/

variable {terms : Terms} {summary : Summary} {asOf : Date} {days : Nat}
  {accounts : List HedgedAccount} {additional : Table Currency Decimal} {points : List Snapshot}
  {point : Snapshot}

/-- **Both margins of a date count the broker's cash once.** Where there are positions, the margin
before the deposit is that of the positions with the broker's cash. The one after it is that of the
positions with any cash that has, of the domestic currency, the sum of the broker's and the further
cash, and otherwise the further cash, in whatever order and with whatever zeros. -/
theorem before_after_eq_ofHoldings
    (ran : run ⟨.haircut, terms, summary⟩ asOf days accounts additional = .ok points)
    (member : point ∈ points) (hedged : point.positions ≠ []) :
    Calculator.haircut.ofHoldings terms point.positions
        (Table.empty.insert terms.domestic summary.cash.value) = .ok point.before ∧
      ∃ sum, summary.cash.value.add ((additional.get? terms.domestic).getD 0) = .ok sum ∧
        ∀ cash : Table Currency Decimal, cash.get? terms.domestic = some sum →
          (∀ currency, currency ≠ terms.domestic →
            cash.get? currency = additional.get? currency) →
          Calculator.haircut.ofHoldings terms point.positions cash = .ok point.after := by
  obtain ⟨held, -, taken⟩ := exists_hedge_of_mem_run ran member
  have positions : point.positions = held.positions := (snapshot_ok taken).2.2
  rw [positions] at hedged ⊢
  obtain ⟨margined, remargined, sum, summed, -⟩ := snapshot_hedged hedged taken
  refine ⟨margined, sum, summed, ?_⟩
  intro cash domestic foreign
  apply ofHoldings_of_marginAfter margined remargined
  intro currency
  rw [balance_brokerCash]
  by_cases same : terms.domestic = currency
  · subst same
    rw [if_pos rfl]
    simp only [Book.balance, domestic, Option.getD_some]
    exact summed
  · have alike := foreign currency (Ne.symm same)
    rw [if_neg same, Decimal.zero_add_ok]
    simp only [Book.balance, alike]

/-! ## Cash with zeros in a currency that nothing converts -/

private def pounds : Terms where
  domestic := ⟨"USD"⟩
  spot := Spot.quotes ⟨⟨"USD"⟩, Table.ofList [(⟨⟨"GBP"⟩, ⟨"USD"⟩⟩, 2)]⟩
  haircuts := poundHaircuts
  multiplier := 2

private def hundredPounds : List HedgedAccount :=
  [⟨⟨"pounds"⟩, 1, .ofEntries [⟨day 11, [(⟨"GBP"⟩, whole 100)]⟩]⟩]

private def fiftyDollars : Summary := { cash := figure false 50 }

private def nothing : Table Currency Decimal :=
  (Table.empty.insert ⟨"ZAR"⟩ 0).insert ⟨"USD"⟩ 0

/-- Dollars are taken out and pounds paid in, besides nothing of a currency without a path. -/
private def moved : Table Currency Decimal :=
  ((Table.empty.insert ⟨"ZAR"⟩ 0).insert ⟨"USD"⟩ (-whole 30)).insert ⟨"GBP"⟩ (whole 5)

/-- The zeros are skipped at first, and booked for the second deposit. Both margins after the deposit
are those of all the cash, listed in another order. -/
theorem before_after_eq_ofHoldings_zeros :
    (∃ point, run ⟨.haircut, pounds, fiftyDollars⟩ (day 10) 5 hundredPounds nothing = .ok [point] ∧
      (point.before.toRat, point.after.toRat) = (30, 30) ∧
      Calculator.haircut.ofHoldings pounds point.positions
        ((Table.empty.insert ⟨"USD"⟩ (whole 50)).insert ⟨"ZAR"⟩ 0) = .ok point.after) ∧
    ∃ point, run ⟨.haircut, pounds, fiftyDollars⟩ (day 10) 5 hundredPounds moved = .ok [point] ∧
      (point.before.toRat, point.after.toRat) = (30, 36) ∧
      Calculator.haircut.ofHoldings pounds point.positions
        (((Table.empty.insert ⟨"GBP"⟩ (whole 5)).insert ⟨"USD"⟩ (whole 20)).insert ⟨"ZAR"⟩ 0) =
          .ok point.after := by
  have figures (additional : Table Currency Decimal) (margins : Rat × Rat)
      (decided : (run ⟨.haircut, pounds, fiftyDollars⟩ (day 10) 5 hundredPounds additional).map
        (List.map fun point => decide (point.positions ≠ [] ∧
          (point.before.toRat, point.after.toRat) = margins)) = .ok [true]) :
      ∃ point, run ⟨.haircut, pounds, fiftyDollars⟩ (day 10) 5 hundredPounds additional =
        .ok [point] ∧ point.positions ≠ [] ∧
          (point.before.toRat, point.after.toRat) = margins := by
    obtain ⟨points, ran, read⟩ := Outcome.map_ok.1 decided
    obtain ⟨point, rfl, holds⟩ := List.map_eq_singleton_iff.1 read
    exact ⟨point, ran, of_decide_eq_true holds⟩
  constructor
  · obtain ⟨point, ran, hedged, margins⟩ := figures nothing (30, 30) (by decide +kernel)
    obtain ⟨-, sum, summed, counted⟩ :=
      before_after_eq_ofHoldings ran List.mem_cons_self hedged
    have fifty : fiftyDollars.cash.value.add
        ((nothing.get? pounds.domestic).getD 0) = .ok (whole 50) := by decide +kernel
    obtain rfl := Except.ok.inj (summed.symm.trans fifty)
    refine ⟨point, ran, margins, counted _ (by decide +kernel) ?_⟩
    intro currency apart
    have notDollars : ¬(⟨"USD"⟩ : Currency) = currency := Ne.symm apart
    simp [nothing, Table.get?_insert, notDollars]
  · obtain ⟨point, ran, hedged, margins⟩ := figures moved (30, 36) (by decide +kernel)
    obtain ⟨-, sum, summed, counted⟩ :=
      before_after_eq_ofHoldings ran List.mem_cons_self hedged
    have twenty : fiftyDollars.cash.value.add
        ((moved.get? pounds.domestic).getD 0) = .ok (whole 20) := by decide +kernel
    obtain rfl := Except.ok.inj (summed.symm.trans twenty)
    refine ⟨point, ran, margins, counted _ (by decide +kernel) ?_⟩
    intro currency apart
    have notDollars : ¬(⟨"USD"⟩ : Currency) = currency := Ne.symm apart
    by_cases rand : (⟨"ZAR"⟩ : Currency) = currency
    · subst rand
      decide +kernel
    · simp [moved, Table.get?_insert, notDollars, rand]

end Collateral.Projection

import Collateral.Proofs.CheapestCover
import Collateral.Proofs.DomesticCash
import Collateral.Proofs.Projected

/-!
Contract: what a deposit does to the projected margin of a funded account.

Cash can raise a margin where it covers debt that had no cover before. The positions of a projected
date are worth nothing together, so with broker cash that is not negative all debt of the date has
cover already. More cash then takes the place of collateral that costs no less, or pays a debt, and
the margin does not rise, whatever the domestic haircut.

Owns: books without dust, the net worth of the foreign side of a book, and the margin of a date
before and after a deposit.
-/

namespace Collateral

/-- No balance is flat unless it is zero. -/
def Book.Dustless (book : Book) : Prop :=
  ∀ entry ∈ book.balances.entries, Margin.isFlat entry.2 → entry.2 = 0

instance (book : Book) : Decidable book.Dustless :=
  inferInstanceAs (Decidable (∀ entry ∈ book.balances.entries, _ → _))

/-- Setting an entry again replaces it. -/
theorem Table.insert_insert_empty {κ α : Type} [DecidableEq κ] (key : κ) (first second : α) :
    (Table.empty.insert key first).insert key second = Table.empty.insert key second := by
  simp [Table.insert, Table.place, Table.empty]

/-- Setting an entry puts it into a table and leaves those of other keys. -/
theorem Table.mem_insert {κ α : Type} [DecidableEq κ] {table : Table κ α} {key : κ} {value : α}
    {entry : κ × α} :
    entry ∈ (table.insert key value).entries ↔
      entry = (key, value) ∨ entry ∈ table.entries ∧ entry.1 ≠ key := by
  rw [insert, (Table.place_perm key value table.distinct).mem_iff, List.mem_cons, List.mem_filter,
    decide_eq_true_iff]

/-! ## The foreign side of a book -/

namespace Margin

section Exact

variable [Rounding] [Rounding.Lawful 0] {terms : Terms} {book : Book} {others : List Bucket}

/-- Without dust the foreign buckets are worth what the book is, less its domestic balance. -/
theorem net_foreign_eq (par : terms.AtPar)
    (dustless : ∀ entry ∈ book.balances.entries, entry.1 ≠ terms.domestic →
      isFlat entry.2 → entry.2 = 0)
    (built : foreign terms book = .ok others) :
    Netting.net others =
      book.atRates terms.spot terms.domestic - (book.balance terms.domestic).toRat := by
  have values : others.map (fun bucket => bucket.value.toRat) =
      (book.balances.entries.filter fun entry => entry.1 ≠ terms.domestic && !isFlat entry.2).map
        (exactWorth terms) := by
    apply Outcome.map_of_mapM _ built
    intro entry result done
    obtain ⟨-, -, converted⟩ := bucket_ok.1 done
    have near := worthOf_near converted
    rwa [zero_mul, abs_nonpos_iff, sub_eq_zero, worthOf_ok converted] at near
  -- What is flat is zero, and counts for nothing.
  have flat : ((book.balances.entries.filter fun entry =>
      entry.1 ≠ terms.domestic && isFlat entry.2).map (exactWorth terms)).sum = 0 := by
    apply List.sum_eq_zero
    intro worth member
    obtain ⟨entry, kept, rfl⟩ := List.mem_map.1 member
    obtain ⟨entryMember, chosen⟩ := List.mem_filter.1 kept
    obtain ⟨isForeign, entryFlat⟩ := Bool.and_eq_true_iff.1 chosen
    rw [exactWorth, dustless entry entryMember (of_decide_eq_true isForeign) entryFlat,
      Decimal.toRat_zero, mul_zero]
  have domestic : exactWorth terms (terms.domestic, book.balance terms.domestic) =
      (book.balance terms.domestic).toRat := by
    rw [exactWorth, par.rateOf, one_mul]
  have total : book.atRates terms.spot terms.domestic =
      (book.balances.entries.map (exactWorth terms)).sum := rfl
  rw [Netting.net, values, total, book.sum_eq_add terms.domestic (by simp [exactWorth]), domestic,
    flat, add_zero, add_sub_cancel_left]

/-- Where cash covers what the other balances of a book lack, more of it does not raise the
margin. -/
theorem ofBook_insert_le (par : terms.AtPar) (multiplierNonneg : 0 ≤ terms.multiplier.toRat)
    {balance balance' margin margin' : Decimal}
    (dustless : Book.Dustless ⟨book.balances.insert terms.domestic balance⟩)
    (covered : (book.balance terms.domestic).toRat ≤
      book.atRates terms.spot terms.domestic + balance.toRat)
    (ordered : balance.toRat ≤ balance'.toRat)
    (before : ofBook terms ⟨book.balances.insert terms.domestic balance⟩ = .ok margin)
    (after : ofBook terms ⟨book.balances.insert terms.domestic balance'⟩ = .ok margin') :
    margin' ≤ margin := by
  obtain ⟨others, built, near, -⟩ := near_ofBook par multiplierNonneg before
  obtain ⟨others', built', near', -⟩ := near_ofBook par multiplierNonneg after
  obtain rfl := Except.ok.inj (built.symm.trans built')
  have net := net_foreign_eq par
    (fun entry member apart => dustless entry (Table.mem_insert.2 (.inr ⟨member, apart⟩))) built
  have settledIs : settled balance = balance.toRat := by
    unfold settled
    split
    next flat =>
      have nothing : balance = 0 := dustless _ (Table.mem_insert.2 (.inl rfl)) flat
      rw [nothing, Decimal.toRat_zero]
    next => rfl
  have level := Netting.level_le (slot_rate_bounds terms).1 (foreign_bounded built)
    (settled_mono ordered)
  rw [settledIs, net, max_eq_left (by linarith), mul_zero, add_zero, ← settledIs] at level
  rw [Decimal.le_iff, near.eq_of_exact, near'.eq_of_exact]
  exact mul_le_mul_of_nonneg_left level multiplierNonneg

end Exact

end Margin

/-! ## Positions held together with domestic cash -/

theorem Book.ofHoldings_single_ok [Rounding] {positions : List FxPosition} {currency : Currency}
    {cash : Decimal} {book : Book} :
    Book.ofHoldings positions (Table.empty.insert currency cash) = .ok book ↔
      ∃ held balance, Book.ofPositions positions = .ok held ∧
        (held.balance currency).add cash = .ok balance ∧
        book = ⟨held.balances.insert currency balance⟩ := by
  have entries : (Table.empty.insert currency cash).entries = [(currency, cash)] := rfl
  simp only [Book.ofHoldings, entries, Book.addAll, Book.add, List.foldlM_cons, List.foldlM_nil,
    bind_pure, Outcome.bind_ok, Outcome.pure_ok]
  constructor
  · rintro ⟨held, booked, balance, added, rfl⟩
    exact ⟨held, balance, booked, added, rfl⟩
  · rintro ⟨held, balance, booked, added, rfl⟩
    exact ⟨held, booked, balance, added, rfl⟩

/-- More domestic cash beside positions at the rates of their pairs does not raise the margin, where
the cash is not negative. -/
theorem Margin.ofHoldings_le [Rounding] [Rounding.Lawful 0] {terms : Terms}
    {positions : List FxPosition} {cash more margin margin' : Decimal} (par : terms.AtPar)
    (multiplierNonneg : 0 ≤ terms.multiplier.toRat)
    (priced : ∀ position ∈ positions, position.Priced terms)
    (cashNonneg : 0 ≤ cash.toRat) (ordered : cash.toRat ≤ more.toRat)
    (dustless : ∀ book, Book.ofHoldings positions (Table.empty.insert terms.domestic cash) =
      .ok book → book.Dustless)
    (before : Calculator.haircut.ofHoldings terms positions
      (Table.empty.insert terms.domestic cash) = .ok margin)
    (after : Calculator.haircut.ofHoldings terms positions
      (Table.empty.insert terms.domestic more) = .ok margin') : margin' ≤ margin := by
  obtain ⟨book, booked, margined⟩ := Outcome.bind_ok.1 before
  obtain ⟨book', booked', margined'⟩ := Outcome.bind_ok.1 after
  rw [Outcome.liftArithmetic_ok] at booked booked'
  have clean := dustless book booked
  obtain ⟨held, balance, positioned, added, rfl⟩ := Book.ofHoldings_single_ok.1 booked
  obtain ⟨held', balance', positioned', added', rfl⟩ := Book.ofHoldings_single_ok.1 booked'
  obtain rfl := Except.ok.inj (positioned.symm.trans positioned')
  -- What the positions bring in on one side they cost on the other.
  have nothing : held.atRates terms.spot terms.domestic = 0 :=
    (Book.holds_empty.addPositions par priced positioned).worth_near.eq_of_exact
  have balanceIs : balance.toRat = (held.balance terms.domestic).toRat + cash.toRat :=
    Decimal.toRat_of_add added
  have balanceIs' : balance'.toRat = (held.balance terms.domestic).toRat + more.toRat :=
    Decimal.toRat_of_add added'
  exact Margin.ofBook_insert_le par multiplierNonneg clean (by linarith) (by linarith) margined
    margined'

/-! ## The margins of a date -/

namespace Projection

section Cash

variable [Rounding] {setting : Setting} {additional : Table Currency Decimal}

/-- Domestic cash that is not negative adds up to no less than the broker's cash. -/
theorem combinedCash_domestic [Rounding.Lawful 0] {cash : Table Currency Decimal}
    (onlyDomestic : ∀ entry ∈ additional.entries, entry.1 = setting.terms.domestic)
    (nonneg : ∀ entry ∈ additional.entries, 0 ≤ entry.2)
    (combined : combinedCash setting additional = .ok cash) :
    ∃ amount, cash = Table.empty.insert setting.terms.domestic amount ∧
      setting.summary.cash.value.toRat ≤ amount.toRat := by
  unfold combinedCash brokerCash at combined
  generalize setting.summary.cash.value = start at combined ⊢
  generalize additional.entries = entries at onlyDomestic nonneg combined
  induction entries generalizing start with
  | nil =>
    rw [← Outcome.pure_ok.1 combined]
    exact ⟨start, rfl, le_rfl⟩
  | cons entry entries inductionHypothesis =>
    obtain ⟨next, first, rest⟩ := Outcome.foldlM_cons_ok.1 combined
    obtain ⟨sum, added, collected⟩ := Outcome.bind_ok.1 first
    rw [onlyDomestic entry List.mem_cons_self, Table.get?_insert, if_pos rfl] at added
    rw [← Outcome.pure_ok.1 collected, onlyDomestic entry List.mem_cons_self,
      Table.insert_insert_empty] at rest
    have sumIs : sum.toRat = start.toRat + entry.2.toRat :=
      Decimal.toRat_of_add added
    have entryNonneg := Decimal.le_iff.1 (nonneg entry List.mem_cons_self)
    rw [Decimal.toRat_zero] at entryNonneg
    obtain ⟨amount, cashIs, startLe⟩ := inductionHypothesis sum
      (fun other member => onlyDomestic other (List.mem_cons_of_mem entry member))
      (fun other member => nonneg other (List.mem_cons_of_mem entry member)) rest
    exact ⟨amount, cashIs, by linarith⟩

/-- Further domestic cash that is not negative does not raise the margin of a funded date. -/
theorem marginAfter_le [Rounding.Lawful 0] {terms : Terms} {summary : Summary}
    {positions : List FxPosition} {before after : Decimal} (par : terms.AtPar)
    (multiplierNonneg : 0 ≤ terms.multiplier.toRat)
    (priced : ∀ position ∈ positions, position.Priced terms)
    (funded : 0 ≤ summary.cash.value.toRat)
    (onlyDomestic : ∀ entry ∈ additional.entries, entry.1 = terms.domestic)
    (nonneg : ∀ entry ∈ additional.entries, 0 ≤ entry.2)
    (dustless : ∀ book, Book.ofHoldings positions
      (Table.empty.insert terms.domestic summary.cash.value) = .ok book → book.Dustless)
    (margined : Calculator.haircut.ofHoldings terms positions
      (Table.empty.insert terms.domestic summary.cash.value) = .ok before)
    (margined' : marginAfter ⟨.haircut, terms, summary⟩ positions before additional = .ok after) :
    after ≤ before := by
  unfold marginAfter at margined'
  split at margined'
  next => exact (Outcome.pure_ok.1 margined') ▸ Decimal.le_iff.2 le_rfl
  next =>
    obtain ⟨cash, combined, remargined⟩ := Outcome.bind_ok.1 margined'
    obtain ⟨amount, rfl, ordered⟩ :=
      combinedCash_domestic onlyDomestic nonneg (Outcome.liftArithmetic_ok.1 combined)
    exact Margin.ofHoldings_le par multiplierNonneg priced funded ordered dustless margined
      remargined

end Cash

/-! ## The runs -/

/-- The margins of a date lose nothing to rounding, and no dust is left out of them. -/
structure MarginedExactly (terms : Terms) (summary : Summary)
    (additional : Table Currency Decimal) (point : Snapshot) : Prop where
  before : Rounding.Lossless fun _ => Calculator.haircut.ofHoldings terms point.positions
    (Table.empty.insert terms.domestic summary.cash.value)
  after : Rounding.Lossless fun _ =>
    marginAfter ⟨.haircut, terms, summary⟩ point.positions point.before additional
  dustless : ∀ book, Book.ofHoldings point.positions
    (Table.empty.insert terms.domestic summary.cash.value) = .ok book → book.Dustless

instance (terms : Terms) (summary : Summary) (additional : Table Currency Decimal)
    (point : Snapshot) : Decidable (MarginedExactly terms summary additional point) :=
  decidable_of_iff (_ ∧ _ ∧ _) ⟨fun ⟨before, after, dustless⟩ => ⟨before, after, dustless⟩,
    fun exactly => ⟨exactly.before, exactly.after, exactly.dustless⟩⟩

variable {terms : Terms} {summary : Summary} {asOf : Date} {days : Nat}
  {accounts : List HedgedAccount} {additional : Table Currency Decimal} {points : List Snapshot}
  {point : Snapshot}

/-- **A deposit never raises the projected margin of a funded account**, whatever the haircuts, and
that of the domestic currency too. -/
theorem after_le_before (par : terms.AtPar) (multiplierNonneg : 0 ≤ terms.multiplier)
    (funded : 0 ≤ summary.cash.value)
    (onlyDomestic : ∀ entry ∈ additional.entries, entry.1 = terms.domestic)
    (nonneg : ∀ entry ∈ additional.entries, 0 ≤ entry.2)
    (ran : run ⟨.haircut, terms, summary⟩ asOf days accounts additional = .ok points)
    (member : point ∈ points)
    (exactly : point.positions ≠ [] → MarginedExactly terms summary additional point) :
    point.after ≤ point.before := by
  obtain ⟨held, hedged, taken⟩ := exists_hedge_of_mem_run ran member
  have positions : point.positions = held.positions := (snapshot_ok taken).2.2
  by_cases none : held.positions = []
  · rw [snapshot_idle none taken]
    exact Decimal.le_iff.2 le_rfl
  · obtain ⟨losslessBefore, losslessAfter, dustless⟩ := exactly (positions ▸ none)
    obtain ⟨before, after, -⟩ := snapshot_hedged none taken
    rw [← positions] at before after
    have exactBefore := losslessBefore.exactly
      (Margin.ofHoldings_refines Rounding.exact_stricter terms _ _) before
    have exactAfter := losslessAfter.exactly
      (marginAfter_refines Rounding.exact_stricter terms summary additional _ _) after
    have priced : ∀ position ∈ point.positions, position.Priced terms :=
      positions ▸ hedge_priced hedged
    have exactDustless : ∀ book, @Book.ofHoldings Rounding.exact point.positions
        (Table.empty.insert terms.domestic summary.cash.value) = .ok book → book.Dustless :=
      fun book booked => dustless book
        (Book.ofHoldings_refines Rounding.exact_stricter _ _ book booked)
    rw [Decimal.le_iff, Decimal.toRat_zero] at multiplierNonneg funded
    let _ : Rounding := Rounding.exact
    exact marginAfter_le par multiplierNonneg priced funded onlyDomestic nonneg exactDustless
      exactBefore exactAfter

/-! ## Dollars that cost more than the pounds they free -/

/-- Dollars are domestic and take a fifth, pounds a tenth. -/
private def dearDollars : Terms where
  domestic := ⟨"USD"⟩
  spot := Spot.quotes ⟨⟨"USD"⟩, Table.ofList [(⟨⟨"GBP"⟩, ⟨"USD"⟩⟩, 2),
    (⟨⟨"EUR"⟩, ⟨"USD"⟩⟩, (tenths 15).value)]⟩
  haircuts := poundHaircuts
  multiplier := 2

/-- Pounds bought for dollars on the first date, and euros sold for them on the second. -/
private def boughtPounds : List HedgedAccount := [⟨⟨"pounds"⟩, 1, .ofEntries [
  ⟨day 11, [(⟨"GBP"⟩, whole 100)]⟩, ⟨day 12, [(⟨"GBP"⟩, whole 60), (⟨"EUR"⟩, -whole 100)]⟩]⟩]

private def fifty : Summary := { cash := figure false 50 }

private def hundred : Table Currency Decimal := Table.empty.insert ⟨"USD"⟩ (whole 100)

/-- The deposit pays a dollar debt on the first date. On the second there is none, and the dollars
stay where they cost nothing. -/
theorem after_le_before_dearDollars :
    ∃ points,
      run ⟨.haircut, dearDollars, fifty⟩ (day 10) 5 boughtPounds hundred = .ok points ∧
      points.map (fun point => (point.before.toRat, point.after.toRat)) = [(30, 10), (36, 36)] ∧
      ∀ point ∈ points, point.after ≤ point.before := by
  have par : dearDollars.AtPar := Spot.quotes_atPar (by rw [dearDollars])
  have figures : (run ⟨.haircut, dearDollars, fifty⟩ (day 10) 5 boughtPounds hundred).map
      (fun points => decide (
        points.map (fun point => (point.before.toRat, point.after.toRat)) =
            [(30, 10), (36, 36)] ∧
          ∀ point ∈ points, MarginedExactly dearDollars fifty hundred point)) = .ok true := by
    decide +kernel
  obtain ⟨points, ran, read⟩ := Outcome.map_ok.1 figures
  obtain ⟨margins, exactly⟩ := of_decide_eq_true read
  exact ⟨points, ran, margins, fun point member => after_le_before par (by decide +kernel)
    (by decide +kernel) (by decide +kernel) (by decide +kernel) ran member
    fun _ => exactly point member⟩

end Projection

end Collateral

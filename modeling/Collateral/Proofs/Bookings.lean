import Collateral.Proofs.Books

/-!
Contract: what a book is worth that amounts have been booked in.

Every booking moves the worth of a book by the amount at its rate, but for one rounding. A position
that was taken at the rate of its pair moves it not at all: what its base side brings in, its quote
side costs. So the book on which deposits are solved is worth the cash in it.

Owns: the exact worth at rates, how bookings move it, and the worth of positions together with cash.
-/

namespace Collateral

section Rates

/-- The exact rate of a currency in another one; nothing, where there is no path. -/
def rateOf (spot : Quotes) (domestic currency : Currency) : Rat :=
  match spot.rate ⟨currency, domestic⟩ with
  | .ok rate => rate.toRat
  | .error _ => 0

/-- What an amount of a currency counts for when bookings are measured. -/
def weightOf (spot : Quotes) (domestic : Currency) (entry : Currency × Rat) : Rat :=
  |rateOf spot domestic entry.1| * (1 + |entry.2|)

namespace Book

/-- The worth of a book at exact rates. -/
def atRates (book : Book) (spot : Quotes) (domestic : Currency) : Rat :=
  (book.balances.entries.map fun entry => rateOf spot domestic entry.1 * entry.2.toRat).sum

/-- What a book counts for when bookings are measured. -/
def weight (book : Book) (spot : Quotes) (domestic : Currency) : Rat :=
  (book.balances.entries.map fun entry => weightOf spot domestic (entry.1, entry.2.toRat)).sum

end Book

end Rates

/-- A sum over the entries of a table after one of them has been set. -/
theorem Table.sum_insert {κ α : Type} [DecidableEq κ] (table : Table κ α) (key : κ) (value : α)
    (amount : κ × α → Rat) :
    ((table.insert key value).entries.map amount).sum +
        (table.entries.find? (·.1 = key)).elim 0 amount =
      (table.entries.map amount).sum + amount (key, value) := by
  have arranged := ((Table.place_perm key value table.distinct).map amount).sum_eq
  have parts := Table.sum_eq_add_sum_filter key amount table.distinct
  rw [Table.insert, arranged, List.map_cons, List.sum_cons, parts]
  ring

/-- What a number of bookings come to in a book: the exact worth of what was booked, what it counts
for, and the roundings it went through. -/
structure Book.Holds (grain : Rat) (spot : Quotes) (domestic : Currency) (roundings : Nat)
    (weight exact : Rat) (book : Book) : Prop where
  worth_near : Near grain roundings weight (book.atRates spot domestic) exact
  weight_le : book.weight spot domestic ≤ (1 + grain) ^ roundings * weight
  entries_le : book.balances.entries.length ≤ roundings

section Entry

variable {grain : Rat} {spot : Quotes} {domestic : Currency}

theorem Book.holds_empty : ({} : Book).Holds grain spot domestic 0 0 0 where
  worth_near := Near.refl grain 0 0
  weight_le := by simp [Book.weight, Table.empty]
  entries_le := Nat.le_refl 0

theorem weightOf_nonneg (entry : Currency × Rat) : 0 ≤ weightOf spot domestic entry :=
  mul_nonneg (abs_nonneg _) (by positivity)

theorem Book.weight_nonneg (book : Book) (spot : Quotes) (domestic : Currency) :
    0 ≤ book.weight spot domestic := by
  apply List.sum_nonneg
  intro size member
  obtain ⟨entry, -, rfl⟩ := List.mem_map.1 member
  exact weightOf_nonneg _

private theorem elim_weight (spot : Quotes) (domestic : Currency) (book : Book)
    (currency : Currency) :
    |rateOf spot domestic currency| * |(book.balance currency).toRat| ≤
        (book.balances.entries.find? (·.1 = currency)).elim 0
          (fun entry => weightOf spot domestic (entry.1, entry.2.toRat)) ∧
      (book.balances.entries.find? (·.1 = currency)).elim 0
          (fun entry => weightOf spot domestic (entry.1, entry.2.toRat)) ≤
        book.weight spot domestic := by
  have nonneg : ∀ size ∈ book.balances.entries.map
      fun entry => weightOf spot domestic (entry.1, entry.2.toRat), 0 ≤ size := by
    intro size member
    obtain ⟨entry, -, rfl⟩ := List.mem_map.1 member
    exact weightOf_nonneg _
  unfold Book.balance Table.get?
  cases found : book.balances.entries.find? (·.1 = currency) with
  | none => exact ⟨by simp, List.sum_nonneg nonneg⟩
  | some entry =>
    have same : entry.1 = currency := by simpa using List.find?_some found
    refine ⟨?_, List.single_le_sum nonneg _
      (List.mem_map.2 ⟨entry, List.mem_of_find?_eq_some found, rfl⟩)⟩
    rw [← same]
    exact mul_le_mul_of_nonneg_left (by simp) (abs_nonneg _)

private theorem atRates_insert (book : Book) (currency : Currency) (balance : Decimal) :
    Book.atRates ⟨book.balances.insert currency balance⟩ spot domestic =
      book.atRates spot domestic + rateOf spot domestic currency *
        (balance.toRat - (book.balance currency).toRat) := by
  have sum := Table.sum_insert book.balances currency balance
    fun entry => rateOf spot domestic entry.1 * entry.2.toRat
  rw [book.elim_find? currency (by simp)] at sum
  unfold Book.atRates
  linarith

private theorem weight_insert_le (spot : Quotes) (domestic : Currency) (book : Book)
    (currency : Currency) (balance : Decimal) :
    Book.weight ⟨book.balances.insert currency balance⟩ spot domestic ≤
      book.weight spot domestic + |rateOf spot domestic currency| *
        (1 + |balance.toRat| - |(book.balance currency).toRat|) := by
  have sum := Table.sum_insert book.balances currency balance
    fun entry => weightOf spot domestic (entry.1, entry.2.toRat)
  have part := (elim_weight spot domestic book currency).1
  rw [weightOf] at sum
  unfold Book.weight
  linarith

private theorem length_insert_le (book : Book) (currency : Currency) (balance : Decimal) :
    (book.balances.insert currency balance).entries.length ≤ book.balances.entries.length + 1 := by
  have arranged := (Table.place_perm currency balance book.balances.distinct).length_eq
  rw [Table.insert, arranged, List.length_cons]
  exact Nat.succ_le_succ (List.length_filter_le _ _)

/-- An amount some roundings away from exact, at its rate. -/
private theorem weightOf_near (spot : Quotes) (domestic currency : Currency) {within : Nat}
    {amount exactAmount : Rat}
    (near : Near grain within (1 + |exactAmount|) amount exactAmount) :
    |rateOf spot domestic currency| * |amount - exactAmount| ≤
        drift grain within * weightOf spot domestic (currency, exactAmount) ∧
      |rateOf spot domestic currency| * (1 + |amount|) ≤
        (1 + grain) ^ within * weightOf spot domestic (currency, exactAmount) := by
  have rateNonneg : 0 ≤ |rateOf spot domestic currency| := abs_nonneg _
  have reach : 1 + |amount| ≤ (1 + grain) ^ within * (1 + |exactAmount|) := by
    rw [← one_add_drift, one_add_mul]
    linarith [near.abs_le]
  constructor
  · calc |rateOf spot domestic currency| * |amount - exactAmount|
        ≤ |rateOf spot domestic currency| * (drift grain within * (1 + |exactAmount|)) :=
          mul_le_mul_of_nonneg_left near rateNonneg
      _ = drift grain within * weightOf spot domestic (currency, exactAmount) := by
          rw [weightOf]
          ring
  · calc |rateOf spot domestic currency| * (1 + |amount|)
        ≤ |rateOf spot domestic currency| * ((1 + grain) ^ within * (1 + |exactAmount|)) :=
          mul_le_mul_of_nonneg_left reach rateNonneg
      _ = (1 + grain) ^ within * weightOf spot domestic (currency, exactAmount) := by
          rw [weightOf]
          ring

end Entry

variable [Rounding] {grain : Rat} [Rounding.Lawful grain] {spot : Quotes} {domestic : Currency}

theorem Book.Holds.weight_nonneg {roundings : Nat} {weight exact : Rat} {book : Book}
    (holds : book.Holds grain spot domestic roundings weight exact) : 0 ≤ weight := by
  have grainNonneg : 0 ≤ grain := Rounding.Lawful.grain_nonneg
  have positive : 0 < (1 + grain) ^ roundings := by positivity
  have scaled : 0 ≤ (1 + grain) ^ roundings * weight :=
    (book.weight_nonneg spot domestic).trans holds.weight_le
  exact nonneg_of_mul_nonneg_right scaled positive

/-- One more booking, of an amount that is itself some roundings away from exact. -/
theorem Book.Holds.add {roundings within : Nat} {weight exact : Rat} {book result : Book}
    (holds : book.Holds grain spot domestic roundings weight exact) {currency : Currency}
    {amount : Decimal} {exactAmount : Rat}
    (amountNear : Near grain within (1 + |exactAmount|) amount.toRat exactAmount)
    (added : book.add currency amount = .ok result) :
    result.Holds grain spot domestic (roundings + within + 1)
      (weight + weightOf spot domestic (currency, exactAmount))
      (exact + rateOf spot domestic currency * exactAmount) := by
  have grainNonneg : 0 ≤ grain := Rounding.Lawful.grain_nonneg
  have rateNonneg : 0 ≤ |rateOf spot domestic currency| := abs_nonneg _
  obtain ⟨balance, summed, collected⟩ := Outcome.bind_ok.1 added
  rw [← Outcome.pure_ok.1 collected]
  have moved := mul_le_mul_of_nonneg_left (Rounding.Lawful.fit_error (Decimal.add_ok.1 summed))
    rateNonneg
  have parts := mul_le_mul_of_nonneg_left
    (abs_add_le (book.balance currency).toRat amount.toRat) rateNonneg
  obtain ⟨partLe, wholeLe⟩ := elim_weight spot domestic book currency
  obtain ⟨offLe, bookedLe⟩ := weightOf_near spot domestic currency amountNear
  have weightLe := holds.weight_le
  -- What is rounded weighs no more than the book and the amount together.
  have rounded : |rateOf spot domestic currency| *
      (grain * (1 + |(book.balance currency).toRat + amount.toRat|)) ≤
        grain * ((1 + grain) ^ roundings * weight +
          (1 + grain) ^ within * weightOf spot domestic (currency, exactAmount)) := by
    rw [mul_left_comm]
    apply mul_le_mul_of_nonneg_left _ grainNonneg
    linarith
  -- Both have one more rounding to grow by.
  have grown : (1 + grain) ^ roundings * (1 + grain) * weight ≤
      (1 + grain) ^ (roundings + within + 1) * weight := by
    rw [← pow_succ]
    apply mul_le_mul_of_nonneg_right _ holds.weight_nonneg
    exact pow_le_pow_right₀ (by linarith) (by omega)
  have grown' : (1 + grain) ^ within * (1 + grain) *
      weightOf spot domestic (currency, exactAmount) ≤
        (1 + grain) ^ (roundings + within + 1) * weightOf spot domestic (currency, exactAmount) := by
    rw [← pow_succ]
    apply mul_le_mul_of_nonneg_right _ (weightOf_nonneg _)
    exact pow_le_pow_right₀ (by linarith) (by omega)
  refine ⟨?_, ?_, ?_⟩
  · have near : |book.atRates spot domestic - exact| ≤ drift grain roundings * weight :=
      holds.worth_near
    have apart : Book.atRates ⟨book.balances.insert currency balance⟩ spot domestic -
        (exact + rateOf spot domestic currency * exactAmount) =
          book.atRates spot domestic - exact + rateOf spot domestic currency *
            (balance.toRat - ((book.balance currency).toRat + amount.toRat)) +
            rateOf spot domestic currency * (amount.toRat - exactAmount) := by
      rw [atRates_insert]
      ring
    unfold Near
    rw [apart]
    apply (abs_add_three _ _ _).trans
    rw [abs_mul, abs_mul]
    unfold drift at near offLe ⊢
    linarith
  · have sizeLe := abs_add_le (balance.toRat - ((book.balance currency).toRat + amount.toRat))
      ((book.balance currency).toRat + amount.toRat)
    rw [sub_add_cancel] at sizeLe
    have sizeScaled := mul_le_mul_of_nonneg_left sizeLe rateNonneg
    linarith [weight_insert_le spot domestic book currency balance]
  · have entriesLe := holds.entries_le
    exact (length_insert_le book currency balance).trans (by omega)

/-! ## Positions and cash -/

/-- A position in a foreign currency, taken at the rate of its pair. -/
structure FxPosition.Priced (terms : Terms) (position : FxPosition) : Prop where
  quote_eq : position.pair.quote = terms.domestic
  rate_eq : terms.spot.rate position.pair = .ok position.price

/-- What a position counts for when bookings are measured. -/
def FxPosition.weight (position : FxPosition) : Rat :=
  |position.price.toRat| * (1 + |position.amount.toRat|) +
    (1 + |position.amount.toRat * position.price.toRat|)

section Cash

variable {terms : Terms} {roundings : Nat} {weight exact : Rat} {book result : Book}

omit [Rounding] [Rounding.Lawful grain] in
theorem Terms.AtPar.rateOf (par : terms.AtPar) :
    Collateral.rateOf terms.spot terms.domestic terms.domestic = 1 := by
  have rate : terms.spot.rate ⟨terms.domestic, terms.domestic⟩ = .ok 1 :=
    Outcome.bind_ok.2 ⟨some 1, Outcome.liftIntoConversion_ok.2 par, rfl⟩
  simp [Collateral.rateOf, rate]

omit [Rounding] [Rounding.Lawful grain] in
theorem FxPosition.Priced.rateOf {position : FxPosition} (priced : position.Priced terms) :
    Collateral.rateOf terms.spot terms.domestic position.pair.base = position.price.toRat := by
  have pair : (⟨position.pair.base, terms.domestic⟩ : FxPair) = position.pair := by
    rw [← priced.quote_eq]
  simp [Collateral.rateOf, pair, priced.rate_eq]

/-- A position at the rate of its pair adds nothing to the worth of a book. -/
theorem Book.Holds.addPosition (par : terms.AtPar) {position : FxPosition}
    (priced : position.Priced terms)
    (holds : book.Holds grain terms.spot terms.domestic roundings weight exact)
    (added : book.addPosition position = .ok result) :
    result.Holds grain terms.spot terms.domestic (roundings + 3) (weight + position.weight)
      exact := by
  obtain ⟨based, base, onward⟩ := Outcome.bind_ok.1 added
  obtain ⟨cost, multiplied, quote⟩ := Outcome.bind_ok.1 onward
  rw [priced.quote_eq] at quote
  have baseHolds := holds.add (Near.refl grain _ _) base
  have costNear : Near grain 1 (1 + |-(position.amount.toRat * position.price.toRat)|)
      (-cost).toRat (-(position.amount.toRat * position.price.toRat)) := by
    rw [abs_neg, Decimal.toRat_neg]
    exact (Rounding.near_fit_one (Decimal.mul_ok.1 multiplied)).neg
  have bothHold := baseHolds.add costNear quote
  rw [par.rateOf, priced.rateOf] at bothHold
  have weights : weight + weightOf terms.spot terms.domestic
      (position.pair.base, position.amount.toRat) + weightOf terms.spot terms.domestic
        (terms.domestic, -(position.amount.toRat * position.price.toRat)) =
          weight + position.weight := by
    simp only [weightOf, par.rateOf, priced.rateOf, FxPosition.weight, abs_neg, abs_one]
    ring
  rw [weights] at bothHold
  convert bothHold using 1
  ring

theorem Book.Holds.addPositions (par : terms.AtPar) {positions : List FxPosition}
    (priced : ∀ position ∈ positions, position.Priced terms)
    (holds : book.Holds grain terms.spot terms.domestic roundings weight exact)
    (added : positions.foldlM Book.addPosition book = .ok result) :
    result.Holds grain terms.spot terms.domestic (roundings + 3 * positions.length)
      (weight + (positions.map FxPosition.weight).sum) exact := by
  induction positions generalizing book roundings weight with
  | nil =>
    cases Outcome.pure_ok.1 added
    simpa using holds
  | cons position positions inductionHypothesis =>
    obtain ⟨next, first, rest⟩ := Outcome.foldlM_cons_ok.1 added
    have nextHolds := holds.addPosition par (priced position List.mem_cons_self) first
    have allHold := inductionHypothesis
      (fun other member => priced other (List.mem_cons_of_mem position member)) nextHolds rest
    rw [List.map_cons, List.sum_cons, List.length_cons, ← add_assoc,
      show roundings + 3 * (positions.length + 1) = roundings + 3 + 3 * positions.length by ring]
    exact allHold

theorem Book.Holds.addAll {amounts : List (Currency × Decimal)}
    (holds : book.Holds grain spot domestic roundings weight exact)
    (added : book.addAll amounts = .ok result) :
    result.Holds grain spot domestic (roundings + amounts.length)
      (weight + (amounts.map fun entry => weightOf spot domestic (entry.1, entry.2.toRat)).sum)
      (exact + (amounts.map fun entry =>
        Collateral.rateOf spot domestic entry.1 * entry.2.toRat).sum) := by
  unfold Book.addAll at added
  induction amounts generalizing book roundings weight exact with
  | nil =>
    cases Outcome.pure_ok.1 added
    simpa using holds
  | cons entry amounts inductionHypothesis =>
    obtain ⟨next, first, rest⟩ := Outcome.foldlM_cons_ok.1 added
    have allHold := inductionHypothesis (holds.add (Near.refl grain _ _) first) rest
    simp only [List.map_cons, List.sum_cons, List.length_cons, ← add_assoc]
    rw [show roundings + amounts.length + 1 = roundings + 0 + 1 + amounts.length by ring]
    exact allHold

end Cash

/-! ## The worth of a book that has been booked -/

section Worth

omit [Rounding.Lawful grain] in
theorem Book.converts_of_totalIn [SummationOrder] {book : Book} {total : Decimal}
    (totaled : book.totalIn domestic spot = .ok total) :
    ∀ entry ∈ book.balances.entries,
      ∃ value, spot.convert entry.2 ⟨entry.1, domestic⟩ = .ok value := by
  intro entry member
  obtain ⟨before, after, stepped⟩ :=
    Outcome.exists_of_mem_foldlM totaled (book.summands_perm.mem_iff.2 member)
  obtain ⟨value, converted, -⟩ := Outcome.bind_ok.1 stepped
  exact ⟨value, converted⟩

/-- One rounding lies between a converted balance and its worth at the exact rate. -/
theorem worthOf_near {entry : Currency × Decimal} {value : Decimal}
    (converted : spot.convert entry.2 ⟨entry.1, domestic⟩ = .ok value) :
    |worthOf spot domestic entry - rateOf spot domestic entry.1 * entry.2.toRat| ≤
      grain * (1 + weightOf spot domestic (entry.1, entry.2.toRat)) := by
  have grainNonneg : 0 ≤ grain := Rounding.Lawful.grain_nonneg
  obtain ⟨rate, rateIs, multiplied⟩ := Outcome.bind_ok.1 converted
  have moved := Rounding.Lawful.fit_error
    (Decimal.mul_ok.1 (Outcome.liftIntoConversion_ok.1 multiplied))
  have rateOfIs : rateOf spot domestic entry.1 = rate.toRat := by simp [rateOf, rateIs]
  have worthIs : worthOf spot domestic entry = value.toRat := worthOf_ok converted
  rw [worthIs, rateOfIs, mul_comm rate.toRat]
  refine moved.trans (mul_le_mul_of_nonneg_left (add_le_add_right ?_ 1) grainNonneg)
  rw [weightOf, rateOfIs, abs_mul, mul_comm]
  exact mul_le_mul_of_nonneg_left (by simp) (abs_nonneg _)

private theorem Book.worth_near_atRates {book : Book}
    (converts : ∀ entry ∈ book.balances.entries,
      ∃ value, spot.convert entry.2 ⟨entry.1, domestic⟩ = .ok value) :
    |book.worth spot domestic - book.atRates spot domestic| ≤
      grain * (book.balances.entries.length + book.weight spot domestic) := by
  unfold Book.worth Book.atRates Book.weight
  generalize book.balances.entries = entries at converts ⊢
  induction entries with
  | nil => simp
  | cons entry entries inductionHypothesis =>
    obtain ⟨value, converted⟩ := converts entry List.mem_cons_self
    have first := worthOf_near converted
    have rest := inductionHypothesis fun other member =>
      converts other (List.mem_cons_of_mem entry member)
    simp only [List.map_cons, List.sum_cons, List.length_cons, Nat.cast_succ]
    rw [add_sub_add_comm]
    apply (abs_add_le _ _).trans
    linarith

/-- A book that converts is worth what was booked, but for a few roundings for every booking. -/
theorem Book.Holds.abs_worth_sub_le {roundings : Nat} {weight exact : Rat} {book : Book}
    (holds : book.Holds grain spot domestic roundings weight exact)
    (converts : ∀ entry ∈ book.balances.entries,
      ∃ value, spot.convert entry.2 ⟨entry.1, domestic⟩ = .ok value) :
    |book.worth spot domestic - exact| ≤ drift grain (roundings + 1) * (roundings + weight) := by
  have grainNonneg : 0 ≤ grain := Rounding.Lawful.grain_nonneg
  have atRates := Book.worth_near_atRates converts
  have booked : |book.atRates spot domestic - exact| ≤ drift grain roundings * weight :=
    holds.worth_near
  have count : (book.balances.entries.length : Rat) ≤ roundings := by
    exact_mod_cast holds.entries_le
  have both := abs_add_le (book.worth spot domestic - book.atRates spot domestic)
    (book.atRates spot domestic - exact)
  rw [sub_add_sub_cancel] at both
  have heavier : grain * (book.balances.entries.length + book.weight spot domestic) ≤
      grain * (roundings + (1 + grain) ^ roundings * weight) := by
    have := holds.weight_le
    gcongr
  have counted : grain * (roundings : Rat) ≤ drift grain (roundings + 1) * roundings := by
    have grainLe : grain ≤ drift grain (roundings + 1) := grain_le_drift grainNonneg (by omega)
    gcongr
  calc |book.worth spot domestic - exact|
      ≤ grain * (roundings + (1 + grain) ^ roundings * weight) + drift grain roundings * weight := by
        linarith
    _ = grain * roundings + drift grain (roundings + 1) * weight := by
        rw [drift_succ, one_add_drift]
        ring
    _ ≤ drift grain (roundings + 1) * (roundings + weight) := by linarith

end Worth

end Collateral

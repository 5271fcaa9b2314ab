import Collateral.Proofs.Books

/-!
Contract: calculations that stay clear of the largest decimal.

A rule for fitting is roomy when it finds a decimal for every number below the limit on
coefficients. Then an operation succeeds whenever its exact result is bounded by a whole number below
the limit, and its result keeps to the same bound, since a whole number is a decimal and fitting
keeps the order. So sizes can be followed through a calculation in whole numbers, without any account
of rounding.

Owns: roomy rules, operations within bounds, and the margin of a book whose balances are bounded.
-/

namespace Collateral

/-! ## Operations within bounds -/

/-- A rule that fits every number below the limit on coefficients. -/
class Rounding.Roomy [Rounding] : Prop where
  exists_fit {number : Rat} (clear : |number| + 1 ≤ coefficientLimit) :
    ∃ result, Rounding.fit number = some result

instance : @Rounding.Roomy Rounding.nearest :=
  let _ : Rounding := Rounding.nearest
  ⟨fun clear => Option.isSome_iff_exists.1 (Decimal.nearest?_isSome (Nat.le_refl _) clear)⟩

/-- A whole number below the limit as a decimal. -/
private def wholeBound (bound : Nat) (room : bound < coefficientLimit) : Decimal :=
  Figure.value ⟨false, bound, 0, room, Nat.zero_le _⟩

private theorem toRat_wholeBound (bound : Nat) (room : bound < coefficientLimit) :
    (wholeBound bound room).toRat = bound := by
  rw [wholeBound, Figure.value, Decimal.toRat_signed]
  simp

section Operations

variable [Rounding] {grain : Rat} [Rounding.Lawful grain] [Rounding.Roomy] {bound : Nat}

omit [Rounding.Lawful grain] in
/-- Numbers of up to twenty-eight digits before the point fit. -/
theorem Rounding.exists_fit_of_le {number : Rat} (large : |number| ≤ 10 ^ 28) :
    ∃ result, Rounding.fit number = some result := by
  have room : (10 : Rat) ^ 28 + 1 ≤ coefficientLimit := by
    exact_mod_cast (by decide : 10 ^ 28 + 1 ≤ coefficientLimit)
  exact Roomy.exists_fit (by linarith)

include grain in
/-- A number within a whole bound is fitted within it. -/
theorem Rounding.exists_fit_le (room : bound < coefficientLimit) {number : Rat}
    (within : |number| ≤ bound) :
    ∃ result, Rounding.fit number = some result ∧ |result.toRat| ≤ bound := by
  have clear : |number| + 1 ≤ coefficientLimit := by
    have next : (bound : Rat) + 1 ≤ coefficientLimit := by exact_mod_cast room
    linarith
  obtain ⟨result, fit⟩ := Roomy.exists_fit clear
  obtain ⟨above, below⟩ := abs_le.1 within
  have high := toRat_wholeBound bound room
  have low : (-wholeBound bound room).toRat = -bound := by rw [Decimal.toRat_neg, high]
  refine ⟨result, fit, abs_le.2 ⟨?_, ?_⟩⟩
  · rw [← low]
    exact Rounding.le_fit (by rwa [low]) fit
  · rw [← high]
    exact Rounding.fit_le (by rwa [high]) fit

namespace Decimal

omit [Rounding.Lawful grain] in
/-- What is left of a decimal when a part of it is taken away fits, whatever its size. -/
theorem exists_remainder {whole used : Decimal} (nonneg : 0 ≤ used.toRat)
    (atMost : used.toRat ≤ whole.toRat) : ∃ rest, whole.sub used = .ok rest := by
  have smaller : |whole.toRat - used.toRat| ≤ |whole.toRat| := by
    rw [abs_of_nonneg (sub_nonneg.2 atMost), abs_of_nonneg (nonneg.trans atMost)]
    exact sub_le_self _ nonneg
  have room := (add_le_add_left smaller 1).trans whole.abs_toRat_add_one_le
  obtain ⟨rest, fit⟩ := Rounding.Roomy.exists_fit room
  exact ⟨rest, sub_ok.2 fit⟩

include grain

theorem exists_add (room : bound < coefficientLimit) {left right : Decimal}
    (within : |left.toRat + right.toRat| ≤ bound) :
    ∃ result, left.add right = .ok result ∧ |result.toRat| ≤ bound := by
  obtain ⟨result, fit, small⟩ := Rounding.exists_fit_le room within
  exact ⟨result, add_ok.2 fit, small⟩

theorem exists_sub (room : bound < coefficientLimit) {left right : Decimal}
    (within : |left.toRat - right.toRat| ≤ bound) :
    ∃ result, left.sub right = .ok result ∧ |result.toRat| ≤ bound := by
  obtain ⟨result, fit, small⟩ := Rounding.exists_fit_le room within
  exact ⟨result, sub_ok.2 fit, small⟩

theorem exists_mul (room : bound < coefficientLimit) {left right : Decimal}
    (within : |left.toRat * right.toRat| ≤ bound) :
    ∃ result, left.mul right = .ok result ∧ |result.toRat| ≤ bound := by
  obtain ⟨result, fit, small⟩ := Rounding.exists_fit_le room within
  exact ⟨result, mul_ok.2 fit, small⟩

/-- A sum of terms within a bound grows by that bound with every term. -/
theorem exists_sum {ε ι : Type} {step : Decimal → ι → Except ε Decimal} {items : List ι}
    {most base : Nat}
    (each : ∀ item ∈ items, ∃ term : Decimal, |term.toRat| ≤ most ∧
      ∀ total next, total.add term = .ok next → step total item = .ok next)
    {start : Decimal} (startLe : |start.toRat| ≤ base)
    (room : base + items.length * most < coefficientLimit) :
    ∃ result, items.foldlM step start = .ok result ∧
      |result.toRat| ≤ ((base + items.length * most : Nat) : Rat) := by
  induction items generalizing start base with
  | nil => exact ⟨start, rfl, by simpa using startLe⟩
  | cons item items inductionHypothesis =>
    obtain ⟨term, termLe, steps⟩ := each item List.mem_cons_self
    have length : base + (item :: items).length * most = base + most + items.length * most := by
      rw [List.length_cons]
      ring
    rw [length] at room ⊢
    have sum : |start.toRat + term.toRat| ≤ ((base + most : Nat) : Rat) := by
      push_cast
      exact (abs_add_le _ _).trans (add_le_add startLe termLe)
    obtain ⟨next, added, nextLe⟩ := exists_add (by omega) sum
    obtain ⟨result, summed, resultLe⟩ := inductionHypothesis
      (fun other member => each other (List.mem_cons_of_mem item member)) nextLe room
    exact ⟨result, Outcome.foldlM_cons_ok.2 ⟨next, steps start next added, summed⟩, resultLe⟩

end Decimal

end Operations

/-! ## Covering debts -/

namespace Netting

variable [Rounding] {grain : Rat} [Rounding.Lawful grain] [Rounding.Roomy] {top peak : Rat}
  {most : Nat}

omit [Rounding.Lawful grain] in
/-- No subtraction of a draw overflows. -/
theorem exists_draw {source debt : Bucket} (sourceNonneg : 0 ≤ source.value.toRat)
    (debtNonneg : 0 ≤ debt.value.toRat) : ∃ result, draw source debt = .ok result := by
  have used : (min debt.value source.value).toRat = min debt.value.toRat source.value.toRat :=
    Decimal.toRat_min _ _
  have usedNonneg := le_min debtNonneg sourceNonneg
  rw [← used] at usedNonneg
  obtain ⟨left, leftIs⟩ := Decimal.exists_remainder usedNonneg (used.trans_le (min_le_right _ _))
  obtain ⟨uncovered, uncoveredIs⟩ :=
    Decimal.exists_remainder usedNonneg (used.trans_le (min_le_left _ _))
  exact ⟨⟨source, debt, _, left, uncovered⟩, draw_ok.2 ⟨rfl, rfl, rfl, leftIs, uncoveredIs⟩⟩

section Covering

include grain

private theorem exists_cover {debt : Bucket} {pool : List Bucket}
    (within : ∀ bucket ∈ pool, bucket.Within top peak) (debtNonneg : 0 ≤ debt.value.toRat)
    (debtLe : debt.value.toRat ≤ peak) : ∃ result, cover debt pool = .ok result := by
  induction pool generalizing debt with
  | nil => exact ⟨_, rfl⟩
  | cons source pool inductionHypothesis =>
    have here := within source List.mem_cons_self
    unfold cover
    split
    next => exact ⟨_, rfl⟩
    next =>
      obtain ⟨drew, drawDone⟩ := exists_draw here.value_nonneg debtNonneg
      have fair := draw_fair here debtNonneg debtLe drawDone
      rw [drawDone]
      simp only [bind, Except.bind]
      split
      next =>
        have onward : ∃ rest, cover { debt with value := drew.uncovered } pool = .ok rest := by
          apply inductionHypothesis
          · exact fun bucket member => within bucket (List.mem_cons_of_mem source member)
          · exact fair.uncovered_nonneg
          · exact fair.uncovered_le.trans debtLe
        obtain ⟨rest, restDone⟩ := onward
        rw [restDone]
        exact ⟨_, rfl⟩
      next => exact ⟨_, rfl⟩

/-- Debts and collateral that keep to their bounds can be drawn on. -/
theorem exists_coverAll {debts pool : List Bucket}
    (within : ∀ bucket ∈ pool, bucket.Within top peak)
    (debtsWithin : ∀ debt ∈ debts, 0 ≤ debt.value.toRat ∧ debt.value.toRat ≤ peak) :
    ∃ result, coverAll debts pool = .ok result := by
  induction debts generalizing pool with
  | nil => exact ⟨_, rfl⟩
  | cons debt debts inductionHypothesis =>
    obtain ⟨debtNonneg, debtLe⟩ := debtsWithin debt List.mem_cons_self
    obtain ⟨first, firstDone⟩ := exists_cover within debtNonneg debtLe
    obtain ⟨rest, restDone⟩ := inductionHypothesis
      (cover_ok within debtNonneg debtLe firstDone).pool_within
      fun other member => debtsWithin other (List.mem_cons_of_mem debt member)
    exact ⟨_, Outcome.bind_ok.2 ⟨first, firstDone, Outcome.bind_ok.2 ⟨rest, restDone, rfl⟩⟩⟩

/-- Buckets that keep to their bounds can be charged, at no more than the bound of one amount for
every bucket. -/
theorem exists_charge {buckets : List Bucket} (bounded : ∀ bucket ∈ buckets, Bounded top peak bucket)
    (topNonneg : 0 ≤ top) (amount : top * peak ≤ most)
    (room : buckets.length * most < coefficientLimit) (mostRoom : most < coefficientLimit) :
    ∃ result, charge buckets = .ok result ∧
      |result.toRat| ≤ ((buckets.length * most : Nat) : Rat) := by
  obtain ⟨covered, coveredDone⟩ :=
    exists_coverAll (collateral_within bounded) (debts_within bounded)
  have accounts : covered.Accounts grain top peak (collateral buckets) (owed (debts buckets))
      (debts buckets).length :=
    coverAll_ok (collateral_within bounded) (debts_within bounded) coveredDone
  have count : covered.draws.length ≤ buckets.length := by
    have sides := length_collateral_add_length_debts_le buckets
    have draws := accounts.draws_count
    omega
  have sums : covered.draws.length * most ≤ buckets.length * most :=
    Nat.mul_le_mul_right most count
  have each : ∀ draw ∈ covered.draws, ∃ term : Decimal, |term.toRat| ≤ most ∧
      ∀ total next : Decimal, total.add term = .ok next →
        draw.source.rate.mul draw.used >>= total.add = .ok next := by
    intro draw member
    obtain ⟨source, usedNonneg, usedLe⟩ := accounts.draws_within draw member
    have product : |draw.source.rate.toRat * draw.used.toRat| ≤ most := by
      rw [abs_of_nonneg (mul_nonneg source.rate_nonneg usedNonneg)]
      exact (mul_le_mul source.rate_le usedLe usedNonneg topNonneg).trans amount
    obtain ⟨term, multiplied, termLe⟩ := Decimal.exists_mul mostRoom product
    exact ⟨term, termLe, fun total next added => Outcome.bind_ok.2 ⟨term, multiplied, added⟩⟩
  have start : |(0 : Decimal).toRat| ≤ ((0 : Nat) : Rat) := by simp
  obtain ⟨result, added, resultLe⟩ := Decimal.exists_sum each start (by omega)
  rw [Nat.zero_add] at resultLe
  exact ⟨result, Outcome.bind_ok.2 ⟨covered, coveredDone, added⟩,
    resultLe.trans (by exact_mod_cast sums)⟩

end Covering

end Netting

/-! ## Margins of bounded balances -/

namespace Margin

variable [Rounding] {terms : Terms} {book : Book} {others : List Bucket}

/-- A book that has a margin has buckets for its foreign balances. -/
theorem foreign_of_ofBook {margin : Decimal} (margined : ofBook terms book = .ok margin) :
    ∃ others, foreign terms book = .ok others := by
  obtain ⟨found, built, -⟩ := Outcome.bind_ok.1 margined
  refine Outcome.mapM_of_subset (fun entry member => ?_) built
  obtain ⟨held, kept⟩ := List.mem_filter.1 member
  exact List.mem_filter.2 ⟨held, (Bool.and_eq_true_iff.1 kept).2⟩

variable {grain : Rat} [Rounding.Lawful grain]

include grain in
/-- Whatever the domestic balance is set to, all balances can be converted. -/
theorem exists_buckets (par : terms.AtPar) (built : foreign terms book = .ok others)
    (balance : Decimal) :
    ∃ found, buckets terms ⟨book.balances.insert terms.domestic balance⟩ = .ok found := by
  have domestic : bucket terms terms.domestic balance =
      .ok { slot terms with value := balance } :=
    bucket_ok.2 ⟨rfl, rfl, par.convert balance⟩
  have arranged : ((terms.domestic, balance) :: book.balances.entries.filter fun entry =>
      entry.1 ≠ terms.domestic && !isFlat entry.2).mapM
        (fun entry => bucket terms entry.1 entry.2) =
          .ok ({ slot terms with value := balance } :: others) :=
    Outcome.mapM_ok.2 (.cons domestic (Outcome.mapM_ok.1 built))
  refine Outcome.mapM_of_subset (fun entry member => ?_) arranged
  obtain ⟨held, large⟩ := List.mem_filter.1 member
  rcases List.mem_cons.1 ((Table.place_perm _ _ book.balances.distinct).mem_iff.1 held) with
    rfl | inBook
  · exact List.mem_cons_self
  · obtain ⟨inBook, foreign⟩ := List.mem_filter.1 inBook
    exact List.mem_cons_of_mem _ (List.mem_filter.2 ⟨inBook, Bool.and_eq_true_iff.2 ⟨foreign, large⟩⟩)

/-- A book of no more than a thousand currencies, with no haircut and no multiplier above a
thousand. -/
structure Moderate (terms : Terms) (book : Book) : Prop where
  entries_le : book.balances.entries.length ≤ 1000
  highest_le : terms.haircuts.highest ≤ 1000
  multiplier_nonneg : 0 ≤ terms.multiplier.toRat
  multiplier_le : terms.multiplier.toRat ≤ 1000

include grain in
/-- A moderate book keeps a margin when its domestic balance is set. -/
theorem Moderate.exists_ofBook [Rounding.Roomy] (moderate : Moderate terms book)
    (par : terms.AtPar) (built : foreign terms book = .ok others) {balance : Decimal}
    (peak : book.gross terms.spot terms.domestic + |balance.toRat| ≤ 10 ^ 15) :
    ∃ margin, ofBook terms ⟨book.balances.insert terms.domestic balance⟩ = .ok margin ∧
      |margin.toRat| ≤ 10 ^ 25 := by
  obtain ⟨found, foundBuilt⟩ := exists_buckets par built balance
  obtain ⟨others', othersBuilt, permutation, -⟩ := buckets_insert par foundBuilt
  obtain ⟨bounded, count⟩ := bounded_of_perm othersBuilt permutation
  have topNonneg := terms.haircuts.highest_nonneg
  have countLe : found.length ≤ 1001 := count.trans (Nat.succ_le_succ moderate.entries_le)
  have within : ∀ bucket ∈ found,
      Netting.Bounded terms.haircuts.highest ((10 ^ 15 : Nat) : Rat) bucket := by
    intro bucket member
    obtain ⟨rateNonneg, rateLe, sizeLe⟩ := bounded bucket member
    exact ⟨rateNonneg, rateLe, by push_cast; linarith⟩
  have amount : terms.haircuts.highest * ((10 ^ 15 : Nat) : Rat) ≤ ((10 ^ 18 : Nat) : Rat) := by
    push_cast
    linarith [moderate.highest_le]
  have sums : found.length * 10 ^ 18 ≤ 1001 * 10 ^ 18 := Nat.mul_le_mul_right _ countLe
  obtain ⟨charge, charged, chargeLe⟩ := Netting.exists_charge within topNonneg amount
    (sums.trans_lt (by decide)) (by decide)
  have chargeLe' : |charge.toRat| ≤ 1001 * 10 ^ 18 := chargeLe.trans (by exact_mod_cast sums)
  have product : |charge.toRat * terms.multiplier.toRat| ≤ ((10 ^ 25 : Nat) : Rat) := by
    rw [abs_mul, abs_of_nonneg moderate.multiplier_nonneg]
    calc |charge.toRat| * terms.multiplier.toRat
        ≤ 1001 * 10 ^ 18 * 1000 :=
          mul_le_mul chargeLe' moderate.multiplier_le moderate.multiplier_nonneg (by norm_num)
      _ ≤ ((10 ^ 25 : Nat) : Rat) := by norm_num
  obtain ⟨margin, scaled, marginLe⟩ := Decimal.exists_mul (by decide) product
  refine ⟨margin, Outcome.bind_ok.2 ⟨found, foundBuilt, Outcome.bind_ok.2 ⟨charge, ?_, ?_⟩⟩, ?_⟩
  · rwa [Outcome.liftArithmetic_ok]
  · rwa [Outcome.liftArithmetic_ok]
  · exact_mod_cast marginLe

end Margin

end Collateral

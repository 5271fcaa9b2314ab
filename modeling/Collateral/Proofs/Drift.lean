import Collateral.Proofs.Fitting
import Mathlib.Algebra.Order.Ring.Abs
import Mathlib.Tactic.GCongr

/-!
Contract: how far a calculation drifts when its steps round.

A rule for fitting is lawful with a grain when it keeps decimals and the order of numbers, and moves
no number by more than the grain for every whole unit of its size. Every run rounds with a grain of
`1 / 10 ^ 28`. The strict rule is lawful with a grain of zero, so whatever is proved of lawful rules
is an equality for calculations that lose nothing.

A calculation of several steps is measured by the number of roundings that a result has gone through
and by a size that all numbers on the way keep to.

Owns: lawful rules, the operations under them, and the composition of drifts.
-/

namespace Collateral

/-- What proofs use of a rule for fitting. -/
class Rounding.Lawful [Rounding] (grain : outParam Rat) : Prop where
  grain_nonneg : 0 ≤ grain
  fit_toRat (number : Decimal) : Rounding.fit number.toRat = some number
  fit_mono {left right : Rat} {low high : Decimal} (ordered : left ≤ right)
    (leftFit : Rounding.fit left = some low) (rightFit : Rounding.fit right = some high) :
    low.toRat ≤ high.toRat
  fit_error {number : Rat} {result : Decimal} (fit : Rounding.fit number = some result) :
    |result.toRat - number| ≤ grain * (1 + |number|)

namespace Rounding

instance : @Lawful Rounding.nearest (1 / 10 ^ 28) :=
  letI := Rounding.nearest
  { grain_nonneg := by positivity
    fit_toRat := Decimal.nearest?_toRat
    fit_mono := Decimal.nearest?_mono
    fit_error := Decimal.nearest?_error }

private theorem exact_fit {number : Rat} {result : Decimal}
    (fit : Rounding.exact.fit number = some result) : result.toRat = number := by
  simpa using (Option.filter_eq_some_iff.1 fit).2

instance : @Lawful Rounding.exact 0 :=
  letI := Rounding.exact
  { grain_nonneg := le_rfl
    fit_toRat := fun number => by
      refine Option.filter_eq_some_iff.2 ⟨Decimal.nearest?_toRat number, by simp⟩
    fit_mono := fun ordered leftFit rightFit => by
      rwa [exact_fit leftFit, exact_fit rightFit]
    fit_error := fun fit => by
      rw [exact_fit fit]
      simp }

end Rounding

/-! ## Drift -/

/-- The part of its size by which a number moves in a number of roundings. -/
def drift (grain : Rat) (roundings : Nat) : Rat :=
  (1 + grain) ^ roundings - 1

/-- A computed number lies where a number of roundings can move the exact one. -/
def Near (grain : Rat) (roundings : Nat) (size computed exact : Rat) : Prop :=
  |computed - exact| ≤ drift grain roundings * size

section Drift

variable {grain : Rat}

@[simp] theorem drift_zero : drift grain 0 = 0 := by simp [drift]

@[simp] theorem drift_of_exact (roundings : Nat) : drift 0 roundings = 0 := by simp [drift]

theorem one_add_drift (roundings : Nat) : 1 + drift grain roundings = (1 + grain) ^ roundings := by
  simp [drift]

theorem drift_succ (roundings : Nat) :
    drift grain (roundings + 1) = drift grain roundings + grain * (1 + drift grain roundings) := by
  simp only [drift, pow_succ]
  ring

theorem drift_nonneg (nonneg : 0 ≤ grain) (roundings : Nat) : 0 ≤ drift grain roundings :=
  sub_nonneg.2 (one_le_pow₀ (by linarith))

theorem drift_mono (nonneg : 0 ≤ grain) {fewer more : Nat} (ordered : fewer ≤ more) :
    drift grain fewer ≤ drift grain more :=
  sub_le_sub_right (pow_le_pow_right₀ (by linarith) ordered) 1

/-- Few roundings move a number by hardly more than one after the other. -/
theorem drift_le (nonneg : 0 ≤ grain) {roundings : Nat} (few : 2 * (roundings * grain) ≤ 1) :
    drift grain roundings ≤ 2 * (roundings * grain) := by
  induction roundings with
  | zero => simp
  | succ roundings inductionHypothesis =>
    push_cast at few ⊢
    have fewer := inductionHypothesis (by linarith)
    have last : grain * (1 + drift grain roundings) ≤ grain * 2 :=
      mul_le_mul_of_nonneg_left (by linarith) nonneg
    rw [drift_succ]
    linarith

/-- Some thousand roundings to twenty-eight places move a number by little. -/
theorem drift_le_of_thousand (nonneg : 0 ≤ grain) (fine : grain ≤ 1 / 10 ^ 28) {roundings : Nat}
    (few : roundings ≤ 1005) : drift grain roundings ≤ 201 / 10 ^ 27 := by
  have total : (roundings : Rat) * grain ≤ 1005 * (1 / 10 ^ 28) :=
    mul_le_mul (by exact_mod_cast few) fine nonneg (by norm_num)
  linarith [drift_le nonneg (show 2 * ((roundings : Rat) * grain) ≤ 1 by linarith)]

theorem grain_le_drift (nonneg : 0 ≤ grain) {roundings : Nat} (some : 1 ≤ roundings) :
    grain ≤ drift grain roundings := by
  have one : drift grain 1 = grain := by simp [drift]
  exact one.symm.trans_le (drift_mono nonneg some)

end Drift

namespace Near

variable {grain : Rat} {roundings : Nat} {size computed exact : Rat}

theorem refl (grain size number : Rat) : Near grain 0 size number number := by
  simp [Near]

/-- Nothing drifts in a calculation that loses nothing. -/
theorem eq_of_exact (near : Near 0 roundings size computed exact) : computed = exact := by
  simpa [Near, sub_eq_zero] using near

theorem mono (nonneg : 0 ≤ grain) {more : Nat} {larger : Rat} (sizeNonneg : 0 ≤ size)
    (roundingsLe : roundings ≤ more) (sizeLe : size ≤ larger)
    (near : Near grain roundings size computed exact) : Near grain more larger computed exact :=
  near.trans (mul_le_mul (drift_mono nonneg roundingsLe) sizeLe sizeNonneg
    (drift_nonneg nonneg more))

theorem add {size' computed' exact' : Rat} (near : Near grain roundings size computed exact)
    (near' : Near grain roundings size' computed' exact') :
    Near grain roundings (size + size') (computed + computed') (exact + exact') := by
  unfold Near
  calc |computed + computed' - (exact + exact')|
      = |computed - exact + (computed' - exact')| := by ring_nf
    _ ≤ |computed - exact| + |computed' - exact'| := abs_add_le _ _
    _ ≤ drift grain roundings * size + drift grain roundings * size' := add_le_add near near'
    _ = drift grain roundings * (size + size') := by ring

theorem trans {size' further : Rat} (near : Near grain roundings size computed exact)
    (onward : Near grain roundings size' exact further) :
    Near grain roundings (size + size') computed further := by
  have sum := near.add onward
  unfold Near at sum ⊢
  rwa [add_comm exact further, add_sub_add_right_eq_sub] at sum

theorem neg (near : Near grain roundings size computed exact) :
    Near grain roundings size (-computed) (-exact) := by
  unfold Near
  rw [← neg_sub_neg, neg_neg, neg_neg, abs_sub_comm]
  exact near

theorem sub {size' computed' exact' : Rat} (near : Near grain roundings size computed exact)
    (near' : Near grain roundings size' computed' exact') :
    Near grain roundings (size + size') (computed - computed') (exact - exact') := by
  rw [sub_eq_add_neg, sub_eq_add_neg]
  exact near.add near'.neg

theorem mul (factor : Rat) (near : Near grain roundings size computed exact) :
    Near grain roundings (|factor| * size) (factor * computed) (factor * exact) := by
  unfold Near
  rw [← mul_sub, abs_mul, mul_left_comm]
  exact mul_le_mul_of_nonneg_left near (abs_nonneg factor)

theorem div {divisor : Rat} (positive : 0 < divisor)
    (near : Near grain roundings size computed exact) :
    Near grain roundings (size / divisor) (computed / divisor) (exact / divisor) := by
  unfold Near
  rw [← sub_div, abs_div, abs_of_pos positive, mul_div_assoc']
  exact div_le_div_of_nonneg_right near positive.le

theorem zero (nonneg : 0 ≤ grain) (sizeNonneg : 0 ≤ size) (roundings : Nat) :
    Near grain roundings size (0 : Decimal).toRat 0 := by
  rw [Decimal.toRat_zero]
  exact (refl grain size 0).mono nonneg sizeNonneg (Nat.zero_le _) le_rfl

theorem abs_le (near : Near grain roundings size computed exact) :
    |computed| ≤ |exact| + drift grain roundings * size := by
  have moved : |computed - exact| ≤ drift grain roundings * size := near
  have parts := abs_add_le (computed - exact) exact
  rw [sub_add_cancel] at parts
  linarith

end Near

/-! ## Operations -/

namespace Decimal

variable [Rounding]

theorem fitted_ok {operation : Operation} {number : Rat} {result : Decimal} :
    fitted operation number = .ok result ↔ Rounding.fit number = some result := by
  unfold fitted
  cases Rounding.fit number <;> simp

/-- An operation fails by leaving the range of decimals, and says which one it is. -/
theorem fitted_error {operation : Operation} {number : Rat} {error : Error}
    (failed : fitted operation number = .error error) : error = .overflow operation := by
  unfold fitted at failed
  split at failed
  · cases failed
  · exact (Except.error.inj failed).symm

theorem add_ok {left right result : Decimal} :
    left.add right = .ok result ↔ Rounding.fit (left.toRat + right.toRat) = some result :=
  fitted_ok

theorem sub_ok {left right result : Decimal} :
    left.sub right = .ok result ↔ Rounding.fit (left.toRat - right.toRat) = some result :=
  fitted_ok

theorem mul_ok {left right result : Decimal} :
    left.mul right = .ok result ↔ Rounding.fit (left.toRat * right.toRat) = some result :=
  fitted_ok

theorem div_ok {left right result : Decimal} :
    left.div right = .ok result ↔
      right ≠ 0 ∧ Rounding.fit (left.toRat / right.toRat) = some result := by
  unfold div
  split
  next zero => simp [zero]
  next notZero => rw [fitted_ok]; simp [notZero]

end Decimal

namespace Rounding

variable [Rounding] {grain : Rat} [Lawful grain]

/-- One more rounding moves a number that is already off. -/
theorem near_fit {roundings : Nat} {size number exact : Rat} {result : Decimal}
    (fit : Rounding.fit number = some result) (near : Near grain roundings size number exact)
    (sized : 1 + |exact| ≤ size) : Near grain (roundings + 1) size result.toRat exact := by
  have grainNonneg : 0 ≤ grain := Lawful.grain_nonneg
  have moved := Lawful.fit_error fit
  have reach := near.abs_le
  unfold Near
  rw [drift_succ]
  calc |result.toRat - exact|
      = |result.toRat - number + (number - exact)| := by ring_nf
    _ ≤ |result.toRat - number| + |number - exact| := abs_add_le _ _
    _ ≤ grain * (1 + |number|) + drift grain roundings * size := add_le_add moved near
    _ ≤ grain * (size + drift grain roundings * size) + drift grain roundings * size := by
        have wide : 1 + |number| ≤ size + drift grain roundings * size := by linarith
        gcongr
    _ = (drift grain roundings + grain * (1 + drift grain roundings)) * size := by ring

theorem near_fit_one {number : Rat} {result : Decimal}
    (fit : Rounding.fit number = some result) :
    Near grain 1 (1 + |number|) result.toRat number :=
  near_fit fit (Near.refl grain _ number) le_rfl

/-- A division of a number that is already off, and its rounding. -/
theorem near_fit_div {roundings : Nat} {size number exact divisor : Rat} {result : Decimal}
    (positive : 0 < divisor) (fit : Rounding.fit (number / divisor) = some result)
    (near : Near grain roundings size number exact) (sized : |exact| ≤ size) :
    Near grain (roundings + 1) (1 + size / divisor) result.toRat (exact / divisor) := by
  have sizeNonneg : 0 ≤ size / divisor := div_nonneg ((abs_nonneg _).trans sized) positive.le
  refine near_fit fit ((near.div positive).mono Lawful.grain_nonneg sizeNonneg le_rfl
    (le_add_of_nonneg_left zero_le_one)) ?_
  rw [abs_div, abs_of_pos positive]
  gcongr

section Order

include grain

/-- A decimal bounds the result from below if it bounds the number. -/
theorem le_fit {bound : Decimal} {number : Rat} {result : Decimal}
    (above : bound.toRat ≤ number) (fit : Rounding.fit number = some result) :
    bound.toRat ≤ result.toRat :=
  Lawful.fit_mono above (Lawful.fit_toRat bound) fit

/-- A decimal bounds the result from above if it bounds the number. -/
theorem fit_le {bound : Decimal} {number : Rat} {result : Decimal}
    (below : number ≤ bound.toRat) (fit : Rounding.fit number = some result) :
    result.toRat ≤ bound.toRat :=
  Lawful.fit_mono below fit (Lawful.fit_toRat bound)

theorem fit_nonneg {number : Rat} {result : Decimal} (nonneg : 0 ≤ number)
    (fit : Rounding.fit number = some result) : 0 ≤ result.toRat := by
  rw [← Decimal.toRat_zero] at nonneg ⊢
  exact le_fit nonneg fit

theorem fit_eq {number result : Decimal} {value : Rat} (same : value = number.toRat)
    (fit : Rounding.fit value = some result) : result = number := by
  rw [same, Lawful.fit_toRat] at fit
  exact (Option.some.inj fit).symm

end Order

end Rounding

/-- Nothing is rounded where a number is added to zero. -/
theorem Decimal.zero_add_ok [Rounding] {grain : Rat} [Rounding.Lawful grain] (number : Decimal) :
    Decimal.add 0 number = .ok number := by
  apply add_ok.2
  rw [toRat_zero, Rat.zero_add, Rounding.Lawful.fit_toRat]

/-- Nothing is rounded where zero is added to a number. -/
theorem Decimal.add_zero_ok [Rounding] {grain : Rat} [Rounding.Lawful grain] (number : Decimal) :
    number.add 0 = .ok number := by
  apply add_ok.2
  rw [toRat_zero, Rat.add_zero, Rounding.Lawful.fit_toRat]

/-! ## Operations that lose nothing -/

namespace Decimal

variable [Rounding] [Rounding.Lawful 0] {left right result : Decimal}

theorem toRat_of_add (added : left.add right = .ok result) :
    result.toRat = left.toRat + right.toRat :=
  (Rounding.near_fit_one (add_ok.1 added)).eq_of_exact

theorem toRat_of_sub (subtracted : left.sub right = .ok result) :
    result.toRat = left.toRat - right.toRat :=
  (Rounding.near_fit_one (sub_ok.1 subtracted)).eq_of_exact

theorem toRat_of_mul (multiplied : left.mul right = .ok result) :
    result.toRat = left.toRat * right.toRat :=
  (Rounding.near_fit_one (mul_ok.1 multiplied)).eq_of_exact

end Decimal

/-! ## Sums -/

/-- A sum drifts by one rounding for every term, on top of the roundings within the terms. -/
theorem Decimal.near_foldlM [Rounding] {grain : Rat} [Rounding.Lawful grain] {ε ι : Type}
    (exact size : ι → Rat) {step : Decimal → ι → Except ε Decimal} {items : List ι} {within : Nat}
    (each : ∀ item ∈ items, ∀ total next, step total item = .ok next →
      ∃ term : Decimal, total.add term = .ok next ∧
        Near grain within (size item) term.toRat (exact item))
    (sized : ∀ item ∈ items, |exact item| ≤ size item)
    {roundings : Nat} {start result : Decimal} {startSize startExact : Rat}
    (enough : within ≤ roundings) (startSized : 1 + |startExact| ≤ startSize)
    (startNear : Near grain roundings startSize start.toRat startExact)
    (summed : items.foldlM step start = .ok result) :
    Near grain (roundings + items.length) (startSize + (items.map size).sum) result.toRat
      (startExact + (items.map exact).sum) := by
  have grainNonneg : 0 ≤ grain := Rounding.Lawful.grain_nonneg
  induction items generalizing roundings start startSize startExact with
  | nil =>
    cases Outcome.pure_ok.1 summed
    simpa using startNear
  | cons item items inductionHypothesis =>
    obtain ⟨next, stepped, rest⟩ := Outcome.foldlM_cons_ok.1 summed
    obtain ⟨term, added, termNear⟩ := each item List.mem_cons_self start next stepped
    have termSized := sized item List.mem_cons_self
    have termNonneg : 0 ≤ size item := (abs_nonneg _).trans termSized
    have nextSized : 1 + |startExact + exact item| ≤ startSize + size item := by
      linarith [abs_add_le startExact (exact item)]
    have nextNear : Near grain (roundings + 1) (startSize + size item) next.toRat
        (startExact + exact item) :=
      Rounding.near_fit (Decimal.add_ok.1 added)
        (startNear.add (termNear.mono grainNonneg termNonneg enough le_rfl)) nextSized
    have remaining := inductionHypothesis
      (fun other member => each other (List.mem_cons_of_mem item member))
      (fun other member => sized other (List.mem_cons_of_mem item member))
      (Nat.le_succ_of_le enough) nextSized nextNear rest
    rw [List.length_cons, Nat.add_comm items.length, ← Nat.add_assoc, List.map_cons, List.map_cons,
      List.sum_cons, List.sum_cons, ← add_assoc, ← add_assoc]
    exact remaining

end Collateral

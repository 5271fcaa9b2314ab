import Collateral.Deposit.Solver
import Collateral.Proofs.BinaryOrder
import Collateral.Proofs.Values
import Mathlib.Algebra.Order.Field.Power
import Mathlib.Data.Nat.Cast.Order.Field
import Mathlib.Tactic.GCongr
import Mathlib.Tactic.NormNum
import Mathlib.Tactic.Positivity

/-!
Contract: the decimal of a binary number keeps the order of binary numbers.

Halving loses something only where the digits fill ninety-six bits, and all of that is less than what
lies between two neighbours. Dropping digits depends on the value alone, however many places it is
written with, and keeps the order: the fewest digits that lose one say more than any that stay.

Owns: what halving and dropping do to a value, the value of the decimal of a binary number, and the
order of such decimals.
-/

namespace Collateral

namespace Binary

/-- What a number of digits and places is worth. -/
def written (number : Nat × Nat) : Rat :=
  number.1 / 10 ^ number.2

theorem written_nonneg (number : Nat × Nat) : 0 ≤ written number := by
  unfold written
  positivity

/-! ## Halving -/

/-- The most that a half loses, relative to it: one of the digits that leave no room for a place. -/
def halfLoss : Rat := 5 / 2 ^ 96

theorem half_le (number : Nat × Nat) : written (half number) ≤ written number / 2 := by
  obtain ⟨digits, places⟩ := number
  simp only [half, written]
  split
  · push_cast [pow_succ]
    apply le_of_eq
    field_simp
    ring
  · rw [div_right_comm]
    have cut : ((digits / 2 : Nat) : Rat) ≤ digits / 2 := Nat.cast_div_le
    gcongr

theorem le_half (number : Nat × Nat) :
    written number / 2 * (1 - halfLoss) ≤ written (half number) := by
  obtain ⟨digits, places⟩ := number
  have nonneg : 0 ≤ written (digits, places) := written_nonneg _
  simp only [half]
  split
  · have exact : written (5 * digits, places + 1) = written (digits, places) / 2 := by
      simp only [written, pow_succ]
      push_cast
      field_simp
      ring
    rw [exact]
    unfold halfLoss
    nlinarith
  next crowded =>
    unfold written at nonneg ⊢
    simp only at nonneg ⊢
    rw [div_right_comm, div_mul_eq_mul_div]
    gcongr
    unfold halfLoss
    have odd : digits % 2 = 0 ∨ 2 ^ 96 ≤ 5 * digits := by
      have limit : coefficientLimit = 2 ^ 96 := rfl
      rw [limit] at crowded
      omega
    have halves : digits = 2 * (digits / 2) + digits % 2 := (Nat.div_add_mod digits 2).symm
    have digitsEq : (digits : Rat) = 2 * (digits / 2 : Nat) + (digits % 2 : Nat) := by
      exact_mod_cast halves
    rcases odd with even | crowded
    · rw [even] at digitsEq
      have : (0 : Rat) ≤ digits := by positivity
      push_cast at digitsEq
      linarith
    · have one : ((digits % 2 : Nat) : Rat) ≤ 1 := by
        exact_mod_cast Nat.le_of_lt_succ (Nat.mod_lt _ (by decide))
      have large : (2 ^ 96 : Rat) ≤ 5 * digits := by exact_mod_cast crowded
      linarith

theorem repeat_half_le (halvings mantissa : Nat) :
    written (Nat.repeat half halvings (mantissa, 0)) ≤ mantissa / 2 ^ halvings := by
  induction halvings with
  | zero => simp [Nat.repeat, written]
  | succ halvings inductionHypothesis =>
    calc written (half (Nat.repeat half halvings (mantissa, 0)))
        ≤ written (Nat.repeat half halvings (mantissa, 0)) / 2 := half_le _
      _ ≤ mantissa / 2 ^ halvings / 2 := by gcongr
      _ = mantissa / 2 ^ (halvings + 1) := by rw [pow_succ, div_div]

theorem le_repeat_half (halvings mantissa : Nat) (few : halvings * halfLoss ≤ 1) :
    mantissa / 2 ^ halvings * (1 - halvings * halfLoss) ≤
      written (Nat.repeat half halvings (mantissa, 0)) := by
  have lossNonneg : 0 ≤ halfLoss := by unfold halfLoss; norm_num
  induction halvings with
  | zero => simp [Nat.repeat, written]
  | succ halvings inductionHypothesis =>
    push_cast at few ⊢
    have lossLe : halfLoss ≤ 1 := by unfold halfLoss; norm_num
    have fewer : halvings * halfLoss ≤ 1 := by linarith
    have product : 0 ≤ halvings * halfLoss * halfLoss := by positivity
    calc mantissa / 2 ^ (halvings + 1) * (1 - (halvings + 1) * halfLoss)
        ≤ mantissa / 2 ^ (halvings + 1) * ((1 - halvings * halfLoss) * (1 - halfLoss)) := by
          refine mul_le_mul_of_nonneg_left (by linarith) (by positivity)
      _ = mantissa / 2 ^ halvings * (1 - halvings * halfLoss) / 2 * (1 - halfLoss) := by
          rw [pow_succ]
          ring
      _ ≤ written (Nat.repeat half halvings (mantissa, 0)) / 2 * (1 - halfLoss) := by
          have lossRest : 0 ≤ 1 - halfLoss := by linarith
          have lessLoss := inductionHypothesis fewer
          gcongr
      _ ≤ written (half (Nat.repeat half halvings (mantissa, 0))) := le_half _

/-- The digits and places of a mantissa behind an exponent, before any place is dropped. -/
def spread (mantissa : Nat) : Int → Nat × Nat
  | .ofNat doublings => (mantissa <<< doublings, 0)
  | .negSucc halvings => Nat.repeat half (halvings + 1) (mantissa, 0)

theorem spread_le (mantissa : Nat) (exponent : Int) :
    written (spread mantissa exponent) ≤ mantissa * 2 ^ exponent := by
  cases exponent with
  | ofNat doublings =>
    simp [spread, written, Nat.shiftLeft_eq]
  | negSucc halvings =>
    rw [zpow_negSucc, ← div_eq_mul_inv]
    exact repeat_half_le _ _

theorem le_spread {mantissa : Nat} {exponent : Int} (least : -1074 ≤ exponent) :
    mantissa * 2 ^ exponent * (1 - 1074 * halfLoss) ≤ written (spread mantissa exponent) := by
  have lossNonneg : 0 ≤ halfLoss := by unfold halfLoss; norm_num
  cases exponent with
  | ofNat doublings =>
    have exact : written (spread mantissa (.ofNat doublings)) = mantissa * 2 ^ doublings := by
      simp [spread, written, Nat.shiftLeft_eq]
    rw [exact]
    have nonneg : (0 : Rat) ≤ mantissa * 2 ^ doublings := by positivity
    change (mantissa : Rat) * 2 ^ ((doublings : Nat) : Int) * _ ≤ _
    rw [zpow_natCast]
    nlinarith
  | negSucc halvings =>
    have few : halvings + 1 ≤ 1074 := by omega
    have castFew : ((halvings + 1 : Nat) : Rat) ≤ 1074 := by exact_mod_cast few
    have small : ((halvings + 1 : Nat) : Rat) * halfLoss ≤ 1074 * halfLoss := by gcongr
    rw [zpow_negSucc, ← div_eq_mul_inv]
    refine le_trans ?_ (le_repeat_half _ _ ?_)
    · exact mul_le_mul_of_nonneg_left (by linarith) (by positivity)
    · exact small.trans (by unfold halfLoss; norm_num)

/-! ## Dropping places -/

theorem dropDigit_mono {digits digits' : Nat} (ordered : digits ≤ digits') :
    dropDigit digits ≤ dropDigit digits' := by
  unfold dropDigit
  split <;> split <;> omega

theorem dropDigit_mul (digits : Nat) : dropDigit (digits * 10) = digits := by
  unfold dropDigit
  split <;> omega

theorem repeat_dropDigit_mono (count : Nat) {digits digits' : Nat} (ordered : digits ≤ digits') :
    Nat.repeat dropDigit count digits ≤ Nat.repeat dropDigit count digits' := by
  induction count with
  | zero => exact ordered
  | succ count inductionHypothesis => exact dropDigit_mono inductionHypothesis

theorem repeat_dropDigit_mul (count digits : Nat) :
    Nat.repeat dropDigit count (digits * 10 ^ count) = digits := by
  induction count generalizing digits with
  | zero => simp [Nat.repeat]
  | succ count inductionHypothesis =>
    rw [Nat.repeat, pow_succ, mul_comm (10 ^ count), ← mul_assoc, inductionHypothesis,
      dropDigit_mul]

theorem dropPlaces_short {digits : Nat} (short : digits < leadingBit) (places : Nat) :
    dropPlaces digits places = (digits, places) := by
  cases places with
  | zero => rfl
  | succ fewer => rw [dropPlaces, if_pos short]

theorem dropPlaces_long {digits : Nat} (long : leadingBit ≤ digits) (fewer : Nat) :
    dropPlaces digits (fewer + 1) = dropPlaces (dropDigit digits) fewer := by
  rw [dropPlaces, if_neg (Nat.not_lt.2 long)]

theorem written_mul (digits places : Nat) :
    written (digits * 10, places + 1) = written (digits, places) := by
  simp only [written, pow_succ]
  push_cast
  field_simp

/-- Dropping places does not look at places that are zero. -/
theorem written_dropPlaces_mul (digits places : Nat) :
    written (dropPlaces (digits * 10) (places + 1)) = written (dropPlaces digits places) := by
  by_cases short : digits * 10 < leadingBit
  · rw [dropPlaces_short short, dropPlaces_short (by omega), written_mul]
  · rw [dropPlaces_long (Nat.not_lt.1 short), dropDigit_mul]

theorem written_dropPlaces_pow (digits places count : Nat) :
    written (dropPlaces (digits * 10 ^ count) (places + count)) =
      written (dropPlaces digits places) := by
  induction count with
  | zero => simp
  | succ count inductionHypothesis =>
    rw [pow_succ, ← mul_assoc, ← add_assoc, written_dropPlaces_mul, inductionHypothesis]

theorem dropPlaces_mono (places : Nat) {digits digits' : Nat} (ordered : digits ≤ digits') :
    written (dropPlaces digits places) ≤ written (dropPlaces digits' places) := by
  induction places generalizing digits digits' with
  | zero =>
    simp only [dropPlaces, written, pow_zero, div_one]
    exact_mod_cast ordered
  | succ fewer inductionHypothesis =>
    by_cases long : leadingBit ≤ digits
    · rw [dropPlaces_long long, dropPlaces_long (long.trans ordered)]
      exact inductionHypothesis (dropDigit_mono ordered)
    by_cases long' : leadingBit ≤ digits'
    · -- The fewest digits that lose one still say more than any that keep it.
      have kept : digits ≤ dropDigit leadingBit * 10 := by
        have above : leadingBit ≤ dropDigit leadingBit * 10 := by decide
        omega
      rw [dropPlaces_short (Nat.not_le.1 long), dropPlaces_long long']
      calc written (digits, fewer + 1)
          ≤ written (dropDigit leadingBit * 10, fewer + 1) := by
            unfold written
            simp only
            gcongr
        _ = written (dropPlaces (dropDigit leadingBit) fewer) := by
            rw [written_mul, dropPlaces_short (by decide)]
        _ ≤ written (dropPlaces (dropDigit digits') fewer) :=
            inductionHypothesis (dropDigit_mono long')
    · rw [dropPlaces_short (Nat.not_le.1 long), dropPlaces_short (Nat.not_le.1 long')]
      unfold written
      simp only
      gcongr

/-- The digits of a number that are left with `placesLimit` places. -/
def placed (number : Nat × Nat) : Nat :=
  Nat.repeat dropDigit (number.2 - placesLimit) number.1 * 10 ^ (placesLimit - number.2)

theorem repeat_dropDigit_add (count extra digits : Nat) :
    Nat.repeat dropDigit (count + extra) (digits * 10 ^ extra) =
      Nat.repeat dropDigit count digits := by
  induction count with
  | zero => rw [Nat.zero_add, repeat_dropDigit_mul, Nat.repeat]
  | succ count inductionHypothesis =>
    rw [Nat.add_right_comm, Nat.repeat, inductionHypothesis, Nat.repeat]

private theorem placed_eq {digits places more : Nat} (enough : places ≤ more)
    (many : placesLimit ≤ more) :
    placed (digits, places) =
      Nat.repeat dropDigit (more - placesLimit) (digits * 10 ^ (more - places)) := by
  simp only [placed]
  by_cases full : placesLimit ≤ places
  · have split : more - placesLimit = (places - placesLimit) + (more - places) := by omega
    rw [split, repeat_dropDigit_add, Nat.sub_eq_zero_of_le full, pow_zero, mul_one]
  · have split : more - places = (placesLimit - places) + (more - placesLimit) := by omega
    have few : places - placesLimit = 0 := by omega
    rw [split, pow_add, ← mul_assoc, repeat_dropDigit_mul, few]
    rfl

theorem placed_mono {number number' : Nat × Nat} (ordered : written number ≤ written number') :
    placed number ≤ placed number' := by
  obtain ⟨digits, places⟩ := number
  obtain ⟨digits', places'⟩ := number'
  have enough : places ≤ max placesLimit (max places places') := by omega
  have enough' : places' ≤ max placesLimit (max places places') := by omega
  have many : placesLimit ≤ max placesLimit (max places places') := by omega
  generalize max placesLimit (max places places') = more at enough enough' many
  rw [placed_eq enough many, placed_eq enough' many]
  apply repeat_dropDigit_mono _
  unfold written at ordered
  have scaled : (digits * 10 ^ (more - places) : Rat) ≤ digits' * 10 ^ (more - places') := by
    have positive : (0 : Rat) ≤ 10 ^ more := by positivity
    calc (digits * 10 ^ (more - places) : Rat)
        = 10 ^ more * (digits / 10 ^ places) := by
          rw [pow_sub₀ _ (by norm_num) enough]
          ring
      _ ≤ 10 ^ more * (digits' / 10 ^ places') := mul_le_mul_of_nonneg_left ordered positive
      _ = digits' * 10 ^ (more - places') := by
          rw [pow_sub₀ _ (by norm_num) enough']
          ring
  exact_mod_cast scaled

theorem written_dropPlaces_placed (digits places : Nat) :
    written (dropPlaces (placed (digits, places)) placesLimit) =
      written (dropPlaces (Nat.repeat dropDigit (places - placesLimit) digits)
        (places - (places - placesLimit))) := by
  simp only [placed]
  by_cases full : placesLimit ≤ places
  · rw [Nat.sub_eq_zero_of_le full, pow_zero, mul_one, Nat.sub_sub_self full]
  · have few : places - placesLimit = 0 := by omega
    have dropped := written_dropPlaces_pow digits places (placesLimit - places)
    rw [Nat.add_sub_cancel' (by omega)] at dropped
    rw [few]
    exact dropped

/-! ## Magnitudes -/

/-- What the decimal of a magnitude is worth. -/
def settled (mantissa : Nat) (exponent : Int) : Rat :=
  written (dropPlaces (placed (spread mantissa exponent)) placesLimit)

theorem settled_nonneg (mantissa : Nat) (exponent : Int) : 0 ≤ settled mantissa exponent :=
  written_nonneg _

private theorem settled_le_of_spread {mantissa mantissa' : Nat} {exponent exponent' : Int}
    (ordered : written (spread mantissa exponent) ≤ written (spread mantissa' exponent')) :
    settled mantissa exponent ≤ settled mantissa' exponent' :=
  dropPlaces_mono placesLimit (placed_mono ordered)

theorem settled_zero (exponent : Int) : settled 0 exponent = 0 := by
  have none : settled 0 0 = 0 := by
    have dropped : dropPlaces (placed (spread 0 0)) placesLimit = (0, placesLimit) := by decide
    rw [settled, dropped]
    simp [written]
  refine le_antisymm (none ▸ settled_le_of_spread ?_) (settled_nonneg _ _)
  exact (spread_le 0 exponent).trans (by simpa using written_nonneg _)

/-- Neighbouring magnitudes are too far apart for halving to bring them together. -/
theorem settled_mono {mantissa mantissa' : Nat} {exponent exponent' : Int}
    (canonical : Canonical mantissa exponent) (canonical' : Canonical mantissa' exponent')
    (ordered : Precedes mantissa exponent mantissa' exponent') :
    settled mantissa exponent ≤ settled mantissa' exponent' := by
  by_cases same : exponent = exponent' ∧ mantissa = mantissa'
  · rw [same.1, same.2]
  have apart : ((mantissa : Rat) + 1) * 2 ^ exponent ≤ mantissa' * 2 ^ exponent' := by
    rcases ordered.2 with less | ⟨rfl, less⟩
    · have leading : leadingBit ≤ mantissa' :=
        canonical'.least_or_leading.resolve_left (by have := canonical.least_le; omega)
      have room : mantissa + 1 ≤ mantissa' * 2 := by have := canonical.mantissa_lt; omega
      have castRoom : (mantissa : Rat) + 1 ≤ mantissa' * 2 := by exact_mod_cast room
      calc ((mantissa : Rat) + 1) * 2 ^ exponent
          ≤ mantissa' * 2 * 2 ^ exponent := by gcongr
        _ = mantissa' * 2 ^ (exponent + 1) := by
          rw [zpow_add_one₀ (by norm_num)]
          ring
        _ ≤ mantissa' * 2 ^ exponent' := by
          gcongr
          · norm_num
          · omega
    · have more : mantissa + 1 ≤ mantissa' := by omega
      have castMore : (mantissa : Rat) + 1 ≤ mantissa' := by exact_mod_cast more
      gcongr
  have small : (mantissa : Rat) + 1 ≤ 2 ^ 53 := by
    have := canonical.mantissa_lt
    have bound : mantissa + 1 ≤ 2 ^ 53 := by unfold leadingBit at this; omega
    exact_mod_cast bound
  apply settled_le_of_spread
  calc written (spread mantissa exponent)
      ≤ mantissa * 2 ^ exponent := spread_le _ _
    _ ≤ (mantissa + 1) * (1 - 1074 * halfLoss) * 2 ^ exponent := by
      gcongr
      unfold halfLoss
      linarith
    _ = (mantissa + 1) * 2 ^ exponent * (1 - 1074 * halfLoss) := by ring
    _ ≤ mantissa' * 2 ^ exponent' * (1 - 1074 * halfLoss) := by
      apply mul_le_mul_of_nonneg_right apart
      unfold halfLoss
      norm_num
    _ ≤ written (spread mantissa' exponent') := le_spread canonical'.least_le

end Binary

namespace Decimal

open Binary

private theorem toRat_ofParts? {negative : Bool} {digits places : Nat} {decimal : Decimal}
    (made : (Figure.ofParts? negative digits places).map Figure.value = some decimal) :
    decimal.toRat = if negative then -written (digits, places) else written (digits, places) := by
  unfold Figure.ofParts? at made
  split at made
  · obtain rfl := Option.some.inj made
    rw [Figure.value, toRat_signed]
    cases negative
    · rfl
    · exact neg_div _ _
  · simp at made

theorem toRat_ofBinary? {number : Float} {negative : Bool} {mantissa : Nat} {exponent : Int}
    {decimal : Decimal} (taken : parts number = .finite negative mantissa exponent)
    (converted : ofBinary? number = some decimal) :
    decimal.toRat = if negative then -settled mantissa exponent else settled mantissa exponent := by
  unfold ofBinary? at converted
  rw [taken] at converted
  cases exponent with
  | ofNat doublings =>
    rw [toRat_ofParts? converted, settled, spread, written_dropPlaces_placed]
    rfl
  | negSucc halvings =>
    rw [settled, spread]
    simp only at converted
    generalize Nat.repeat half (halvings + 1) (mantissa, 0) = number at converted
    rw [toRat_ofParts? converted, written_dropPlaces_placed]

theorem exists_parts {number : Float} {decimal : Decimal}
    (converted : ofBinary? number = some decimal) :
    ∃ negative mantissa exponent, parts number = .finite negative mantissa exponent := by
  unfold ofBinary? at converted
  split at converted
  next taken => exact ⟨_, _, _, taken⟩
  next taken => exact ⟨_, _, _, taken⟩
  next => simp at converted

/-- **The decimal of a binary number keeps the order.** -/
theorem ofBinary?_mono {number number' : Float} {decimal decimal' : Decimal}
    (ordered : number ≤ number') (converted : ofBinary? number = some decimal)
    (converted' : ofBinary? number' = some decimal') : decimal ≤ decimal' := by
  obtain ⟨negative, mantissa, exponent, taken⟩ := exists_parts converted
  obtain ⟨negative', mantissa', exponent', taken'⟩ := exists_parts converted'
  have canonical := canonical_of_parts taken
  have canonical' := canonical_of_parts taken'
  rw [le_iff, toRat_ofBinary? taken converted, toRat_ofBinary? taken' converted']
  have nonneg := settled_nonneg mantissa exponent
  have nonneg' := settled_nonneg mantissa' exponent'
  rcases ordered_of_le ordered taken taken' with
    ⟨below, above⟩ | ⟨rfl, rfl, precedes⟩ | ⟨rfl, rfl, precedes⟩
  · calc (if negative = true then -settled mantissa exponent else settled mantissa exponent)
        ≤ 0 := by
          rcases below with rfl | rfl
          · simpa using nonneg
          · simp [settled_zero]
      _ ≤ if negative' = true then -settled mantissa' exponent' else settled mantissa' exponent' := by
          rcases above with rfl | rfl
          · simpa using nonneg'
          · simp [settled_zero]
  · simpa using settled_mono canonical canonical' precedes
  · simpa using settled_mono canonical' canonical precedes

/-! ## Numbers that have a decimal -/

private theorem digits_half_lt {number : Nat × Nat} (room : number.1 < coefficientLimit) :
    (half number).1 < coefficientLimit := by
  obtain ⟨digits, places⟩ := number
  simp only [half]
  split
  next odd => exact odd.2
  next => exact Nat.lt_of_le_of_lt (Nat.div_le_self _ _) room

private theorem dropDigit_le (digits : Nat) : dropDigit digits ≤ digits := by
  unfold dropDigit
  split <;> omega

private theorem dropPlaces_le (digits places : Nat) :
    (dropPlaces digits places).1 ≤ digits ∧ (dropPlaces digits places).2 ≤ places := by
  induction places generalizing digits with
  | zero => exact ⟨le_rfl, le_rfl⟩
  | succ fewer inductionHypothesis =>
    unfold dropPlaces
    split
    next => exact ⟨le_rfl, le_rfl⟩
    next =>
      obtain ⟨digitsLe, placesLe⟩ := inductionHypothesis (dropDigit digits)
      exact ⟨digitsLe.trans (dropDigit_le digits), placesLe.trans (Nat.le_succ _)⟩

/-- A number with a negative exponent has a decimal. -/
private theorem exists_ofBinary?_of_halvings {number : Float} {negative : Bool} {mantissa halvings : Nat}
    (taken : parts number = .finite negative mantissa (.negSucc halvings)) :
    ∃ decimal, ofBinary? number = some decimal := by
  have halved : ∀ count, (Nat.repeat half count (mantissa, 0)).1 < coefficientLimit := by
    intro count
    induction count with
    | zero =>
      exact Nat.lt_of_lt_of_le (canonical_of_parts taken).mantissa_lt (by decide)
    | succ count inductionHypothesis => exact digits_half_lt inductionHypothesis
  have dropped : ∀ count digits, Nat.repeat dropDigit count digits ≤ digits := by
    intro count digits
    induction count with
    | zero => exact le_rfl
    | succ count inductionHypothesis => exact (dropDigit_le _).trans inductionHypothesis
  unfold ofBinary?
  rw [taken]
  simp only
  have digitsLt := halved (halvings + 1)
  generalize Nat.repeat half (halvings + 1) (mantissa, 0) = number at digitsLt
  obtain ⟨digits, places⟩ := number
  obtain ⟨digitsLe, placesLe⟩ := dropPlaces_le
    (Nat.repeat dropDigit (places - placesLimit) digits) (places - (places - placesLimit))
  have fits : (dropPlaces (Nat.repeat dropDigit (places - placesLimit) digits)
        (places - (places - placesLimit))).1 < coefficientLimit ∧
      (dropPlaces (Nat.repeat dropDigit (places - placesLimit) digits)
        (places - (places - placesLimit))).2 ≤ placesLimit :=
    ⟨(digitsLe.trans (dropped _ _)).trans_lt digitsLt, by omega⟩
  exact ⟨_, by rw [Figure.ofParts?, dif_pos fits]; rfl⟩

/-- A number below two to the ninety-six has a decimal. -/
theorem exists_ofBinary? {number : Float} {negative : Bool} {mantissa : Nat} {exponent : Int}
    (taken : parts number = .finite negative mantissa exponent) (small : exponent ≤ 43) :
    ∃ decimal, ofBinary? number = some decimal := by
  cases exponent with
  | negSucc halvings => exact exists_ofBinary?_of_halvings taken
  | ofNat doublings =>
    have few : doublings ≤ 43 := Int.ofNat_le.1 small
    have mantissaLt : mantissa < 2 ^ 53 := (canonical_of_parts taken).mantissa_lt
    have fits : mantissa <<< doublings < coefficientLimit ∧ 0 ≤ placesLimit := by
      refine ⟨?_, Nat.zero_le _⟩
      calc mantissa <<< doublings
          = mantissa * 2 ^ doublings := Nat.shiftLeft_eq _ _
        _ ≤ mantissa * 2 ^ 43 := Nat.mul_le_mul_left _ (Nat.pow_le_pow_right (by decide) few)
        _ < 2 ^ 53 * 2 ^ 43 := Nat.mul_lt_mul_of_pos_right mantissaLt (by decide)
        _ = coefficientLimit := by decide
    unfold ofBinary?
    rw [taken]
    simp only
    exact ⟨_, by rw [Figure.ofParts?, dif_pos fits]; rfl⟩

end Decimal

namespace Deposit

theorem target?_mono {target target' : Float} {decimal decimal' : Decimal}
    (ordered : target ≤ target') (targetIs : Deposit.target? target = some decimal)
    (targetIs' : Deposit.target? target' = some decimal') : decimal ≤ decimal' :=
  Decimal.ofBinary?_mono ordered (Option.filter_eq_some_iff.1 targetIs).1
    (Option.filter_eq_some_iff.1 targetIs').1

/-- Every number from nought to ten is a target. -/
theorem exists_target {target : Float} (nonneg : (0 : Float) ≤ target) (le : target ≤ 10) :
    ∃ decimal, target? target = some decimal ∧ 0 ≤ decimal.toRat ∧ decimal.toRat ≤ 10 := by
  have zeroParts : Binary.parts (0 : Float) = .finite false 0 (-1074) := by decide +kernel
  have tenParts : Binary.parts (10 : Float) = .finite false (5 * 2 ^ 50) (-49) := by decide +kernel
  have zeroIs : Decimal.ofBinary? (0 : Float) = some 0 := by decide +kernel
  have tenIs : Decimal.ofBinary? (10 : Float) =
      some (.signed false 10 0 (by decide) (by decide)) := by decide +kernel
  obtain ⟨negative, mantissa, exponent, taken⟩ :=
    Binary.exists_parts_of_between nonneg le zeroParts tenParts
  have small := Binary.exponent_le_of_between nonneg le zeroParts taken tenParts
  obtain ⟨decimal, found⟩ := Decimal.exists_ofBinary? taken (small.trans (by decide))
  have least := Decimal.le_iff.1 (Decimal.ofBinary?_mono nonneg zeroIs found)
  have most := Decimal.le_iff.1 (Decimal.ofBinary?_mono le found tenIs)
  rw [Decimal.toRat_zero] at least
  rw [Decimal.toRat_signed] at most
  refine ⟨decimal, Option.filter_eq_some_iff.2 ⟨found, ?_⟩, least, by simpa using most⟩
  rw [decide_eq_true_eq, Decimal.lt_iff, Decimal.toRat_neg, Decimal.toRat_one]
  linarith

end Deposit

end Collateral

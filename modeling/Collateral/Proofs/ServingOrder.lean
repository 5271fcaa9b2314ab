import Collateral.Proofs.Coverage

/-!
Contract: the orders in which collateral is used and debts are served.

Both go by a number, and by the currency code among buckets of the same number. So they tell buckets
of different currencies apart. Collateral and debts stand in one order each, in whatever order the
buckets are given, also where haircuts or sizes tie. Hence the charge is the same as well, with every
rounding and every failure on the way to it.

Owns: both orders, and the collateral, the debts and the charge of rearranged buckets.
-/

namespace Collateral.Netting

/-! ## Orders by a number and the currency code -/

/-- A bucket of a lower number comes first, and of equal numbers the one of the lower code. -/
def Ranked (number : Bucket → Rat) (left right : Bucket) : Prop :=
  number left < number right ∨
    number left = number right ∧ left.currency.code ≤ right.currency.code

namespace Ranked

variable {number : Bucket → Rat}

theorem total (number : Bucket → Rat) (left right : Bucket) :
    Ranked number left right ∨ Ranked number right left := by
  rcases lt_trichotomy (number left) (number right) with less | same | more
  · exact .inl (.inl less)
  · exact (String.le_total left.currency.code right.currency.code).imp
      (fun before => .inr ⟨same, before⟩) fun after => .inr ⟨same.symm, after⟩
  · exact .inr (.inl more)

theorem trans {first second third : Bucket} (forward : Ranked number first second)
    (onward : Ranked number second third) : Ranked number first third := by
  rcases forward with less | ⟨same, before⟩
  · rcases onward with alsoLess | ⟨alsoSame, -⟩
    · exact .inl (less.trans alsoLess)
    · exact .inl (less.trans_eq alsoSame)
  · rcases onward with less | ⟨alsoSame, alsoBefore⟩
    · exact .inl (same.trans_lt less)
    · exact .inr ⟨same.trans alsoSame, String.le_trans before alsoBefore⟩

theorem currency_eq {left right : Bucket} (forward : Ranked number left right)
    (backward : Ranked number right left) : left.currency = right.currency := by
  have codes : left.currency.code = right.currency.code := by
    rcases forward with less | ⟨same, before⟩
    · rcases backward with more | ⟨same, -⟩ <;> linarith
    · rcases backward with more | ⟨-, after⟩
      · linarith
      · exact String.le_antisymm before after
  cases left with
  | mk leftCurrency _ _ =>
    cases right with
    | mk rightCurrency _ _ =>
      cases leftCurrency
      cases rightCurrency
      simpa using codes

/-- Buckets of different currencies have one sorted form. -/
theorem sortBy_eq_of_perm {mayPrecede : Bucket → Bucket → Bool}
    (ranks : ∀ left right, mayPrecede left right ↔ Ranked number left right)
    {left right : List Bucket} (apart : (left.map Bucket.currency).Nodup)
    (permutation : left.Perm right) : sortBy mayPrecede left = sortBy mayPrecede right := by
  apply Collateral.sortBy_eq_of_perm _ _ _ permutation
  · intro first second
    rw [ranks, ranks]
    exact total number first second
  · intro first second third
    rw [ranks, ranks, ranks]
    exact trans
  · intro first firstMember second secondMember forward backward
    rw [ranks] at forward backward
    exact List.inj_on_of_nodup_map apart firstMember secondMember (currency_eq forward backward)

end Ranked

/-! ## The two orders -/

theorem cheaper_iff (left right : Bucket) :
    cheaper left right ↔ Ranked (fun bucket => bucket.rate.toRat) left right := by
  simp only [cheaper, Ranked, Bool.or_eq_true, Bool.and_eq_true, decide_eq_true_eq,
    Bool.not_eq_true', decide_eq_false_iff_not, Decimal.lt_iff, Decimal.toRat_inj]
  exact Iff.rfl

theorem larger_iff (left right : Bucket) :
    larger left right ↔ Ranked (fun bucket => -bucket.value.toRat) left right := by
  simp only [larger, Ranked, Bool.or_eq_true, Bool.and_eq_true, decide_eq_true_eq,
    Bool.not_eq_true', decide_eq_false_iff_not, Decimal.lt_iff, neg_lt_neg_iff, neg_inj,
    Decimal.toRat_inj]
  exact Iff.rfl

theorem cheaper_total (left right : Bucket) : cheaper left right ∨ cheaper right left := by
  rw [cheaper_iff, cheaper_iff]
  exact Ranked.total _ left right

theorem cheaper_trans (first second third : Bucket) (forward : cheaper first second)
    (onward : cheaper second third) : cheaper first third := by
  rw [cheaper_iff] at forward onward ⊢
  exact forward.trans onward

/-! ## Rearranged buckets -/

section Rearranged

variable {left right : List Bucket}

theorem collateral_perm (apart : (left.map Bucket.currency).Nodup)
    (permutation : left.Perm right) : collateral left = collateral right :=
  Ranked.sortBy_eq_of_perm cheaper_iff (apart.sublist (List.filter_sublist.map Bucket.currency))
    (permutation.filter _)

theorem debts_perm (apart : (left.map Bucket.currency).Nodup) (permutation : left.Perm right) :
    debts left = debts right := by
  apply Ranked.sortBy_eq_of_perm larger_iff _ ((permutation.filter _).map _)
  rw [List.map_map]
  exact apart.sublist (List.filter_sublist.map Bucket.currency)

/-- The exact charge does not depend on the order in which the buckets are given. -/
theorem exactCharge_perm (apart : (left.map Bucket.currency).Nodup)
    (permutation : left.Perm right) : exactCharge left = exactCharge right := by
  rw [exactCharge, exactCharge, collateral_perm apart permutation, debts_perm apart permutation]

/-- **Nor does the computed charge.** -/
theorem charge_perm [Rounding] (apart : (left.map Bucket.currency).Nodup)
    (permutation : left.Perm right) : charge left = charge right := by
  rw [charge, charge, collateral_perm apart permutation, debts_perm apart permutation]

end Rearranged

end Collateral.Netting

import Collateral.Netting
import Collateral.Proofs.Drift
import Collateral.Proofs.Greedy
import Collateral.Proofs.Sorting

/-!
Contract: the computed charge is the exact cost, as far as rounding allows.

Every draw takes what both sides allow, so it uses up one side without rounding, and rounds only
what is left of the other. Buckets and debts never grow and never fall below zero. Hence the draws
cost what covering the debts costs exactly, but for one rounding a draw at the highest rate.

Owns: what a draw does, what covering leaves, the number of draws, and the distance of the charge
from the exact cost.
-/

namespace Collateral

/-- A bucket as a lot of collateral. -/
def Bucket.lot (bucket : Bucket) : Netting.Lot :=
  ⟨bucket.rate.toRat, bucket.value.toRat⟩

/-- A bucket of no negative rate or worth, neither of which goes beyond its bound. -/
structure Bucket.Within (top peak : Rat) (bucket : Bucket) : Prop where
  rate_nonneg : 0 ≤ bucket.rate.toRat
  rate_le : bucket.rate.toRat ≤ top
  value_nonneg : 0 ≤ bucket.value.toRat
  value_le : bucket.value.toRat ≤ peak

namespace Netting

section Amounts

variable {grain top peak : Rat}

/-- The debts in total. -/
def owed (debts : List Bucket) : Rat :=
  (debts.map fun debt => debt.value.toRat).sum

/-- The exact cost of draws. -/
def drawn (draws : List Draw) : Rat :=
  (draws.map fun draw => draw.source.rate.toRat * draw.used.toRat).sum

/-- What draws take from the collateral. -/
def taken (draws : List Draw) : Rat :=
  (draws.map fun draw => draw.used.toRat).sum

theorem owed_nonneg {debts : List Bucket} (nonneg : ∀ debt ∈ debts, 0 ≤ debt.value.toRat) :
    0 ≤ owed debts := by
  apply List.sum_nonneg
  intro value member
  obtain ⟨debt, debtMember, rfl⟩ := List.mem_map.1 member
  exact nonneg debt debtMember

@[simp] theorem drawn_nil : drawn [] = 0 := rfl

@[simp] theorem drawn_cons (draw : Draw) (draws : List Draw) :
    drawn (draw :: draws) = draw.source.rate.toRat * draw.used.toRat + drawn draws := by
  simp [drawn]

@[simp] theorem drawn_append (front back : List Draw) :
    drawn (front ++ back) = drawn front + drawn back := by
  simp [drawn]

@[simp] theorem taken_nil : taken [] = 0 := rfl

@[simp] theorem taken_cons (draw : Draw) (draws : List Draw) :
    taken (draw :: draws) = draw.used.toRat + taken draws := by
  simp [taken]

@[simp] theorem taken_append (front back : List Draw) :
    taken (front ++ back) = taken front + taken back := by
  simp [taken]

theorem sound_of_within {pool : List Bucket} (within : ∀ bucket ∈ pool, bucket.Within top peak) :
    Sound (pool.map Bucket.lot) := by
  intro lot member
  obtain ⟨bucket, bucketMember, rfl⟩ := List.mem_map.1 member
  exact ⟨(within bucket bucketMember).rate_nonneg, (within bucket bucketMember).value_nonneg⟩

theorem topped_of_within {pool : List Bucket} (within : ∀ bucket ∈ pool, bucket.Within top peak) :
    ∀ lot ∈ pool.map Bucket.lot, lot.rate ≤ top := by
  intro lot member
  obtain ⟨bucket, bucketMember, rfl⟩ := List.mem_map.1 member
  exact (within bucket bucketMember).rate_le

/-- What a draw takes and leaves on either side. -/
structure Draw.Fair (grain peak : Rat) (source debt : Bucket) (draw : Draw) : Prop where
  used_nonneg : 0 ≤ draw.used.toRat
  used_le : draw.used.toRat ≤ source.value.toRat
  left_nonneg : 0 ≤ draw.left.toRat
  left_le : draw.left.toRat ≤ source.value.toRat
  uncovered_nonneg : 0 ≤ draw.uncovered.toRat
  uncovered_le : draw.uncovered.toRat ≤ debt.value.toRat
  left_near : |draw.left.toRat - (source.value.toRat - draw.used.toRat)| ≤ grain * (1 + peak)
  uncovered_near :
    |draw.uncovered.toRat - (debt.value.toRat - draw.used.toRat)| ≤ grain * (1 + peak)
  one_used_up : draw.left = 0 ∧ draw.used = source.value ∨
    draw.uncovered = 0 ∧ draw.used = debt.value

/-- A draw costs what covering its part of the debt costs, but for one rounding at the highest
rate. -/
private theorem Draw.Fair.cost {source debt : Bucket} {draw : Draw} {pool : List Lot}
    (fair : draw.Fair grain peak source debt) (here : source.Within top peak) (sound : Sound pool)
    (topped : ∀ lot ∈ pool, lot.rate ≤ top) (more : Rat) :
    |source.rate.toRat * draw.used.toRat +
        exactCost (⟨source.rate.toRat, draw.left.toRat⟩ :: pool) (draw.uncovered.toRat + more) -
        exactCost (source.lot :: pool) (debt.value.toRat + more)| ≤ top * (grain * (1 + peak)) := by
  have topNonneg : 0 ≤ top := here.rate_nonneg.trans here.rate_le
  have split : exactCost (source.lot :: pool)
      (draw.used.toRat + (debt.value.toRat - draw.used.toRat + more)) =
        source.lot.rate * draw.used.toRat +
          exactCost ({ source.lot with worth := source.lot.worth - draw.used.toRat } :: pool)
            (debt.value.toRat - draw.used.toRat + more) := exactCost_cons_split _ _
  rw [show draw.used.toRat + (debt.value.toRat - draw.used.toRat + more) =
    debt.value.toRat + more by ring] at split
  rw [split, Bucket.lot, add_sub_add_left_eq_sub]
  rcases fair.one_used_up with ⟨none, all⟩ | ⟨none, all⟩
  · rw [none, all, sub_self, Decimal.toRat_zero]
    have soundRest : Sound (⟨source.rate.toRat, 0⟩ :: pool) :=
      List.forall_mem_cons.2 ⟨⟨here.rate_nonneg, le_rfl⟩, sound⟩
    have toppedRest : ∀ lot ∈ (⟨source.rate.toRat, 0⟩ :: pool : List Lot), lot.rate ≤ top :=
      List.forall_mem_cons.2 ⟨here.rate_le, topped⟩
    refine (exactCost_debt_near soundRest toppedRest topNonneg _ _).trans
      (mul_le_mul_of_nonneg_left ?_ topNonneg)
    rw [add_sub_add_right_eq_sub, ← all]
    exact fair.uncovered_near
  · rw [none, all, sub_self, Decimal.toRat_zero]
    refine (exactCost_cons_worth_near here.rate_nonneg here.rate_le sound topped _ _).trans
      (mul_le_mul_of_nonneg_left ?_ topNonneg)
    rw [← all]
    exact fair.left_near

/-- What covering a debt does to a pool. -/
structure Coverage.Accounts (grain top peak : Rat) (pool : List Bucket) (debt : Rat)
    (debts : Nat) (coverage : Coverage) : Prop where
  pool_within : ∀ bucket ∈ coverage.pool, bucket.Within top peak
  draws_within : ∀ draw ∈ coverage.draws,
    draw.source.Within top peak ∧ 0 ≤ draw.used.toRat ∧ draw.used.toRat ≤ peak
  draws_count : coverage.draws.length + coverage.pool.length ≤ pool.length + debts
  /-- Whatever is taken is gone from one side for good, and rounding never adds to the other. -/
  taken_le : taken coverage.draws + capacity (coverage.pool.map Bucket.lot) ≤
    capacity (pool.map Bucket.lot) + debt
  cost : ∀ more, 0 ≤ more →
    |drawn coverage.draws + exactCost (coverage.pool.map Bucket.lot) more -
        exactCost (pool.map Bucket.lot) (debt + more)| ≤
      coverage.draws.length * (top * (grain * (1 + peak)))

private theorem Draw.Fair.within {source debt : Bucket} {draw : Draw}
    (fair : draw.Fair grain peak source debt) (sourceIs : draw.source = source)
    (here : source.Within top peak) :
    draw.source.Within top peak ∧ 0 ≤ draw.used.toRat ∧ draw.used.toRat ≤ peak := by
  rw [sourceIs]
  exact ⟨here, fair.used_nonneg, fair.used_le.trans here.value_le⟩

/-- A draw that uses up the front bucket, and what covers the rest of the debt. -/
private theorem Draw.Fair.accounts_usedUp {source debt : Bucket} {draw : Draw} {pool : List Bucket}
    {rest : Coverage} (fair : draw.Fair grain peak source debt) (sourceIs : draw.source = source)
    (here : source.Within top peak) (behind : ∀ bucket ∈ pool, bucket.Within top peak)
    (usedUp : draw.left = 0) (accounts : rest.Accounts grain top peak pool draw.uncovered.toRat 1) :
    Coverage.Accounts grain top peak (source :: pool) debt.value.toRat 1
      { rest with draws := draw :: rest.draws } where
  pool_within := accounts.pool_within
  draws_within := List.forall_mem_cons.2 ⟨fair.within sourceIs here, accounts.draws_within⟩
  draws_count := by
    have count := accounts.draws_count
    simp only [List.length_cons]
    omega
  taken_le := by
    have others := accounts.taken_le
    have here : draw.used.toRat + draw.uncovered.toRat ≤ source.value.toRat + debt.value.toRat := by
      rcases fair.one_used_up with ⟨-, all⟩ | ⟨none, all⟩
      · rw [all]
        linarith [fair.uncovered_le]
      · rw [none, all, Decimal.toRat_zero]
        linarith [fair.used_nonneg.trans fair.used_le]
    simp only [taken_cons, List.map_cons, capacity_cons, Bucket.lot]
    linarith
  cost more moreNonneg := by
    have first := fair.cost here (sound_of_within behind) (topped_of_within behind) more
    have others := accounts.cost more moreNonneg
    rw [usedUp, Decimal.toRat_zero, exactCost_cons_of_worthless rfl
      (add_nonneg fair.uncovered_nonneg moreNonneg)] at first
    rw [abs_le] at first others ⊢
    simp only [drawn_cons, sourceIs, List.map_cons, List.length_cons, Nat.cast_succ]
    constructor <;> linarith

/-- A draw that covers the debt and leaves something of the front bucket. -/
private theorem Draw.Fair.accounts_remaining {source debt : Bucket} {draw : Draw}
    {pool : List Bucket} (fair : draw.Fair grain peak source debt)
    (sourceIs : draw.source = source) (here : source.Within top peak)
    (behind : ∀ bucket ∈ pool, bucket.Within top peak) (remains : draw.left ≠ 0) :
    Coverage.Accounts grain top peak (source :: pool) debt.value.toRat 1
      { draws := [draw], pool := { source with value := draw.left } :: pool } where
  pool_within := List.forall_mem_cons.2 ⟨⟨here.rate_nonneg, here.rate_le, fair.left_nonneg,
    fair.left_le.trans here.value_le⟩, behind⟩
  draws_within := List.forall_mem_cons.2 ⟨fair.within sourceIs here, by simp⟩
  draws_count := by
    simp only [List.length_cons, List.length_nil]
    omega
  taken_le := by
    have all : draw.used = debt.value :=
      (fair.one_used_up.resolve_left fun usedUp => remains usedUp.1).2
    simp only [taken_cons, taken_nil, List.map_cons, capacity_cons, Bucket.lot, all]
    linarith [fair.left_le]
  cost more _ := by
    have covered : draw.uncovered = 0 :=
      (fair.one_used_up.resolve_left fun usedUp => remains usedUp.1).1
    have only := fair.cost here (sound_of_within behind) (topped_of_within behind) more
    rw [covered, Decimal.toRat_zero, zero_add] at only
    simpa [sourceIs, Bucket.lot] using only

/-- Covering one debt and then others. -/
private theorem Coverage.Accounts.append {pool : List Bucket} {first rest : Coverage}
    {debt others : Rat} {debts : Nat} (othersNonneg : 0 ≤ others)
    (here : first.Accounts grain top peak pool debt 1)
    (onward : rest.Accounts grain top peak first.pool others debts) :
    Coverage.Accounts grain top peak pool (debt + others) (debts + 1)
      { draws := first.draws ++ rest.draws
        uncovered := first.uncovered ++ rest.uncovered
        pool := rest.pool } where
  pool_within := onward.pool_within
  draws_within := List.forall_mem_append.2 ⟨here.draws_within, onward.draws_within⟩
  draws_count := by
    have hereCount := here.draws_count
    have onwardCount := onward.draws_count
    simp only [List.length_append]
    omega
  taken_le := by
    have hereTaken := here.taken_le
    have onwardTaken := onward.taken_le
    simp only [taken_append]
    linarith
  cost more moreNonneg := by
    have hereCost := here.cost (others + more) (add_nonneg othersNonneg moreNonneg)
    have onwardCost := onward.cost more moreNonneg
    rw [abs_le] at hereCost onwardCost ⊢
    simp only [drawn_append, List.length_append, Nat.cast_add, add_assoc]
    constructor <;> linarith

end Amounts

variable [Rounding] {grain : Rat} [Rounding.Lawful grain] {top peak : Rat}

/-! ## Draws that are made -/

theorem draw_ok {source debt : Bucket} {result : Draw} :
    draw source debt = .ok result ↔
      result.source = source ∧ result.debt = debt ∧ result.used = min debt.value source.value ∧
        source.value.sub result.used = .ok result.left ∧
        debt.value.sub result.used = .ok result.uncovered := by
  simp only [draw, Outcome.bind_ok, Outcome.pure_ok]
  constructor
  · rintro ⟨left, leftIs, uncovered, uncoveredIs, rfl⟩
    exact ⟨rfl, rfl, rfl, leftIs, uncoveredIs⟩
  · rintro ⟨rfl, rfl, usedIs, leftIs, uncoveredIs⟩
    rw [usedIs] at leftIs uncoveredIs
    exact ⟨_, leftIs, _, uncoveredIs, by rw [← usedIs]⟩

/-- What is left of one side of a draw: a part of what was there, one rounding away from exact. -/
private theorem remainder_ok {whole used rest : Decimal} (nonneg : 0 ≤ used.toRat)
    (atMost : used.toRat ≤ whole.toRat) (wholeLe : whole.toRat ≤ peak)
    (subtracted : whole.sub used = .ok rest) :
    0 ≤ rest.toRat ∧ rest.toRat ≤ whole.toRat ∧
      |rest.toRat - (whole.toRat - used.toRat)| ≤ grain * (1 + peak) := by
  have grainNonneg : 0 ≤ grain := Rounding.Lawful.grain_nonneg
  have fit := Decimal.sub_ok.1 subtracted
  refine ⟨Rounding.fit_nonneg (by linarith) fit, Rounding.fit_le (by linarith) fit, ?_⟩
  calc |rest.toRat - (whole.toRat - used.toRat)|
      ≤ grain * (1 + |whole.toRat - used.toRat|) := Rounding.Lawful.fit_error fit
    _ ≤ grain * (1 + peak) := by
        rw [abs_of_nonneg (by linarith)]
        gcongr
        linarith

theorem draw_fair {source debt : Bucket} {result : Draw} (here : source.Within top peak)
    (debtNonneg : 0 ≤ debt.value.toRat) (debtLe : debt.value.toRat ≤ peak)
    (drew : draw source debt = .ok result) : result.Fair grain peak source debt := by
  obtain ⟨-, -, usedIs, leftIs, uncoveredIs⟩ := draw_ok.1 drew
  have used : result.used.toRat = min debt.value.toRat source.value.toRat := by
    rw [usedIs, Decimal.toRat_min]
  have usedNonneg : 0 ≤ result.used.toRat := used ▸ le_min debtNonneg here.value_nonneg
  have usedLe : result.used.toRat ≤ source.value.toRat := used ▸ min_le_right _ _
  obtain ⟨leftNonneg, leftLe, leftNear⟩ := remainder_ok usedNonneg usedLe here.value_le leftIs
  obtain ⟨uncoveredNonneg, uncoveredLe, uncoveredNear⟩ := remainder_ok usedNonneg
    (used ▸ min_le_left _ _) debtLe uncoveredIs
  refine ⟨usedNonneg, usedLe, leftNonneg, leftLe, uncoveredNonneg, uncoveredLe, leftNear,
    uncoveredNear, ?_⟩
  have nothing {whole rest : Decimal} (same : result.used = whole)
      (subtracted : whole.sub result.used = .ok rest) : rest = 0 :=
    Rounding.fit_eq (by simp [same]) (Decimal.sub_ok.1 subtracted)
  rcases le_total debt.value.toRat source.value.toRat with debtLess | sourceLess
  · have same : result.used = debt.value :=
      Decimal.toRat_injective (used.trans (min_eq_left debtLess))
    exact .inr ⟨nothing same uncoveredIs, same⟩
  · have same : result.used = source.value :=
      Decimal.toRat_injective (used.trans (min_eq_right sourceLess))
    exact .inl ⟨nothing same leftIs, same⟩

/-! ## Covering -/

theorem cover_ok {debt : Bucket} {pool : List Bucket} {result : Coverage}
    (within : ∀ bucket ∈ pool, bucket.Within top peak) (debtNonneg : 0 ≤ debt.value.toRat)
    (debtLe : debt.value.toRat ≤ peak) (covered : cover debt pool = .ok result) :
    result.Accounts grain top peak pool debt.value.toRat 1 := by
  induction pool generalizing debt result with
  | nil =>
    cases Outcome.pure_ok.1 covered
    exact ⟨by simp, by simp, by simp, by simpa using debtNonneg, by simp [exactCost]⟩
  | cons source pool inductionHypothesis =>
    have here := within source List.mem_cons_self
    have behind : ∀ bucket ∈ pool, bucket.Within top peak :=
      fun bucket member => within bucket (List.mem_cons_of_mem source member)
    unfold cover at covered
    split at covered
    next done =>
      -- Nothing is owed any more.
      cases Outcome.pure_ok.1 covered
      have nothing : debt.value.toRat = 0 :=
        le_antisymm (by simpa using Decimal.le_iff.1 done) debtNonneg
      exact ⟨within, by simp, by simp, by simp [nothing], by simp [nothing]⟩
    next =>
      obtain ⟨drew, drawDone, rest⟩ := Outcome.bind_ok.1 covered
      have sourceIs : drew.source = source := (draw_ok.1 drawDone).1
      have fair : drew.Fair grain peak source debt := draw_fair here debtNonneg debtLe drawDone
      split at rest
      next usedUp =>
        obtain ⟨others, othersDone, collected⟩ := Outcome.bind_ok.1 rest
        cases Outcome.pure_ok.1 collected
        refine fair.accounts_usedUp sourceIs here behind usedUp
          (inductionHypothesis behind ?_ ?_ othersDone)
        · exact fair.uncovered_nonneg
        · exact fair.uncovered_le.trans debtLe
      next remains =>
        cases Outcome.pure_ok.1 rest
        exact fair.accounts_remaining sourceIs here behind remains

theorem coverAll_ok {debts pool : List Bucket} {result : Coverage}
    (within : ∀ bucket ∈ pool, bucket.Within top peak)
    (debtsWithin : ∀ debt ∈ debts, 0 ≤ debt.value.toRat ∧ debt.value.toRat ≤ peak)
    (covered : coverAll debts pool = .ok result) :
    result.Accounts grain top peak pool (owed debts) debts.length := by
  induction debts generalizing pool result with
  | nil =>
    cases Outcome.pure_ok.1 covered
    exact ⟨within, by simp, by simp, by simp [owed], by simp [owed]⟩
  | cons debt debts inductionHypothesis =>
    obtain ⟨first, firstDone, onward⟩ := Outcome.bind_ok.1 covered
    obtain ⟨rest, restDone, collected⟩ := Outcome.bind_ok.1 onward
    cases Outcome.pure_ok.1 collected
    have behind : ∀ debt ∈ debts, 0 ≤ debt.value.toRat ∧ debt.value.toRat ≤ peak :=
      fun other member => debtsWithin other (List.mem_cons_of_mem debt member)
    obtain ⟨debtNonneg, debtLe⟩ := debtsWithin debt List.mem_cons_self
    have here := cover_ok within debtNonneg debtLe firstDone
    exact here.append (owed_nonneg fun other member => (behind other member).1)
      (inductionHypothesis here.pool_within behind restDone)

/-! ## The charge -/

include grain in
/-- Draws add nothing negative to a cost. -/
private theorem cost_nonneg {draws : List Draw} {start result : Decimal}
    (within : ∀ draw ∈ draws, draw.source.Within top peak ∧ 0 ≤ draw.used.toRat ∧
      draw.used.toRat ≤ peak)
    (startNonneg : 0 ≤ start.toRat)
    (added : draws.foldlM (fun (total : Decimal) draw => do
      total.add (← draw.source.rate.mul draw.used)) start = .ok result) : 0 ≤ result.toRat := by
  induction draws generalizing start with
  | nil => exact Outcome.pure_ok.1 added ▸ startNonneg
  | cons draw draws inductionHypothesis =>
    obtain ⟨total, stepped, onward⟩ := Outcome.foldlM_cons_ok.1 added
    obtain ⟨term, multiplied, summed⟩ := Outcome.bind_ok.1 stepped
    obtain ⟨source, usedNonneg, -⟩ := within draw List.mem_cons_self
    have termNonneg : 0 ≤ term.toRat :=
      Rounding.fit_nonneg (mul_nonneg source.rate_nonneg usedNonneg) (Decimal.mul_ok.1 multiplied)
    exact inductionHypothesis (fun draw member => within draw (List.mem_cons_of_mem _ member))
      (Rounding.fit_nonneg (add_nonneg startNonneg termNonneg) (Decimal.add_ok.1 summed)) onward

/-- The cost of draws is added up with one rounding for every draw and one for every amount. -/
private theorem near_cost {draws : List Draw} {result : Decimal}
    (within : ∀ draw ∈ draws, draw.source.Within top peak ∧ 0 ≤ draw.used.toRat ∧
      draw.used.toRat ≤ peak)
    (added : cost draws = .ok result) :
    Near grain (1 + draws.length) (1 + draws.length * (1 + top * peak)) result.toRat
      (drawn draws) := by
  have grainNonneg : 0 ≤ grain := Rounding.Lawful.grain_nonneg
  have amount : ∀ draw ∈ draws, |draw.source.rate.toRat * draw.used.toRat| ≤ top * peak := by
    intro draw member
    obtain ⟨source, usedNonneg, usedLe⟩ := within draw member
    rw [abs_of_nonneg (mul_nonneg source.rate_nonneg usedNonneg)]
    exact mul_le_mul source.rate_le usedLe usedNonneg (source.rate_nonneg.trans source.rate_le)
  have near := Decimal.near_foldlM (fun draw : Draw => draw.source.rate.toRat * draw.used.toRat)
    (fun _ => 1 + top * peak) ?_ ?_ le_rfl (by simp) (Near.zero grainNonneg zero_le_one 1) added
  · rw [zero_add, List.map_const', List.sum_replicate, nsmul_eq_mul] at near
    exact near
  · intro draw member total next stepped
    obtain ⟨term, multiplied, summed⟩ := Outcome.bind_ok.1 stepped
    refine ⟨term, summed, (Rounding.near_fit_one (Decimal.mul_ok.1 multiplied)).mono grainNonneg
      (by positivity) le_rfl (by linarith [amount draw member])⟩
  · intro draw member
    linarith [amount draw member]

/-- A bucket of no negative rate, the rate and the size of which keep to their bounds. -/
structure Bounded (top peak : Rat) (bucket : Bucket) : Prop where
  rate_nonneg : 0 ≤ bucket.rate.toRat
  rate_le : bucket.rate.toRat ≤ top
  size_le : |bucket.value.toRat| ≤ peak

/-- The exact cost of covering the debts among buckets from the collateral among them. -/
def exactCharge (buckets : List Bucket) : Rat :=
  exactCost ((collateral buckets).map Bucket.lot) (owed (debts buckets))

/-- The size to which all numbers in a charge keep. -/
def chargeSize (entries : Nat) (top peak : Rat) : Rat :=
  1 + entries * (1 + top * (1 + 2 * peak))

section Charge

variable {buckets : List Bucket}

omit [Rounding] in
theorem owed_debts_nonneg (buckets : List Bucket) : 0 ≤ owed (debts buckets) := by
  apply owed_nonneg
  intro debt member
  obtain ⟨bucket, bucketMember, rfl⟩ := List.mem_map.1 (mem_sortBy.1 member)
  have negative := (List.mem_filter.1 bucketMember).2
  have below : bucket.value.toRat < 0 := by
    simpa using Decimal.lt_iff.1 (of_decide_eq_true negative)
  rw [Decimal.toRat_neg]
  linarith

omit [Rounding] in
theorem collateral_within (bounded : ∀ bucket ∈ buckets, Bounded top peak bucket) :
    ∀ bucket ∈ collateral buckets, bucket.Within top peak := by
  intro bucket member
  obtain ⟨inBuckets, positive⟩ := List.mem_filter.1 (mem_sortBy.1 member)
  have bound := bounded bucket inBuckets
  have nonneg : 0 ≤ bucket.value.toRat := by
    simpa using (Decimal.lt_iff.1 (of_decide_eq_true positive)).le
  exact ⟨bound.rate_nonneg, bound.rate_le, nonneg, (le_abs_self _).trans bound.size_le⟩

omit [Rounding] in
theorem debts_within (bounded : ∀ bucket ∈ buckets, Bounded top peak bucket) :
    ∀ debt ∈ debts buckets, 0 ≤ debt.value.toRat ∧ debt.value.toRat ≤ peak := by
  intro debt member
  obtain ⟨bucket, bucketMember, rfl⟩ := List.mem_map.1 (mem_sortBy.1 member)
  obtain ⟨inBuckets, negative⟩ := List.mem_filter.1 bucketMember
  have below : bucket.value.toRat < 0 := by
    simpa using Decimal.lt_iff.1 (of_decide_eq_true negative)
  rw [Decimal.toRat_neg]
  exact ⟨by linarith, (neg_le_abs _).trans (bounded bucket inBuckets).size_le⟩

omit [Rounding] in
/-- No bucket is on both sides. -/
theorem length_collateral_add_length_debts_le (buckets : List Bucket) :
    (collateral buckets).length + (debts buckets).length ≤ buckets.length := by
  rw [collateral, debts, (sortBy_perm _ _).length_eq, (sortBy_perm _ _).length_eq, List.length_map]
  induction buckets with
  | nil => simp
  | cons bucket buckets inductionHypothesis =>
    have oneSide : ¬(0 < bucket.value ∧ bucket.value < 0) := by
      rw [Decimal.lt_iff, Decimal.lt_iff, Decimal.toRat_zero]
      rintro ⟨positive, negative⟩
      linarith
    rw [List.filter_cons, List.filter_cons]
    split <;> split <;> simp_all <;> omega

omit [Rounding] in
theorem exactCharge_nonneg (bounded : ∀ bucket ∈ buckets, Bounded top peak bucket) :
    0 ≤ exactCharge buckets :=
  exactCost_nonneg (sound_of_within (collateral_within bounded)) (owed_debts_nonneg buckets)

omit [Rounding] in
theorem exactCharge_le (bounded : ∀ bucket ∈ buckets, Bounded top peak bucket)
    (topNonneg : 0 ≤ top) (peakNonneg : 0 ≤ peak) :
    exactCharge buckets ≤ chargeSize buckets.length top peak := by
  have sound := sound_of_within (collateral_within bounded)
  have debtLe : owed (debts buckets) ≤ buckets.length * peak := by
    have count : (debts buckets).length ≤ buckets.length := by
      have sides := length_collateral_add_length_debts_le buckets
      omega
    have each := List.sum_le_card_nsmul ((debts buckets).map fun debt => debt.value.toRat) peak
      fun value member => by
        obtain ⟨debt, debtMember, rfl⟩ := List.mem_map.1 member
        exact (debts_within bounded debt debtMember).2
    rw [List.length_map, nsmul_eq_mul] at each
    exact each.trans (by gcongr)
  have cost := (exactCost_debt_le sound (topped_of_within (collateral_within bounded)) topNonneg
    (owed_debts_nonneg buckets)).2
  rw [exactCost_zero sound, zero_add, sub_zero] at cost
  calc exactCharge buckets
      ≤ top * owed (debts buckets) := cost
    _ ≤ top * (buckets.length * peak) := by gcongr
    _ ≤ chargeSize buckets.length top peak := by
        have slack : 0 ≤ 1 + buckets.length * (1 + top * (1 + peak)) := by positivity
        rw [chargeSize]
        linarith

omit [Rounding] in
theorem chargeSize_mono {fewer more : Nat} {low high : Rat} (topNonneg : 0 ≤ top)
    (lowNonneg : 0 ≤ low) (fewerLe : fewer ≤ more) (lowLe : low ≤ high) :
    chargeSize fewer top low ≤ chargeSize more top high := by
  unfold chargeSize
  gcongr

include grain in
/-- No charge is below zero. -/
theorem charge_nonneg (bounded : ∀ bucket ∈ buckets, Bounded top peak bucket) {result : Decimal}
    (charged : charge buckets = .ok result) : 0 ≤ result.toRat := by
  obtain ⟨covered, coveredDone, added⟩ := Outcome.bind_ok.1 charged
  have accounts : covered.Accounts grain top peak (collateral buckets) (owed (debts buckets))
      (debts buckets).length :=
    coverAll_ok (collateral_within bounded) (debts_within bounded) coveredDone
  exact cost_nonneg accounts.draws_within (by simp) added

/-- The cost of covering debts, in the order in which they stand, from a pool. -/
def chargeInOrder (debts pool : List Bucket) : Except Decimal.Error Decimal := do
  cost (← coverAll debts pool).draws

theorem charge_eq_chargeInOrder (buckets : List Bucket) :
    charge buckets = chargeInOrder (debts buckets) (collateral buckets) := rfl

/-- Covering debts in any order costs what covering them exactly does, but for a few roundings. -/
theorem near_chargeInOrder {debts pool : List Bucket} {entries : Nat}
    (within : ∀ bucket ∈ pool, bucket.Within top peak)
    (debtsWithin : ∀ debt ∈ debts, 0 ≤ debt.value.toRat ∧ debt.value.toRat ≤ peak)
    (sides : pool.length + debts.length ≤ entries) (topNonneg : 0 ≤ top) (peakNonneg : 0 ≤ peak)
    {result : Decimal} (charged : chargeInOrder debts pool = .ok result) :
    Near grain (entries + 1) (chargeSize entries top peak) result.toRat
      (exactCost (pool.map Bucket.lot) (owed debts)) := by
  have grainNonneg : 0 ≤ grain := Rounding.Lawful.grain_nonneg
  obtain ⟨covered, coveredDone, added⟩ := Outcome.bind_ok.1 charged
  have accounts : covered.Accounts grain top peak pool (owed debts) debts.length :=
    coverAll_ok within debtsWithin coveredDone
  have count : covered.draws.length ≤ entries := by
    have draws := accounts.draws_count
    omega
  have countRat : (covered.draws.length : Rat) ≤ entries := by exact_mod_cast count
  have computed : Near grain (entries + 1) (1 + entries * (1 + top * peak)) result.toRat
      (drawn covered.draws) :=
    (near_cost accounts.draws_within added).mono grainNonneg (by positivity) (by omega) (by gcongr)
  have exact : Near grain (entries + 1) (entries * (top * (1 + peak))) (drawn covered.draws)
      (exactCost (pool.map Bucket.lot) (owed debts)) := by
    have cost := accounts.cost 0 le_rfl
    rw [exactCost_zero (sound_of_within accounts.pool_within), add_zero, add_zero] at cost
    have oneRounding : drift grain 1 = grain := by simp [drift]
    have atOne : Near grain 1 (entries * (top * (1 + peak))) (drawn covered.draws)
        (exactCost (pool.map Bucket.lot) (owed debts)) := by
      unfold Near
      rw [oneRounding]
      calc |drawn covered.draws - exactCost (pool.map Bucket.lot) (owed debts)|
          ≤ covered.draws.length * (top * (grain * (1 + peak))) := cost
        _ ≤ entries * (top * (grain * (1 + peak))) := by gcongr
        _ = grain * (entries * (top * (1 + peak))) := by ring
    exact atOne.mono grainNonneg (by positivity) (by omega) le_rfl
  have both := computed.trans exact
  rwa [show 1 + entries * (1 + top * peak) + entries * (top * (1 + peak)) =
    chargeSize entries top peak by rw [chargeSize]; ring] at both

/-- The charge is the exact cost, but for a few roundings for every bucket. -/
theorem near_charge (bounded : ∀ bucket ∈ buckets, Bounded top peak bucket) (topNonneg : 0 ≤ top)
    (peakNonneg : 0 ≤ peak) {result : Decimal} (charged : charge buckets = .ok result) :
    Near grain (buckets.length + 1) (chargeSize buckets.length top peak) result.toRat
      (exactCharge buckets) := by
  rw [charge_eq_chargeInOrder] at charged
  exact near_chargeInOrder (collateral_within bounded) (debts_within bounded)
    (length_collateral_add_length_debts_le buckets) topNonneg peakNonneg charged

end Charge

end Netting

end Collateral

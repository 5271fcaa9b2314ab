import Collateral.Proofs.Headroom

/-!
Contract: the walk that covers debts, draw by draw.

Debts and collateral are gone through together, each from the front. A draw takes what both sides
allow, so what is left of one side is exactly zero, even where rounding leaves the other side as it
was. Hence every draw brings the walk forward: it passes a bucket or settles a debt. What is left of
either side stays between zero and what there was, so no subtraction can leave the range of
decimals, and only products and sums of the margin can stop the walk.

Owns: the walk as a machine with its margin, what one step keeps, what holds wherever the walk has
come to, and that it ends where the charge does.
-/

namespace Collateral

/-- What is left of a bucket: not below zero, and not more than there was. -/
structure Bucket.LeftOf (initial rest : Bucket) : Prop where
  currency_eq : rest.currency = initial.currency
  rate_eq : rest.rate = initial.rate
  value_nonneg : 0 ≤ rest.value.toRat
  value_le : rest.value.toRat ≤ initial.value.toRat

namespace Bucket.LeftOf

theorem refl {bucket : Bucket} (nonneg : 0 ≤ bucket.value.toRat) : bucket.LeftOf bucket :=
  ⟨rfl, rfl, nonneg, le_rfl⟩

/-- What is left shrinks further. -/
theorem shrink {initial rest : Bucket} (leftOf : initial.LeftOf rest) {value : Decimal}
    (nonneg : 0 ≤ value.toRat) (le : value.toRat ≤ rest.value.toRat) :
    initial.LeftOf { rest with value } :=
  ⟨leftOf.currency_eq, leftOf.rate_eq, nonneg, le.trans leftOf.value_le⟩

end Bucket.LeftOf

namespace Netting

/-- Where the walk has come to: the collateral that it has passed and that from the front on, the
debts that it has done with and those from the present one on, how often it has drawn, and the
margin. Every bucket and debt is as the draws have left it. -/
structure Walk where
  passed : List Bucket := []
  pool : List Bucket
  served : List Bucket := []
  debts : List Bucket
  draws : Nat := 0
  margin : Decimal := 0
deriving DecidableEq, Repr

namespace Walk

def start (debts pool : List Bucket) : Walk := { pool, debts }

/-- Has done with the present debt. -/
def serve (walk : Walk) (debt : Bucket) (debts : List Bucket) : Walk :=
  { walk with served := walk.served ++ [debt], debts }

/-- Puts a draw on record. The bucket is passed only when nothing is left of it. -/
def record (walk : Walk) (drew : Draw) (debts pool : List Bucket) (margin : Decimal) : Walk :=
  let source := { drew.source with value := drew.left }
  let debts := { drew.debt with value := drew.uncovered } :: debts
  if drew.left = 0 then
    { walk with passed := walk.passed ++ [source], pool, debts, draws := walk.draws + 1, margin }
  else { walk with pool := source :: pool, debts, draws := walk.draws + 1, margin }

theorem record_margin (walk : Walk) (drew : Draw) (debts pool : List Bucket) (margin : Decimal) :
    (walk.record drew debts pool margin).margin = margin := by
  unfold record
  split <;> rfl

/-- The number of debts of which something is uncovered. -/
def unsettled (debts : List Bucket) : Nat :=
  debts.countP fun debt => 0 < debt.value

theorem unsettled_cons (debt : Bucket) (debts : List Bucket) :
    unsettled (debt :: debts) = unsettled debts + if 0 < debt.value then 1 else 0 := by
  simp [unsettled, List.countP_cons]

/-- The steps made so far: the draws, and the debts done with. -/
def steps (walk : Walk) : Nat :=
  walk.draws + walk.served.length

section Machine

variable [Rounding]

/-- One step: a draw of the present debt on the front of the pool, or the next debt. There is none
once all debts are done with. -/
def step? (walk : Walk) : Except Decimal.Error (Option Walk) :=
  match walk.debts, walk.pool with
  | [], _ => return none
  | debt :: debts, [] => return some (walk.serve debt debts)
  | debt :: debts, source :: pool =>
    if debt.value ≤ 0 then return some (walk.serve debt debts)
    else do
      let margin ← walk.margin.add (← source.rate.mul (min debt.value source.value))
      let drew ← draw source debt
      return some (walk.record drew debts pool margin)

/-- The walk gets from one place to another. -/
inductive Reaches (first : Walk) : Walk → Prop
  | start : Reaches first first
  | step {walk next : Walk} (reaches : Reaches first walk)
    (stepped : walk.step? = .ok (some next)) : Reaches first next

/-- The ways in which a step goes. -/
inductive Moves (walk : Walk) : Walk → Prop
  /-- The present debt is covered, or there is nothing to draw on. -/
  | serve {debt : Bucket} {debts : List Bucket} (front : walk.debts = debt :: debts)
    (done : walk.pool = [] ∨ debt.value ≤ 0) : Moves walk (walk.serve debt debts)
  /-- The present debt is drawn on the front of the pool. -/
  | draw {debt source : Bucket} {debts pool : List Bucket} {drew : Draw} {term margin : Decimal}
    (front : walk.debts = debt :: debts) (here : walk.pool = source :: pool)
    (uncovered : ¬debt.value ≤ 0)
    (priced : source.rate.mul (min debt.value source.value) = .ok term)
    (added : walk.margin.add term = .ok margin) (drawn : Netting.draw source debt = .ok drew) :
    Moves walk (walk.record drew debts pool margin)

/-- A step goes in one of these ways. -/
theorem moves_of_step? {walk next : Walk} (stepped : walk.step? = .ok (some next)) :
    walk.Moves next := by
  unfold step? at stepped
  split at stepped
  next => cases Outcome.pure_ok.1 stepped
  next debt debts front none =>
    obtain rfl := Option.some.inj (Outcome.pure_ok.1 stepped)
    exact .serve front (.inl none)
  next debt debts source pool front here =>
    split at stepped
    next covered =>
      obtain rfl := Option.some.inj (Outcome.pure_ok.1 stepped)
      exact .serve front (.inr covered)
    next uncovered =>
      obtain ⟨term, priced, rest⟩ := Outcome.bind_ok.1 stepped
      obtain ⟨margin, added, rest⟩ := Outcome.bind_ok.1 rest
      obtain ⟨drew, drawn, rest⟩ := Outcome.bind_ok.1 rest
      obtain rfl := Option.some.inj (Outcome.pure_ok.1 rest)
      exact .draw front here uncovered priced added drawn

end Machine

section Moves

variable [Rounding] {walk next : Walk}

theorem Moves.steps_eq (moves : walk.Moves next) : next.steps = walk.steps + 1 := by
  cases moves with
  | serve =>
    simp only [steps, Walk.serve, List.length_append, List.length_singleton]
    omega
  | draw =>
    simp only [steps, record]
    split <;> simp only <;> omega

/-- No bucket is given back. -/
theorem Moves.passed_prefix (moves : walk.Moves next) : walk.passed <+: next.passed := by
  cases moves with
  | serve => exact List.prefix_rfl
  | draw =>
    unfold record
    split
    · exact List.prefix_append _ _
    · exact List.prefix_rfl

end Moves

/-! ## What a step keeps -/

/-- What holds wherever the walk has come to. -/
structure Sound (debts pool : List Bucket) (walk : Walk) : Prop where
  pool_left : List.Forall₂ Bucket.LeftOf pool (walk.passed ++ walk.pool)
  debts_left : List.Forall₂ Bucket.LeftOf debts (walk.served ++ walk.debts)
  passed_zero : ∀ bucket ∈ walk.passed, bucket.value = 0
  served_zero : walk.pool = [] ∨ ∀ debt ∈ walk.served, debt.value = 0
  /-- Every draw passes a bucket or settles a debt. -/
  draws_le : walk.draws + walk.pool.length + unsettled walk.debts ≤ debts.length + pool.length

/-- An entry in the middle gives way to one to which the same are related. -/
private theorem forall₂_replace {α β : Type} {related : α → β → Prop} {entries : List α}
    {front back : List β} {entry entry' : β}
    (pairs : List.Forall₂ related entries (front ++ entry :: back))
    (kept : ∀ partner, related partner entry → related partner entry') :
    List.Forall₂ related entries (front ++ entry' :: back) := by
  induction front generalizing entries with
  | nil =>
    obtain ⟨partner, rest, pair, others, rfl⟩ := List.forall₂_cons_right_iff.1 pairs
    exact .cons (kept partner pair) others
  | cons head front inductionHypothesis =>
    obtain ⟨partner, rest, pair, others, rfl⟩ := List.forall₂_cons_right_iff.1 pairs
    exact .cons pair (inductionHypothesis others)

private theorem exists_partner {α β : Type} {related : α → β → Prop} {entries : List α}
    {others : List β} (pairs : List.Forall₂ related entries others) {other : β}
    (member : other ∈ others) : ∃ entry ∈ entries, related entry other := by
  induction pairs with
  | nil => cases member
  | cons pair _ inductionHypothesis =>
    rcases List.mem_cons.1 member with rfl | inRest
    · exact ⟨_, List.mem_cons_self, pair⟩
    · obtain ⟨entry, inEntries, related⟩ := inductionHypothesis inRest
      exact ⟨entry, List.mem_cons_of_mem _ inEntries, related⟩

/-- A bucket of no negative rate or worth keeps to the limit on coefficients. -/
private theorem within_limit {bucket : Bucket} (rateNonneg : 0 ≤ bucket.rate.toRat)
    (valueNonneg : 0 ≤ bucket.value.toRat) :
    bucket.Within coefficientLimit coefficientLimit := by
  have rateRoom := bucket.rate.abs_toRat_add_one_le
  have valueRoom := bucket.value.abs_toRat_add_one_le
  rw [abs_of_nonneg rateNonneg] at rateRoom
  rw [abs_of_nonneg valueNonneg] at valueRoom
  exact ⟨rateNonneg, by linarith, valueNonneg, by linarith⟩

namespace Sound

variable {debts pool : List Bucket} {walk next : Walk}

theorem of_start (debtsNonneg : ∀ debt ∈ debts, 0 ≤ debt.value.toRat)
    (poolNonneg : ∀ bucket ∈ pool, 0 ≤ bucket.value.toRat) :
    (start debts pool).Sound debts pool where
  pool_left := List.forall₂_same.2 fun bucket member => .refl (poolNonneg bucket member)
  debts_left := List.forall₂_same.2 fun debt member => .refl (debtsNonneg debt member)
  passed_zero := List.forall_mem_nil _
  served_zero := .inr (List.forall_mem_nil _)
  draws_le := by
    have count : unsettled debts ≤ debts.length := List.countP_le_length
    change 0 + pool.length + unsettled debts ≤ _
    omega

/-- What is left of collateral can be drawn on. -/
theorem pool_within (sound : walk.Sound debts pool)
    (ratesNonneg : ∀ bucket ∈ pool, 0 ≤ bucket.rate.toRat) :
    ∀ bucket ∈ walk.pool, bucket.Within coefficientLimit coefficientLimit := by
  intro bucket member
  obtain ⟨initial, inPool, leftOf⟩ :=
    exists_partner sound.pool_left (List.mem_append_right walk.passed member)
  exact within_limit (leftOf.rate_eq ▸ ratesNonneg initial inPool) leftOf.value_nonneg

theorem debts_within (sound : walk.Sound debts pool) :
    ∀ debt ∈ walk.debts, 0 ≤ debt.value.toRat ∧ debt.value.toRat ≤ coefficientLimit := by
  intro debt member
  obtain ⟨initial, -, leftOf⟩ :=
    exists_partner sound.debts_left (List.mem_append_right walk.served member)
  have room := debt.value.abs_toRat_add_one_le
  rw [abs_of_nonneg leftOf.value_nonneg] at room
  exact ⟨leftOf.value_nonneg, by linarith⟩

/-- Having done with a debt keeps all of that. -/
private theorem serve {debt : Bucket} {others : List Bucket} (sound : walk.Sound debts pool)
    (front : walk.debts = debt :: others) (done : walk.pool = [] ∨ debt.value ≤ 0) :
    (walk.serve debt others).Sound debts pool where
  pool_left := sound.pool_left
  debts_left := by
    have all : walk.served ++ [debt] ++ others = walk.served ++ walk.debts := by
      rw [front, List.append_assoc, List.singleton_append]
    exact (all ▸ sound.debts_left :)
  passed_zero := sound.passed_zero
  served_zero := by
    rcases sound.served_zero with empty | settled
    · exact .inl empty
    · refine done.imp_right fun covered => List.forall_mem_append.2 ⟨settled, ?_⟩
      have nonneg := (sound.debts_within debt (front ▸ List.mem_cons_self)).1
      have zero : debt.value.toRat = 0 :=
        le_antisymm (by simpa using Decimal.le_iff.1 covered) nonneg
      exact List.forall_mem_singleton.2 (Decimal.toRat_eq_zero.1 zero)
  draws_le := by
    have bound := sound.draws_le
    rw [front, unsettled_cons] at bound
    change walk.draws + walk.pool.length + unsettled others ≤ _
    omega

theorem steps_le (sound : walk.Sound debts pool) :
    walk.steps ≤ 2 * debts.length + pool.length := by
  have lengths := sound.debts_left.length_eq
  have bound := sound.draws_le
  rw [List.length_append] at lengths
  unfold steps
  omega

section Draws

variable [Rounding] {grain : Rat} [Rounding.Lawful grain]

include grain

/-- A draw on what is left is fair. -/
private theorem fair {debt source : Bucket} {others rest : List Bucket} {drew : Draw}
    (sound : walk.Sound debts pool) (ratesNonneg : ∀ bucket ∈ pool, 0 ≤ bucket.rate.toRat)
    (front : walk.debts = debt :: others) (here : walk.pool = source :: rest)
    (drawn : Netting.draw source debt = .ok drew) :
    drew.Fair grain coefficientLimit source debt := by
  obtain ⟨debtNonneg, debtLe⟩ := sound.debts_within debt (front ▸ List.mem_cons_self)
  exact draw_fair (sound.pool_within ratesNonneg source (here ▸ List.mem_cons_self)) debtNonneg
    debtLe drawn

/-- It uses up one of its two sides. -/
private theorem one_used_up {debt source : Bucket} {others rest : List Bucket} {drew : Draw}
    (sound : walk.Sound debts pool) (ratesNonneg : ∀ bucket ∈ pool, 0 ≤ bucket.rate.toRat)
    (front : walk.debts = debt :: others) (here : walk.pool = source :: rest)
    (drawn : Netting.draw source debt = .ok drew) : drew.left = 0 ∨ drew.uncovered = 0 :=
  (sound.fair ratesNonneg front here drawn).one_used_up.imp And.left And.left

/-- A draw passes a bucket of which nothing is left, or settles the debt. -/
private theorem record {debt source : Bucket} {others rest : List Bucket} {drew : Draw}
    {margin : Decimal} (sound : walk.Sound debts pool)
    (ratesNonneg : ∀ bucket ∈ pool, 0 ≤ bucket.rate.toRat)
    (front : walk.debts = debt :: others) (here : walk.pool = source :: rest)
    (uncovered : ¬debt.value ≤ 0) (drawn : Netting.draw source debt = .ok drew) :
    (walk.record drew others rest margin).Sound debts pool := by
  have fair := sound.fair ratesNonneg front here drawn
  have oneUsedUp := sound.one_used_up ratesNonneg front here drawn
  obtain ⟨sourceIs, debtIs, -⟩ := draw_ok.1 drawn
  obtain ⟨poolLeft, debtsLeft, passed, served, drawsLe⟩ := sound
  rw [here] at poolLeft served
  rw [front] at debtsLeft
  have settled := served.resolve_left (List.cons_ne_nil _ _)
  have debtsLeft := forall₂_replace debtsLeft fun initial leftOf =>
    leftOf.shrink fair.uncovered_nonneg fair.uncovered_le
  have poolLeft := forall₂_replace poolLeft fun initial leftOf =>
    leftOf.shrink fair.left_nonneg fair.left_le
  have positive : 0 < debt.value := Decimal.lt_iff.2 (not_le.1 uncovered)
  rw [front, unsettled_cons, if_pos positive, here, List.length_cons] at drawsLe
  rw [Walk.record, sourceIs, debtIs]
  split
  next usedUp =>
    refine ⟨?_, debtsLeft, ?_, .inr settled, ?_⟩
    · rw [List.append_assoc]
      exact poolLeft
    · exact List.forall_mem_append.2 ⟨passed, List.forall_mem_singleton.2 usedUp⟩
    · simp only [unsettled_cons]
      split <;> omega
  next remains =>
    have covered : drew.uncovered = 0 := oneUsedUp.resolve_left remains
    refine ⟨poolLeft, debtsLeft, passed, .inr settled, ?_⟩
    have nothing : ¬(0 : Decimal) < 0 := lt_irrefl (Decimal.toRat 0)
    simp only [unsettled_cons, covered, if_neg nothing, List.length_cons]
    omega

/-- Whichever way a step goes, it keeps all of that. -/
theorem moves (sound : walk.Sound debts pool)
    (ratesNonneg : ∀ bucket ∈ pool, 0 ≤ bucket.rate.toRat) (moves : walk.Moves next) :
    next.Sound debts pool := by
  cases moves with
  | serve front done => exact sound.serve front done
  | draw front here uncovered priced added drawn =>
    exact sound.record ratesNonneg front here uncovered drawn

/-- No step takes anything off the margin. -/
theorem margin_le (sound : walk.Sound debts pool)
    (ratesNonneg : ∀ bucket ∈ pool, 0 ≤ bucket.rate.toRat) (moves : walk.Moves next) :
    walk.margin ≤ next.margin := by
  cases moves with
  | serve => exact Decimal.le_iff.2 le_rfl
  | @draw debt source others rest drew term margin front here uncovered priced added drawn =>
    have rateNonneg :=
      (sound.pool_within ratesNonneg source (here ▸ List.mem_cons_self)).rate_nonneg
    have usedNonneg := (sound.fair ratesNonneg front here drawn).used_nonneg
    rw [(draw_ok.1 drawn).2.2.1] at usedNonneg
    have termNonneg : 0 ≤ term.toRat :=
      Rounding.fit_nonneg (mul_nonneg rateNonneg usedNonneg) (Decimal.mul_ok.1 priced)
    rw [record_margin]
    exact Rounding.le_fit (le_add_of_nonneg_right termNonneg) (Decimal.add_ok.1 added)

end Draws

end Sound

/-! ## What is due -/

section Charges

variable [Rounding] {debts pool : List Bucket} {debt source : Bucket}

/-- The draws to be made for debts on a pool. -/
def drawsOf (debts pool : List Bucket) : Except Decimal.Error (List Draw) :=
  Coverage.draws <$> coverAll debts pool

/-- A total with the cost of one more draw. -/
def withCost (total : Decimal) (draw : Draw) : Except Decimal.Error Decimal := do
  total.add (← draw.source.rate.mul draw.used)

/-- The margin that the walk comes to if all further draws are made and charged. -/
def due (walk : Walk) : Except Decimal.Error Decimal := do
  (← drawsOf walk.debts walk.pool).foldlM withCost walk.margin

/-- All of the charge is due at the start. -/
theorem due_start (debts pool : List Bucket) :
    (start debts pool).due = chargeInOrder debts pool := by
  unfold due drawsOf chargeInOrder
  change (Coverage.draws <$> coverAll debts pool) >>= _ = _
  cases coverAll debts pool <;> rfl

/-- A debt that is covered makes no draws, nor does any debt on an empty pool. -/
theorem drawsOf_serve (done : pool = [] ∨ debt.value ≤ 0) :
    drawsOf (debt :: debts) pool = drawsOf debts pool := by
  have idle : ∃ uncovered, cover debt pool = .ok { uncovered, pool } := by
    cases pool with
    | nil => exact ⟨_, rfl⟩
    | cons source pool =>
      unfold cover
      rw [if_pos (done.resolve_left (List.cons_ne_nil _ _))]
      exact ⟨[], rfl⟩
  obtain ⟨uncovered, idle⟩ := idle
  unfold drawsOf
  rw [coverAll, idle]
  change Coverage.draws <$> (coverAll debts pool >>= _) = _
  cases coverAll debts pool <;> rfl

private theorem cover_usedUp {drew : Draw} (uncovered : ¬debt.value ≤ 0)
    (drawn : Netting.draw source debt = .ok drew) (usedUp : drew.left = 0) :
    cover debt (source :: pool) =
      (fun rest => { rest with draws := drew :: rest.draws }) <$>
        cover { debt with value := drew.uncovered } pool := by
  rw [cover, if_neg uncovered, drawn]
  simp only [bind, Except.bind, if_pos usedUp]
  cases cover { debt with value := drew.uncovered } pool <;> rfl

private theorem cover_remaining {drew : Draw} (uncovered : ¬debt.value ≤ 0)
    (drawn : Netting.draw source debt = .ok drew) (remains : drew.left ≠ 0) :
    cover debt (source :: pool) =
      .ok { draws := [drew], pool := { source with value := drew.left } :: pool } := by
  rw [cover, if_neg uncovered, drawn]
  simp only [bind, Except.bind, if_neg remains]
  rfl

/-- A draw comes in front of those that are made once it is on record. -/
theorem drawsOf_draw (walk : Walk) {drew : Draw} (margin : Decimal) (uncovered : ¬debt.value ≤ 0)
    (drawn : Netting.draw source debt = .ok drew) (oneUsedUp : drew.left = 0 ∨ drew.uncovered = 0) :
    drawsOf (debt :: debts) (source :: pool) =
      (drew :: ·) <$> drawsOf (walk.record drew debts pool margin).debts
        (walk.record drew debts pool margin).pool := by
  obtain ⟨sourceIs, debtIs, -⟩ := draw_ok.1 drawn
  rw [Walk.record, sourceIs, debtIs]
  split
  next usedUp =>
    unfold drawsOf
    rw [coverAll, coverAll, cover_usedUp uncovered drawn usedUp]
    cases cover { debt with value := drew.uncovered } pool with
    | error error => rfl
    | ok first =>
      change Coverage.draws <$> (coverAll debts first.pool >>= _) =
        _ <$> Coverage.draws <$> (coverAll debts first.pool >>= _)
      cases coverAll debts first.pool <;> rfl
  next remains =>
    -- The debt is covered, so it is only done with before the others.
    have settled : drawsOf ({ debt with value := drew.uncovered } :: debts)
        ({ source with value := drew.left } :: pool) =
          drawsOf debts ({ source with value := drew.left } :: pool) := by
      rw [oneUsedUp.resolve_left remains]
      exact drawsOf_serve (.inr (Decimal.le_iff.2 le_rfl))
    rw [settled]
    unfold drawsOf
    rw [coverAll, cover_remaining uncovered drawn remains]
    change Coverage.draws <$> (coverAll debts _ >>= _) = _
    cases coverAll debts _ <;> rfl

/-- There is no further step only where all debts are done with. -/
theorem debts_eq_nil {walk : Walk} (ended : walk.step? = .ok none) : walk.debts = [] := by
  unfold step? at ended
  split at ended
  next front => exact front
  next => cases Outcome.pure_ok.1 ended
  next =>
    split at ended
    next => cases Outcome.pure_ok.1 ended
    next =>
      obtain ⟨_, -, rest⟩ := Outcome.bind_ok.1 ended
      obtain ⟨_, -, rest⟩ := Outcome.bind_ok.1 rest
      obtain ⟨_, -, rest⟩ := Outcome.bind_ok.1 rest
      cases Outcome.pure_ok.1 rest

/-- Nothing more is due then. -/
theorem due_of_done {walk : Walk} (done : walk.debts = []) : walk.due = .ok walk.margin := by
  unfold due drawsOf
  rw [done]
  rfl

end Charges

/-! ## Where the walk gets to -/

namespace Sound

variable [Rounding] [Rounding.Roomy] {debts pool : List Bucket} {walk next : Walk}

/-- Only a product or a sum of the margin stops the walk. -/
private theorem stopped (sound : walk.Sound debts pool)
    (ratesNonneg : ∀ bucket ∈ pool, 0 ≤ bucket.rate.toRat) {error : Decimal.Error}
    (failed : walk.step? = .error error) :
    ∃ debt others source rest drew, walk.debts = debt :: others ∧ walk.pool = source :: rest ∧
      ¬debt.value ≤ 0 ∧ Netting.draw source debt = .ok drew ∧
      withCost walk.margin drew = .error error ∧
      (error = .overflow .multiplication ∨ error = .overflow .addition) := by
  have poolWithin := sound.pool_within ratesNonneg
  have debtsWithin := sound.debts_within
  unfold step? at failed
  split at failed
  next => cases failed
  next => cases failed
  next debt others source rest front here =>
    rw [here] at poolWithin
    rw [front] at debtsWithin
    split at failed
    next => cases failed
    next uncovered =>
      obtain ⟨drew, drawn⟩ := exists_draw (poolWithin source List.mem_cons_self).value_nonneg
        (debtsWithin debt List.mem_cons_self).1
      refine ⟨debt, others, source, rest, drew, front, here, uncovered, drawn, ?_⟩
      obtain ⟨sourceIs, -, usedIs, -⟩ := draw_ok.1 drawn
      rw [withCost, sourceIs, usedIs]
      rcases Outcome.bind_error.1 failed with unpriced | ⟨term, priced, failed⟩
      · rw [unpriced]
        exact ⟨rfl, .inl (Decimal.fitted_error unpriced)⟩
      rcases Outcome.bind_error.1 failed with unadded | ⟨margin, added, failed⟩
      · rw [priced]
        exact ⟨unadded, .inr (Decimal.fitted_error unadded)⟩
      · rw [drawn] at failed
        cases failed

variable {grain : Rat} [Rounding.Lawful grain]

include grain

omit [Rounding.Roomy] in
/-- A step leaves what is due as it is. -/
theorem due_eq (sound : walk.Sound debts pool)
    (ratesNonneg : ∀ bucket ∈ pool, 0 ≤ bucket.rate.toRat) (moves : walk.Moves next) :
    next.due = walk.due := by
  cases moves with
  | serve front done =>
    unfold due
    rw [front, drawsOf_serve done]
    rfl
  | @draw debt source others rest drew term margin front here uncovered priced added drawn =>
    have oneUsedUp := sound.one_used_up ratesNonneg front here drawn
    have charged : withCost walk.margin drew = .ok margin := by
      obtain ⟨sourceIs, -, usedIs, -⟩ := draw_ok.1 drawn
      rw [withCost, sourceIs, usedIs, priced]
      exact added
    unfold due
    rw [front, here, record_margin, drawsOf_draw walk margin uncovered drawn oneUsedUp]
    cases drawsOf _ _ with
    | error error => rfl
    | ok draws =>
      change draws.foldlM withCost margin = (drew :: draws).foldlM withCost walk.margin
      rw [List.foldlM_cons, charged]
      rfl

/-- There are draws for what is left. -/
private theorem exists_drawsOf (sound : walk.Sound debts pool)
    (ratesNonneg : ∀ bucket ∈ pool, 0 ≤ bucket.rate.toRat) :
    ∃ draws, drawsOf walk.debts walk.pool = .ok draws := by
  obtain ⟨coverage, covered⟩ :=
    exists_coverAll (sound.pool_within ratesNonneg) sound.debts_within
  exact ⟨coverage.draws, Outcome.map_ok.2 ⟨coverage, covered, rfl⟩⟩

/-- What stops the walk stops the charge as well. -/
theorem due_of_stopped (sound : walk.Sound debts pool)
    (ratesNonneg : ∀ bucket ∈ pool, 0 ≤ bucket.rate.toRat) {error : Decimal.Error}
    (failed : walk.step? = .error error) : walk.due = .error error := by
  obtain ⟨debt, others, source, rest, drew, front, here, uncovered, drawn, charged, -⟩ :=
    sound.stopped ratesNonneg failed
  have oneUsedUp := sound.one_used_up ratesNonneg front here drawn
  obtain ⟨draws, drawsIs⟩ := sound.exists_drawsOf ratesNonneg
  have inFront := drawsIs
  rw [front, here, drawsOf_draw walk walk.margin uncovered drawn oneUsedUp] at inFront
  obtain ⟨others, -, rfl⟩ := Outcome.map_ok.1 inFront
  rw [due, drawsIs]
  change (drew :: others).foldlM withCost walk.margin = _
  rw [List.foldlM_cons, charged]
  rfl

end Sound

section Ends

variable [Rounding] {grain : Rat} [Rounding.Lawful grain] {debts pool : List Bucket}
  {first walk : Walk}

include grain

/-- Wherever the walk gets to, all of that holds, and what is due is what was due at the start. -/
theorem Reaches.sound (reaches : first.Reaches walk) (sound : first.Sound debts pool)
    (ratesNonneg : ∀ bucket ∈ pool, 0 ≤ bucket.rate.toRat) :
    walk.Sound debts pool ∧ walk.due = first.due := by
  induction reaches with
  | start => exact ⟨sound, rfl⟩
  | step _ stepped inductionHypothesis =>
    obtain ⟨here, due⟩ := inductionHypothesis
    have moves := moves_of_step? stepped
    exact ⟨here.moves ratesNonneg moves, (here.due_eq ratesNonneg moves).trans due⟩

/-- The walk gets to where there is no further step. -/
theorem exists_last (sound : first.Sound debts pool)
    (ratesNonneg : ∀ bucket ∈ pool, 0 ≤ bucket.rate.toRat) :
    ∃ last, first.Reaches last ∧ ∀ next, last.step? ≠ .ok (some next) := by
  by_contra! endless
  -- Every step counts, and no more of them can be made than the count allows.
  have counted (count : Nat) : ∃ walk, first.Reaches walk ∧ count ≤ walk.steps := by
    induction count with
    | zero => exact ⟨first, .start, Nat.zero_le _⟩
    | succ count inductionHypothesis =>
      obtain ⟨walk, reaches, atLeast⟩ := inductionHypothesis
      obtain ⟨next, stepped⟩ := endless walk reaches
      refine ⟨next, .step reaches stepped, ?_⟩
      rw [(moves_of_step? stepped).steps_eq]
      exact Nat.succ_le_succ atLeast
  obtain ⟨walk, reaches, tooMany⟩ := counted (2 * debts.length + pool.length + 1)
  have bound := (reaches.sound sound ratesNonneg).1.steps_le
  omega

end Ends

end Walk

/-- **The walk ends, and keeps what is left of both sides sound.** Wherever it gets to, it has drawn
no more often than there are debts and buckets, nothing left of them is below zero or more than
there was, and only buckets of which nothing is left have been passed. No step goes back behind a
bucket or takes anything off the margin. Only a product or a sum of the margin can stop it, and then
it stops the charge as well. Otherwise the charge is the margin at its end, where all debts are
covered or all buckets are used up. -/
theorem walk_ends_sound {debts pool : List Bucket}
    (debtsNonneg : ∀ debt ∈ debts, 0 ≤ debt.value.toRat)
    (ratesNonneg : ∀ bucket ∈ pool, 0 ≤ bucket.rate.toRat)
    (poolNonneg : ∀ bucket ∈ pool, 0 ≤ bucket.value.toRat) :
    (∀ walk, (Walk.start debts pool).Reaches walk →
      walk.Sound debts pool ∧ walk.draws ≤ debts.length + pool.length ∧
      (∀ error, walk.step? = .error error →
        error = .overflow .multiplication ∨ error = .overflow .addition) ∧
      ∀ next, walk.step? = .ok (some next) →
        walk.passed <+: next.passed ∧ walk.margin ≤ next.margin) ∧
    ∃ last, (Walk.start debts pool).Reaches last ∧
      ((∃ error, last.step? = .error error ∧ chargeInOrder debts pool = .error error) ∨
        last.step? = .ok none ∧ chargeInOrder debts pool = .ok last.margin ∧ last.debts = [] ∧
          ((∀ debt ∈ last.served, debt.value = 0) ∨
            last.pool = [] ∧ ∀ bucket ∈ last.passed, bucket.value = 0)) := by
  have first := Walk.Sound.of_start debtsNonneg poolNonneg
  constructor
  · intro walk reaches
    obtain ⟨sound, -⟩ := reaches.sound first ratesNonneg
    refine ⟨sound, ?_, ?_, ?_⟩
    · have bound := sound.draws_le
      omega
    · intro error failed
      obtain ⟨-, -, -, -, -, -, -, -, -, -, kind⟩ := sound.stopped ratesNonneg failed
      exact kind
    · intro next stepped
      have moves := Walk.moves_of_step? stepped
      exact ⟨moves.passed_prefix, sound.margin_le ratesNonneg moves⟩
  · obtain ⟨last, reaches, final⟩ := Walk.exists_last first ratesNonneg
    obtain ⟨sound, due⟩ := reaches.sound first ratesNonneg
    rw [Walk.due_start] at due
    refine ⟨last, reaches, ?_⟩
    cases outcome : last.step? with
    | error error => exact .inl ⟨error, rfl, due ▸ sound.due_of_stopped ratesNonneg outcome⟩
    | ok next? =>
      cases next? with
      | some next => exact absurd outcome (final next)
      | none =>
        have done := Walk.debts_eq_nil outcome
        refine .inr ⟨rfl, due ▸ Walk.due_of_done done, done, ?_⟩
        exact sound.served_zero.symm.imp_right fun empty => ⟨empty, sound.passed_zero⟩

/-! ## A subtraction that rounding absorbs -/

/-- Next to ten to the twenty-eighth, the least decimal is nothing. -/
private def vast : Bucket :=
  ⟨⟨"USD"⟩, Figure.tenth.value, Figure.value ⟨false, 10 ^ 28, 0, by decide⟩⟩

private def trace : Bucket := ⟨⟨"EUR"⟩, 0, Figure.value ⟨false, 1, 28, by decide⟩⟩

/-- Draws of the least decimal leave the bucket as it is. They cover the debts, so the walk ends. -/
theorem walk_ends_sound_absorbed :
    (draw vast trace).map (fun drew => (drew.left, drew.uncovered)) = .ok (vast.value, 0) ∧
    ∃ last, (Walk.start [trace, trace] [vast]).Reaches last ∧ last.step? = .ok none ∧
      last.draws ≤ 3 ∧ chargeInOrder [trace, trace] [vast] = .ok last.margin := by
  have debtsNonneg : ∀ debt ∈ [trace, trace], 0 ≤ debt.value.toRat := by decide +kernel
  have ratesNonneg : ∀ bucket ∈ [vast], 0 ≤ bucket.rate.toRat := by decide +kernel
  have poolNonneg : ∀ bucket ∈ [vast], 0 ≤ bucket.value.toRat := by decide +kernel
  obtain ⟨everywhere, last, reaches, ending⟩ :=
    walk_ends_sound debtsNonneg ratesNonneg poolNonneg
  refine ⟨by decide +kernel, last, reaches, ?_⟩
  have charged : (chargeInOrder [trace, trace] [vast]).toBool := by decide +kernel
  rcases ending with ⟨error, -, failed⟩ | ⟨done, charge, -⟩
  · rw [failed] at charged
    cases charged
  · exact ⟨done, (everywhere last reaches).2.1, charge⟩

end Netting

end Collateral

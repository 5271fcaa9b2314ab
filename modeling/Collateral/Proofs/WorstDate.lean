import Collateral.Proofs.Recommendation

/-!
Contract: whether the cash for the worst date is enough on every projected date.

The books on which deposits are solved for the dates of one projection are worth the same: the
broker's cash and the additional cash. So the date that asks for the most cash is the one whose
margin is the largest once the cash is there. The worst date has the least score, and that is decided
by the margin before any cash; the two dates can differ.

Owns: the worth of the book of a projected date, the margin of a book with cash added, and the
comparison of any date with the worst one.
-/

namespace Collateral

section Dates

variable [Rounding]

/-- A chosen snapshot is one of those to choose from. -/
theorem Snapshot.mem_of_choose? {prefers : Float → Float → Bool} {multiplier : Decimal}
    {snapshots : List Snapshot} {chosen : Snapshot}
    (chose : Snapshot.choose? prefers multiplier snapshots = .ok (some chosen)) :
    chosen ∈ snapshots := by
  cases snapshots with
  | nil => simp [Snapshot.choose?, pure, Except.pure] at chose
  | cons first rest =>
    obtain ⟨kept, folded, keptIs⟩ := Outcome.map_ok.1 chose
    obtain rfl := Option.some.inj keptIs
    clear chose keptIs
    induction rest generalizing first with
    | nil => exact List.mem_singleton.2 (Outcome.pure_ok.1 folded).symm
    | cons next rest inductionHypothesis =>
      obtain ⟨middle, stepped, onward⟩ := Outcome.foldlM_cons_ok.1 folded
      obtain ⟨keptScore, -, afterKept⟩ := Outcome.bind_ok.1 stepped
      obtain ⟨nextScore, -, collected⟩ := Outcome.bind_ok.1 afterKept
      have middleIs := Outcome.pure_ok.1 collected
      rcases List.mem_cons.1 (inductionHypothesis middle onward) with here | later
      · rw [here, ← middleIs]
        split <;> simp
      · exact List.mem_cons_of_mem _ (List.mem_cons_of_mem _ later)

namespace Desk

variable {desk : Desk} {company : Company} {broker : BrokerAccount} {summary : Summary}
  {additional : Table Currency Decimal} {terms : Terms}

/-- The worth at exact rates of the cash that every projected date has. -/
def depositWorth (terms : Terms) (summary : Summary) (additional : Table Currency Decimal) : Rat :=
  summary.cash.value.toRat +
    (additional.entries.map fun entry =>
      rateOf terms.spot terms.domestic entry.1 * entry.2.toRat).sum

/-- The roundings in the bookings of a projected date. -/
def depositBookings (additional : Table Currency Decimal) (snapshot : Snapshot) : Nat :=
  3 * snapshot.positions.length + 1 + additional.size

/-- What the bookings of a projected date count for. -/
def depositWeight (terms : Terms) (summary : Summary) (additional : Table Currency Decimal)
    (snapshot : Snapshot) : Rat :=
  (snapshot.positions.map FxPosition.weight).sum +
    weightOf terms.spot terms.domestic (terms.domestic, summary.cash.value.toRat) +
    (additional.entries.map fun entry =>
      weightOf terms.spot terms.domestic (entry.1, entry.2.toRat)).sum

/-- How far rounding can move the worth of the book of a projected date. -/
def depositGap (grain : Rat) (terms : Terms) (summary : Summary)
    (additional : Table Currency Decimal) (snapshot : Snapshot) : Rat :=
  drift grain (depositBookings additional snapshot + 1) *
    (depositBookings additional snapshot + depositWeight terms summary additional snapshot)

/-- The book of a projected date is worth the cash in it. -/
theorem depositBook_worth [SummationOrder] {grain : Rat} [Rounding.Lawful grain] (par : terms.AtPar)
    (domestic : terms.domestic = company.currency) {snapshot : Snapshot} {book : Book}
    {total : Decimal} (priced : ∀ position ∈ snapshot.positions, position.Priced terms)
    (booked : depositBook company summary additional snapshot = .ok book)
    (totaled : book.totalIn terms.domestic terms.spot = .ok total) :
    |book.worth terms.spot terms.domestic - depositWorth terms summary additional| ≤
      depositGap grain terms summary additional snapshot := by
  obtain ⟨held, positioned, afterHeld⟩ := Outcome.bind_ok.1 booked
  obtain ⟨paid, added, all⟩ := Outcome.bind_ok.1 afterHeld
  rw [← domestic] at added
  have heldHolds := Book.holds_empty.addPositions par priced positioned
  have paidHolds := heldHolds.add (Near.refl grain _ _) added
  have holds := paidHolds.addAll all
  have near := holds.abs_worth_sub_le (Book.converts_of_totalIn totaled)
  rw [par.rateOf] at near
  have bookings : 0 + 3 * snapshot.positions.length + 0 + 1 + additional.entries.length =
      depositBookings additional snapshot := by
    rw [depositBookings, Table.size]
    omega
  rw [bookings, zero_add, zero_add, one_mul] at near
  exact near

/-- The margin of a book that holds more domestic cash. -/
def marginWith (terms : Terms) (book : Book) (cash : Decimal) : Except Failure Decimal := do
  Margin.ofBook terms (← book.add terms.domestic cash)

theorem marginWith_ok {book : Book} {cash margin : Decimal} :
    marginWith terms book cash = .ok margin ↔
      ∃ balance, (book.balance terms.domestic).add cash = .ok balance ∧
        Margin.ofBook terms ⟨book.balances.insert terms.domestic balance⟩ = .ok margin := by
  simp only [marginWith, Book.add, Outcome.bind_ok, Outcome.liftArithmetic_ok, Outcome.pure_ok]
  constructor
  · rintro ⟨paid, ⟨balance, added, rfl⟩, margined⟩
    exact ⟨balance, added, margined⟩
  · rintro ⟨balance, added, margined⟩
    exact ⟨_, ⟨balance, added, rfl⟩, margined⟩

/-- The margin with an accepted amount of cash has been computed. -/
theorem exists_marginWith {book : Book} {factor accepted cash : Decimal}
    (holds : Deposit.Accepted terms book factor accepted cash) :
    ∃ margin, marginWith terms book cash = .ok margin := by
  obtain ⟨-, total, found, -, evaluated, -⟩ := holds
  obtain ⟨balance, worth, margin, required, added, -, margined, -⟩ := Deposit.residual_ok evaluated
  exact ⟨margin, marginWith_ok.2 ⟨balance, added, margined⟩⟩

/-- The cash that one projected date needs for a target. -/
def requiredOn [SummationOrder] (desk : Desk) (company : Company) (broker : BrokerAccount)
    (summary : Summary) (additional : Table Currency Decimal) (target : Float) (point : Snapshot) :
    Except Failure Decimal := do
  let book ← depositBook company summary additional point
  desk.requiredCash (← desk.terms company broker) book target

/-- How far the cash for a date and the recommended cash, and the margins of their books, can stand in
another order. -/
def worstSlack (grain : Rat) (terms : Terms) (summary : Summary)
    (additional : Table Currency Decimal) (point worst : Snapshot) (book worstBook : Book)
    (factor accepted worstAccepted cash recommended : Decimal) : Rat :=
  Deposit.pointSlack grain terms book worstBook factor.toRat accepted.toRat worstAccepted.toRat
    (depositGap grain terms summary additional point +
      depositGap grain terms summary additional worst) cash.toRat recommended.toRat

/-- All positions of a projected date are taken at the rates of the desk. -/
theorem priced_of_mem_projection {date : Date} {kind : AccountKind} {days : Nat}
    {points : List Snapshot} {point : Snapshot}
    (standing : desk.standing? company.id kind = some (broker, summary))
    (projected : desk.projection company date kind additional days = .ok points)
    (termed : desk.terms company broker = .ok terms) (member : point ∈ points) :
    ∀ position ∈ point.positions, position.Priced terms := by
  obtain ⟨terms', termed', ran⟩ :=
    projection_ok standing projected (List.ne_nil_of_mem member)
  obtain rfl := Except.ok.inj (termed.symm.trans termed')
  obtain ⟨held, hedged, taken⟩ := Projection.exists_hedge_of_mem_run ran member
  rw [(Projection.snapshot_ok taken).2.2]
  exact Projection.hedge_priced hedged

section Compared

variable {date : Date} {kind : AccountKind} {days : Nat} {points : List Snapshot}
  {result : Recommendation} {point : Snapshot} {cash : Decimal}

/-- **The recommended cash is enough for a projected date exactly when the margin of that date, with
the cash in it, is no larger than the margin of the worst date**, as far as the search and rounding
are exact. -/
theorem required_le_recommended_iff [SummationOrder] {grain : Rat} [Rounding.Lawful grain]
    (small : grain ≤ 1) (haircut : desk.calculator = .haircut)
    (checked : desk.settings.check = .ok ())
    (standing : desk.standing? company.id kind = some (broker, summary))
    (projected : desk.projection company date kind additional days = .ok points)
    (recommended : desk.recommendation company date kind additional days = .ok result)
    (positive : 0 < result.recommended) (member : point ∈ points)
    (required : desk.requiredOn company broker summary additional desk.settings.recommendedTarget
      point = .ok cash) :
    cash = 0 ∨ ∃ terms book worst worstBook factor accepted worstAccepted worstMargin,
      desk.terms company broker = .ok terms ∧
      Snapshot.worst? desk.multiplier points = .ok (some worst) ∧
      depositBook company summary additional point = .ok book ∧
      depositBook company summary additional worst = .ok worstBook ∧
      desk.Seeks terms book desk.settings.recommendedTarget factor accepted ∧
      desk.Seeks terms worstBook desk.settings.recommendedTarget factor worstAccepted ∧
      marginWith terms worstBook result.recommended = .ok worstMargin ∧
      ∀ margin, marginWith terms book result.recommended = .ok margin →
        (margin ≤ worstMargin → cash.toRat ≤ result.recommended.toRat +
          worstSlack grain terms summary additional point worst book worstBook factor accepted
            worstAccepted cash result.recommended) ∧
        (cash ≤ result.recommended → factor.toRat * margin.toRat ≤
          factor.toRat * worstMargin.toRat +
            worstSlack grain terms summary additional point worst book worstBook factor accepted
              worstAccepted cash result.recommended) := by
  rcases recommendation_ok projected recommended with
    empty | ⟨broker', summary', worst, standing', chosen, found⟩
  · rw [empty] at positive
    exact absurd (Decimal.lt_iff.1 positive) (lt_irrefl _)
  obtain ⟨rfl, rfl⟩ := Prod.mk.inj (Option.some.inj (standing.symm.trans standing'))
  obtain ⟨book, booked, afterBook⟩ := Outcome.bind_ok.1 required
  obtain ⟨terms, termed, pointRequired⟩ := Outcome.bind_ok.1 afterBook
  rw [Outcome.liftArithmetic_ok] at booked
  obtain ⟨worstBook, terms', score, worstBooked, termed', -, -, worstRequired⟩ :=
    recommendationFor_ok found
  obtain rfl := Except.ok.inj (termed.symm.trans termed')
  obtain ⟨domestic, -, multiplied⟩ := terms_ok termed
  have par := terms_atPar termed
  have multiplierNonneg : 0 ≤ terms.multiplier.toRat := by
    rw [multiplied]
    exact (Settings.multiplier_pos checked).le
  obtain ⟨_, -, outcome⟩ := requiredCash_ok haircut pointRequired
  rcases outcome with ⟨-, none⟩ | ⟨-, factor, accepted, seeks, holds⟩
  · exact .inl none
  obtain ⟨_, -, outcome'⟩ := requiredCash_ok haircut worstRequired
  rcases outcome' with ⟨-, none⟩ | ⟨-, factor', worstAccepted, seeks', holds'⟩
  · rw [none] at positive
    exact absurd (Decimal.lt_iff.1 positive) (lt_irrefl _)
  obtain rfl := seeks.factor_eq seeks'
  obtain ⟨worstMargin, worstMargined⟩ := exists_marginWith holds'
  refine .inr ⟨terms, book, worst, worstBook, factor, accepted, worstAccepted, worstMargin, termed,
    chosen, booked, worstBooked, seeks, seeks', worstMargined, fun margin margined => ?_⟩
  -- Both books are worth the cash, which is the same on every date.
  have worths : |book.worth terms.spot terms.domestic -
      worstBook.worth terms.spot terms.domestic| ≤
        depositGap grain terms summary additional point +
          depositGap grain terms summary additional worst := by
    obtain ⟨-, total, -, -, -, totaled, -⟩ := seeks
    obtain ⟨-, total', -, -, -, totaled', -⟩ := seeks'
    have near := depositBook_worth par domestic
      (priced_of_mem_projection standing projected termed member) booked totaled
    have near' := depositBook_worth par domestic
      (priced_of_mem_projection standing projected termed (Snapshot.mem_of_choose? chosen))
      worstBooked totaled'
    exact (abs_sub_le _ _ _).trans (add_le_add near ((abs_sub_comm _ _).trans_le near'))
  obtain ⟨between, betweenAdded, betweenMargined⟩ := marginWith_ok.1 margined
  obtain ⟨balance, balanceAdded, balanceMargined⟩ := marginWith_ok.1 worstMargined
  exact holds.margin_le_iff small par multiplierNonneg seeks.factor_nonneg worths holds'
    betweenAdded betweenMargined balanceAdded balanceMargined

end Compared

end Desk

end Dates

namespace Desk

/-! ## A worst date that asks for less than another one -/

open Projection (day figure whole)

def owing : Summary := { cash := figure true 500 }

def holding : Summary := { cash := figure false 100 }

/-- The exposure of a desk that owes grows tenfold on the second date. -/
def growing : Desk :=
  sample {} owing.cash [sampleEntry (day 10) 1000 1000, sampleEntry (day 12) 10000 10000]

/-- At a desk that holds cash, pounds bought for dollars give way to pounds bought for euros. -/
def turning : Desk :=
  sample {} holding.cash [sampleEntry (day 10) 1190 0, sampleEntry (day 12) 1000 1000]

/-- A projected date asks for an amount where that is decided. -/
private theorem exists_point [SummationOrder] (desk : Desk) (summary : Summary) (amount : Decimal)
    (decided : (desk.projection sampleCompany (day 10) .live .empty 30).map (fun points =>
      decide (∃ point ∈ points, desk.requiredOn sampleCompany sampleBroker summary .empty
        desk.settings.recommendedTarget point = .ok amount)) = .ok true) :
    ∃ points, desk.projection sampleCompany (day 10) .live .empty 30 = .ok points ∧
      ∃ point ∈ points, desk.requiredOn sampleCompany sampleBroker summary .empty
        desk.settings.recommendedTarget point = .ok amount := by
  obtain ⟨points, projected, found⟩ := Outcome.map_ok.1 decided
  exact ⟨points, projected, of_decide_eq_true found⟩

/-- The second date asks for more than nine hundred, so its margin is the larger one. -/
theorem required_le_recommended_growing :
    ∃ points point cash terms worst worstBook worstMargin,
      growing.projection sampleCompany (day 10) .live .empty 30 = .ok points ∧ point ∈ points ∧
      growing.requiredOn sampleCompany sampleBroker owing .empty
        growing.settings.recommendedTarget point = .ok cash ∧
      growing.terms sampleCompany sampleBroker = .ok terms ∧
      Snapshot.worst? growing.multiplier points = .ok (some worst) ∧
      depositBook sampleCompany owing .empty worst = .ok worstBook ∧
      marginWith terms worstBook (whole 900) = .ok worstMargin := by
  obtain ⟨points, projected, point, member, required⟩ :=
    exists_point growing owing (whole 4500) (by decide +kernel)
  have recommended : growing.recommendation sampleCompany (day 10) .live .empty 30 =
      .ok ⟨whole 800, whole 900⟩ := by decide +kernel
  have positive : 0 < (⟨whole 800, whole 900⟩ : Recommendation).recommended := by decide +kernel
  have standing : growing.standing? sampleCompany.id .live = some (sampleBroker, owing) := by
    decide +kernel
  have outcome := required_le_recommended_iff (by norm_num) rfl (by decide +kernel) standing
    projected recommended positive member required
  rcases outcome with none | ⟨terms, book, worst, worstBook, -, -, -, worstMargin, termed, chosen, -,
    worstBooked, -, -, margined, -⟩
  · exact absurd none (by decide +kernel)
  · exact ⟨points, point, whole 4500, terms, worst, worstBook, worstMargin, projected, member,
      required, termed, chosen, worstBooked, margined⟩

/-- Some projected date needs more cash than is recommended, by more than a thousandth of both. -/
def FallsShort [SummationOrder] (desk : Desk) (summary : Summary) : Prop :=
  desk.settings.check = .ok () ∧
    desk.standing? sampleCompany.id .live = some (sampleBroker, summary) ∧
    ∃ points, desk.projection sampleCompany (day 10) .live .empty 30 = .ok points ∧
      ∃ result, desk.recommendation sampleCompany (day 10) .live .empty 30 = .ok result ∧
        0 < result.recommended ∧
        ∃ point ∈ points, ∃ cash, desk.requiredOn sampleCompany sampleBroker summary .empty
            desk.settings.recommendedTarget point = .ok cash ∧
          result.recommended.toRat + 1 / 1000 *
            (|cash.toRat| + |result.recommended.toRat| + 1) < cash.toRat

/-- What is decided of a desk where a projected date needs one amount and another is recommended. -/
private structure ShortBy [SummationOrder] (desk : Desk) (summary : Summary)
    (required recommended : Decimal) : Prop where
  checked : desk.settings.check = .ok ()
  standing : desk.standing? sampleCompany.id .live = some (sampleBroker, summary)
  asked : (desk.projection sampleCompany (day 10) .live .empty 30).map (fun points =>
    decide (∃ point ∈ points, desk.requiredOn sampleCompany sampleBroker summary .empty
      desk.settings.recommendedTarget point = .ok required)) = .ok true
  answered : (desk.recommendation sampleCompany (day 10) .live .empty 30).map
    Recommendation.recommended = .ok recommended
  positive : 0 < recommended
  short : recommended.toRat + 1 / 1000 * (|required.toRat| + |recommended.toRat| + 1) <
    required.toRat

private theorem ShortBy.fallsShort [SummationOrder] {desk : Desk} {summary : Summary}
    {required recommended : Decimal} (shortBy : desk.ShortBy summary required recommended) :
    desk.FallsShort summary := by
  obtain ⟨points, projected, point, member, asked⟩ :=
    exists_point desk summary required shortBy.asked
  obtain ⟨result, answered, rfl⟩ := Outcome.map_ok.1 shortBy.answered
  exact ⟨shortBy.checked, shortBy.standing, points, projected, result, answered, shortBy.positive,
    point, member, _, asked, shortBy.short⟩

/-- The least score can belong to the smaller of two margins where the broker is owed, and to a margin
that falls faster with more cash where cash is held. -/
theorem recommended_lt_required : growing.FallsShort owing ∧ turning.FallsShort holding := by
  have growingShort : growing.ShortBy owing (whole 4500) (whole 900) := by
    constructor <;> decide +kernel
  have turningShort : turning.ShortBy holding (whole 300) (whole 240) := by
    constructor <;> decide +kernel
  exact ⟨growingShort.fallsShort, turningShort.fallsShort⟩

end Desk

end Collateral

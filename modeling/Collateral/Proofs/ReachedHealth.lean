import Collateral.Proofs.WorstDate

/-!
Contract: the health that the minimum deposit reaches.

The search ends where the worth of the book is the margin with the deposit, times one and the target.
The score of the next projection divides by the margin before the deposit, and by the multiplier. So
the score reached is not the target: it is the quotient for which both are the same amount of cash.

Owns: the score of a projected date as an amount of cash, the projection after a deposit, and the
levels that its score reaches.
-/

namespace Collateral

section Scored

variable [Rounding]

theorem Snapshot.quotient?_ok {excess margin multiplier quotient : Decimal} :
    Snapshot.quotient? excess margin multiplier = .ok (some quotient) ↔
      margin ≠ 0 ∧ multiplier ≠ 0 ∧ ∃ rate, excess.div margin = .ok rate ∧
        rate.div multiplier = .ok quotient := by
  unfold Snapshot.quotient?
  by_cases none : margin = 0 ∨ multiplier = 0
  · rw [if_pos none]
    rcases none with rfl | rfl <;> simp [pure, Except.pure]
  · rw [if_neg none]
    rw [not_or] at none
    simp only [Outcome.map_ok, Outcome.bind_ok, Option.some.injEq, exists_eq_right]
    exact ⟨fun found => ⟨none.1, none.2, found⟩, fun found => found.2.2⟩

theorem Snapshot.scoreOf_ok {excess margin multiplier : Decimal} {score : Float}
    (marginSome : margin ≠ 0) (multiplierSome : multiplier ≠ 0)
    (scored : Snapshot.scoreOf excess margin multiplier = .ok score) :
    ∃ quotient, Snapshot.quotient? excess margin multiplier = .ok (some quotient) ∧
      score = quotient.toBinary := by
  obtain ⟨quotient?, found, collected⟩ := Outcome.bind_ok.1 scored
  cases quotient? with
  | none =>
    unfold Snapshot.quotient? at found
    rw [if_neg (not_or.2 ⟨marginSome, multiplierSome⟩)] at found
    obtain ⟨rate, -, divided⟩ := Outcome.bind_ok.1 found
    obtain ⟨quotient, -, impossible⟩ := Outcome.map_ok.1 divided
    simp at impossible
  | some quotient => exact ⟨quotient, found, (Outcome.pure_ok.1 collected).symm⟩

/-- How far rounding can move the cash that a score stands for. -/
def scoreBlur (grain own paid more before multiplier : Rat) : Rat :=
  drift grain 5 * (1 + |own| + |paid| + |more| + (2 + multiplier) * before)

/-- A score stands for the cash that is there: the margin before the deposit, and as often again as
the multiplier and the score say. -/
theorem Snapshot.quotient_near {grain : Rat} [Rounding.Lawful grain]
    {own paid more both cash before excess multiplier quotient : Decimal}
    (beforePos : 0 < before.toRat) (multiplierPos : 0 < multiplier.toRat)
    (summed : paid.add more = .ok both) (added : own.add both = .ok cash)
    (subtracted : cash.sub before = .ok excess)
    (scored : Snapshot.quotient? excess before multiplier = .ok (some quotient)) :
    |before.toRat * (1 + multiplier.toRat * quotient.toRat) -
        (own.toRat + paid.toRat + more.toRat)| ≤
      scoreBlur grain own.toRat paid.toRat more.toRat before.toRat multiplier.toRat := by
  have grainNonneg : 0 ≤ grain := Rounding.Lawful.grain_nonneg
  obtain ⟨-, -, rate, ratio, divided⟩ := Snapshot.quotient?_ok.1 scored
  obtain ⟨-, ratio⟩ := Decimal.div_ok.1 ratio
  obtain ⟨-, divided⟩ := Decimal.div_ok.1 divided
  have parts : |own.toRat + (paid.toRat + more.toRat)| ≤
      |own.toRat| + |paid.toRat| + |more.toRat| := by
    linarith [abs_add_le own.toRat (paid.toRat + more.toRat), abs_add_le paid.toRat more.toRat]
  have inner := abs_add_le paid.toRat more.toRat
  have ownNonneg := abs_nonneg own.toRat
  have paidNonneg := abs_nonneg paid.toRat
  have moreNonneg := abs_nonneg more.toRat
  generalize sizeIs : 1 + |own.toRat| + |paid.toRat| + |more.toRat| = size at *
  have held (number : Rat) {wide : Rat} (nonneg : 0 ≤ wide) (roundings : Nat) :
      Near grain roundings wide number number :=
    (Near.refl grain wide number).mono grainNonneg nonneg (Nat.zero_le _) le_rfl
  have bothNear : Near grain 1 size both.toRat (paid.toRat + more.toRat) :=
    (Rounding.near_fit_one (Decimal.add_ok.1 summed)).mono grainNonneg (by positivity) le_rfl
      (by linarith)
  have cashNear : Near grain 2 (0 + size) cash.toRat (own.toRat + (paid.toRat + more.toRat)) :=
    Rounding.near_fit (Decimal.add_ok.1 added) ((held own.toRat le_rfl 1).add bothNear)
      (by linarith)
  have total : |own.toRat + (paid.toRat + more.toRat) - before.toRat| ≤
      size - 1 + before.toRat := by
    linarith [abs_sub (own.toRat + (paid.toRat + more.toRat)) before.toRat,
      abs_of_pos beforePos]
  have excessNear : Near grain 3 (0 + size + before.toRat) excess.toRat
      (own.toRat + (paid.toRat + more.toRat) - before.toRat) :=
    Rounding.near_fit (Decimal.sub_ok.1 subtracted)
      (cashNear.sub (held before.toRat beforePos.le 2)) (by linarith)
  have rateNear := Rounding.near_fit_div beforePos ratio excessNear (by linarith)
  have quotientNear := Rounding.near_fit_div multiplierPos divided rateNear (by
    rw [abs_div, abs_of_pos beforePos]
    have scaled := div_le_div_of_nonneg_right total beforePos.le
    have wider : (size - 1 + before.toRat) / before.toRat ≤
        (0 + size + before.toRat) / before.toRat :=
      div_le_div_of_nonneg_right (by linarith) beforePos.le
    linarith)
  have cashed := quotientNear.mul (before.toRat * multiplier.toRat)
  rw [abs_of_pos (mul_pos beforePos multiplierPos)] at cashed
  have exactIs : before.toRat * multiplier.toRat *
      ((own.toRat + (paid.toRat + more.toRat) - before.toRat) / before.toRat / multiplier.toRat) =
        own.toRat + (paid.toRat + more.toRat) - before.toRat := by
    field_simp
  have sizeEq : before.toRat * multiplier.toRat *
      (1 + (1 + (0 + size + before.toRat) / before.toRat) / multiplier.toRat) =
        size + (2 + multiplier.toRat) * before.toRat := by
    field_simp
    ring
  rw [exactIs, sizeEq] at cashed
  unfold scoreBlur
  rw [sizeIs]
  refine le_of_eq_of_le (congrArg abs ?_) cashed
  ring

end Scored

namespace Projection

variable [Rounding] {setting : Setting}

/-- A snapshot with a margin before the deposit has positions. -/
theorem positions_ne_nil {additional : Table Currency Decimal} {date : Date} {held : Hedge}
    {result : Snapshot} (taken : snapshot setting additional date held = .ok result)
    (margined : result.before ≠ 0) : held.positions ≠ [] := by
  intro none
  rw [snapshot_idle none taken] at margined
  exact margined rfl

end Projection

namespace Desk

section Reached

variable [Rounding] {desk : Desk} {company : Company} {broker : BrokerAccount} {summary : Summary}
  {date : Date} {kind : AccountKind} {days : Nat}

/-- The snapshots of one date, with different cash, are taken of the same hedge. -/
theorem exists_hedge_of_date_eq {additional additional' : Table Currency Decimal}
    {points points' : List Snapshot} {point point' : Snapshot}
    (standing : desk.standing? company.id kind = some (broker, summary))
    (projected : desk.projection company date kind additional days = .ok points)
    (projected' : desk.projection company date kind additional' days = .ok points')
    (member : point ∈ points) (member' : point' ∈ points') (same : point'.date = point.date) :
    ∃ terms held, desk.terms company broker = .ok terms ∧
      Projection.snapshot ⟨desk.calculator, terms, summary⟩ additional point.date held = .ok point ∧
      Projection.snapshot ⟨desk.calculator, terms, summary⟩ additional' point.date held =
        .ok point' := by
  obtain ⟨terms, termed, ran⟩ := projection_ok standing projected (List.ne_nil_of_mem member)
  obtain ⟨terms', termed', ran'⟩ := projection_ok standing projected' (List.ne_nil_of_mem member')
  obtain rfl := Except.ok.inj (termed.symm.trans termed')
  obtain ⟨held, hedged, taken⟩ := Projection.exists_hedge_of_mem_run ran member
  obtain ⟨held', hedged', taken'⟩ := Projection.exists_hedge_of_mem_run ran' member'
  rw [same] at hedged' taken'
  obtain rfl := Except.ok.inj (hedged.symm.trans hedged')
  exact ⟨terms, held, termed, taken, taken'⟩

/-- How far the cash that a reached score stands for can lie from the margin with the minimum. -/
def reachedSlack (desk : Desk) (company : Company) (grain : Rat) (terms : Terms)
    (summary : Summary) (paid minimum factor accepted margin : Decimal) (book : Book)
    (worst : Snapshot) : Rat :=
  scoreBlur grain summary.cash.value.toRat paid.toRat minimum.toRat worst.before.toRat
      desk.multiplier.toRat +
    depositGap grain terms summary (Table.empty.insert company.currency paid) worst +
    Deposit.marginBlur grain terms book factor.toRat minimum.toRat margin.toRat + accepted.toRat

/-- Without more cash a date is projected as before. -/
private theorem eq_worst_of_zero {grain : Rat} [Rounding.Lawful grain] {paid more both : Decimal}
    {points reached : List Snapshot} {worst point : Snapshot}
    (standing : desk.standing? company.id kind = some (broker, summary))
    (projected : desk.projection company date kind (Table.empty.insert company.currency paid) days =
      .ok points)
    (zero : more = 0) (summed : paid.add more = .ok both)
    (reprojected : desk.projection company date kind
      (Table.empty.insert company.currency both) days = .ok reached)
    (worstMember : worst ∈ points) (member : point ∈ reached) (sameDate : point.date = worst.date) :
    point = worst := by
  have same : both = paid := by
    refine Rounding.fit_eq ?_ (Decimal.add_ok.1 summed)
    rw [zero, Decimal.toRat_zero, add_zero]
  rw [same] at reprojected
  obtain ⟨terms, held, -, taken, taken'⟩ := exists_hedge_of_date_eq standing projected reprojected
    worstMember member sameDate
  exact Except.ok.inj (taken'.symm.trans taken)

/-- What a date with a margin comes to with more cash: the same margin before the deposit, and an
excess over it. -/
private theorem reached_excess {additional : Table Currency Decimal} {both : Decimal}
    {points reached : List Snapshot} {worst point : Snapshot}
    (standing : desk.standing? company.id kind = some (broker, summary))
    (projected : desk.projection company date kind additional days = .ok points)
    (reprojected : desk.projection company date kind
      (Table.empty.insert company.currency both) days = .ok reached)
    (worstMember : worst ∈ points) (margined : worst.before ≠ 0) (member : point ∈ reached)
    (sameDate : point.date = worst.date) :
    point.before = worst.before ∧
      (∃ terms, desk.terms company broker = .ok terms ∧
        desk.calculator.ofHoldings terms worst.positions
          (Table.empty.insert terms.domestic summary.cash.value) = .ok worst.before) ∧
      ∃ cash, summary.cash.value.add both = .ok cash ∧ cash.sub worst.before = .ok point.excess := by
  obtain ⟨terms, held, termed, taken, taken'⟩ := exists_hedge_of_date_eq standing projected
    reprojected worstMember member sameDate
  have some := Projection.positions_ne_nil taken margined
  obtain ⟨beforeIs, -⟩ := Projection.snapshot_hedged some taken
  obtain ⟨beforeIs', -, cash, added, subtracted⟩ := Projection.snapshot_hedged some taken'
  have before := Except.ok.inj (beforeIs'.symm.trans beforeIs)
  rw [before] at subtracted
  have domestic : terms.domestic = company.currency := (terms_ok termed).1
  rw [Table.get?_insert, if_pos domestic.symm] at added
  refine ⟨before, ⟨terms, termed, ?_⟩, cash, added, subtracted⟩
  rw [(Projection.snapshot_ok taken).2.2]
  exact beforeIs

/-- **The health that the minimum deposit reaches.** With a minimum that was solved, a level is
reached exactly when the margin before the deposit, times one and the level as often as the
multiplier says, is no more than the margin with the deposit, times one and the target. Rounding and
the search leave a rest. Without a minimum the date stays as it is. -/
theorem reached_iff [SummationOrder] {grain : Rat} [Rounding.Lawful grain] {paid both : Decimal}
    {points reached : List Snapshot} {result : Recommendation} {worst point : Snapshot}
    {reachedScore : Float}
    (haircut : desk.calculator = .haircut) (checked : desk.settings.check = .ok ())
    (standing : desk.standing? company.id kind = some (broker, summary))
    (projected : desk.projection company date kind (Table.empty.insert company.currency paid) days =
      .ok points)
    (recommended : desk.recommendation company date kind
      (Table.empty.insert company.currency paid) days = .ok result)
    (chosen : Snapshot.worst? desk.multiplier points = .ok (some worst))
    (margined : worst.before ≠ 0)
    (summed : paid.add result.minimum = .ok both)
    (reprojected : desk.projection company date kind
      (Table.empty.insert company.currency both) days = .ok reached)
    (member : point ∈ reached) (sameDate : point.date = worst.date)
    (rescored : point.score desk.multiplier = .ok reachedScore) :
    result.minimum = 0 ∧ point = worst ∨
      ∃ terms book factor accepted margin, ∃ quotient : Decimal,
        desk.terms company broker = .ok terms ∧
        depositBook company summary (Table.empty.insert company.currency paid) worst = .ok book ∧
        desk.Seeks terms book desk.settings.minimumTarget factor accepted ∧
        marginWith terms book result.minimum = .ok margin ∧
        reachedScore = quotient.toBinary ∧
        ∃ rest, |rest| ≤ desk.reachedSlack company grain terms summary paid result.minimum factor
            accepted margin book worst ∧
          ∀ level : Rat, level ≤ quotient.toRat ↔
            worst.before.toRat * (1 + desk.multiplier.toRat * level) ≤
              factor.toRat * margin.toRat + rest := by
  have worstMember := Snapshot.mem_of_choose? chosen
  by_cases zero : result.minimum = 0
  · exact .inl ⟨zero, eq_worst_of_zero standing projected zero summed reprojected worstMember member
      sameDate⟩
  right
  rcases recommendation_ok projected recommended with
    empty | ⟨broker', summary', worst', standing', chosen', found⟩
  · rw [empty] at zero
    exact absurd rfl zero
  obtain ⟨rfl, rfl⟩ := Prod.mk.inj (Option.some.inj (standing.symm.trans standing'))
  obtain rfl := Option.some.inj (Except.ok.inj (chosen.symm.trans chosen'))
  obtain ⟨book, terms, _, booked, termed, -, minimumIs, -⟩ := recommendationFor_ok found
  rcases minimumIs with ⟨-, none⟩ | ⟨-, required⟩
  · exact absurd none zero
  obtain ⟨_, -, outcome⟩ := requiredCash_ok haircut required
  rcases outcome with ⟨-, none⟩ | ⟨-, factor, accepted, seeks, holds⟩
  · exact absurd none zero
  -- The accepted minimum ties the cash to the margin with it, the score ties it to the one before.
  obtain ⟨balance, margin, added, marginIs, near⟩ := holds.worth_near
  obtain ⟨before, ⟨terms', termed', beforeIs⟩, cash, cashIs, excessIs⟩ :=
    reached_excess standing projected reprojected worstMember margined member sameDate
  obtain rfl := Except.ok.inj (termed.symm.trans termed')
  obtain ⟨domestic, -, multiplied⟩ := terms_ok termed
  have multiplierPos : 0 < desk.multiplier.toRat := Settings.multiplier_pos checked
  have multiplierSome : desk.multiplier ≠ 0 := Decimal.toRat_eq_zero.not.1 multiplierPos.ne'
  have beforePos : 0 < worst.before.toRat := by
    rw [haircut] at beforeIs
    obtain ⟨held, -, heldMargin⟩ := Outcome.bind_ok.1 beforeIs
    have nonneg := Margin.ofBook_nonneg (multiplied ▸ multiplierPos.le) heldMargin
    exact lt_of_le_of_ne nonneg (Ne.symm (Decimal.toRat_eq_zero.not.2 margined))
  rw [Snapshot.score, before] at rescored
  obtain ⟨quotient, quotientIs, scoreIs⟩ := Snapshot.scoreOf_ok margined multiplierSome rescored
  refine ⟨terms, book, factor, accepted, margin, quotient, termed, booked, seeks,
    marginWith_ok.2 ⟨balance, added, marginIs⟩, scoreIs, worst.before.toRat *
      (1 + desk.multiplier.toRat * quotient.toRat) - factor.toRat * margin.toRat, ?_, ?_⟩
  · obtain ⟨-, total, -, -, -, totaled, -⟩ := seeks
    have scoreNear :=
      Snapshot.quotient_near beforePos multiplierPos summed cashIs excessIs quotientIs
    have worthNear := depositBook_worth (terms_atPar termed) domestic
      (priced_of_mem_projection standing projected termed worstMember) booked totaled
    have worthIs : depositWorth terms summary (Table.empty.insert company.currency paid) =
        summary.cash.value.toRat + paid.toRat := by
      have rate := (terms_atPar termed).rateOf
      rw [domestic] at rate
      simp [depositWorth, Table.insert, Table.place, Table.empty, domestic, rate]
    rw [worthIs] at worthNear
    rw [reachedSlack]
    rw [abs_le] at near scoreNear worthNear ⊢
    constructor <;> linarith
  · intro level
    rw [add_sub_cancel, mul_le_mul_iff_right₀ beforePos, add_le_add_iff_left,
      mul_le_mul_iff_right₀ multiplierPos]

end Reached

/-! ## A minimum that doubles an eighth -/

open Projection (day figure whole)

/-- Fifty more than the margin is held at the broker. -/
def holdingMore : Summary := { cash := figure false 250 }

/-- A desk whose only projected date scores an eighth. -/
def scoringEighth : Desk :=
  sample {} holdingMore.cash [sampleEntry (day 10) 1000 1000]

/-- That date, with an amount of further cash. -/
def eighth (excess : Decimal) : Snapshot :=
  ⟨day 10, whole 200, whole 200, excess, whole 2000,
    [⟨⟨⟨"GBP"⟩, ⟨"USD"⟩⟩, whole 1000, 1⟩, ⟨⟨⟨"EUR"⟩, ⟨"USD"⟩⟩, -whole 1000, 1⟩]⟩

/-- The projection and the recommendation of the desk with no further cash, and its projection with
the minimum. -/
private theorem scoringEighth_ok :
    scoringEighth.projection sampleCompany (day 10) .live (Table.empty.insert ⟨"USD"⟩ 0) 30 =
        .ok [eighth (whole 50)] ∧
      scoringEighth.recommendation sampleCompany (day 10) .live (Table.empty.insert ⟨"USD"⟩ 0) 30 =
        .ok ⟨whole 50, whole 150⟩ ∧
      scoringEighth.projection sampleCompany (day 10) .live
        (Table.empty.insert ⟨"USD"⟩ (whole 50)) 30 = .ok [eighth (whole 100)] := by
  decide +kernel

theorem reached_iff_scoringEighth :
    ∃ terms book factor accepted margin, ∃ quotient : Decimal,
      scoringEighth.terms sampleCompany sampleBroker = .ok terms ∧
      depositBook sampleCompany holdingMore (Table.empty.insert ⟨"USD"⟩ 0) (eighth (whole 50)) =
        .ok book ∧
      scoringEighth.Seeks terms book 0.5 factor accepted ∧
      marginWith terms book (whole 50) = .ok margin ∧ 0.25 = quotient.toBinary ∧
      ∃ rest, |rest| ≤ scoringEighth.reachedSlack sampleCompany (1 / 10 ^ 28) terms holdingMore 0
          (whole 50) factor accepted margin book (eighth (whole 50)) ∧
        ∀ level : Rat, level ≤ quotient.toRat ↔
          (whole 200).toRat * (1 + (2 : Decimal).toRat * level) ≤
            factor.toRat * margin.toRat + rest := by
  obtain ⟨projected, recommended, reprojected⟩ := scoringEighth_ok
  have standing : scoringEighth.standing? sampleCompany.id .live =
      some (sampleBroker, holdingMore) := by decide +kernel
  have chosen : Snapshot.worst? scoringEighth.multiplier [eighth (whole 50)] =
      .ok (some (eighth (whole 50))) := by decide +kernel
  have rescored : (eighth (whole 100)).score scoringEighth.multiplier = .ok 0.25 := by
    decide +kernel
  rcases reached_iff rfl (by decide +kernel) standing projected recommended chosen
    (by decide +kernel) (by decide +kernel) reprojected (List.mem_singleton.2 rfl) rfl rescored with
    ⟨none, -⟩ | ⟨terms, book, factor, accepted, margin, quotient, termed, booked, seeks, margined,
      scoreIs, rest, restLe, levels⟩
  · exact absurd none (by decide +kernel)
  · exact ⟨terms, book, factor, accepted, margin, quotient, termed, booked, seeks, margined,
      scoreIs, rest, restLe, levels⟩

/-- The minimum brings the score to a quarter, where the target is a half. -/
theorem reached_lt_minimumTarget :
    (scoringEighth.settings.check = .ok () ∧ (0 : Float) ≤ scoringEighth.settings.minimumTarget) ∧
    (scoringEighth.projection sampleCompany (day 10) .live (Table.empty.insert ⟨"USD"⟩ 0) 30 =
        .ok [eighth (whole 50)] ∧
      scoringEighth.recommendation sampleCompany (day 10) .live (Table.empty.insert ⟨"USD"⟩ 0) 30 =
        .ok ⟨whole 50, whole 150⟩ ∧
      scoringEighth.projection sampleCompany (day 10) .live
        (Table.empty.insert ⟨"USD"⟩ (whole 50)) 30 = .ok [eighth (whole 100)]) ∧
    (eighth (whole 50)).score scoringEighth.multiplier = .ok 0.125 ∧
    (eighth (whole 100)).score scoringEighth.multiplier = .ok 0.25 ∧
    0.125 < scoringEighth.settings.minimumTarget ∧
    0.25 < scoringEighth.settings.minimumTarget - 0.001 :=
  ⟨by decide +kernel, scoringEighth_ok, by decide +kernel, by decide +kernel, by decide +kernel,
    by decide +kernel⟩

end Desk

end Collateral

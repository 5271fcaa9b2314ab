import Collateral.Proofs.Recommendation
import Mathlib.Tactic.Choose

/-!
Contract: the worst and the best of projected dates, and the recommendation made for the worst one.

The worst snapshot of a report and the one that its recommendation is solved on are chosen from two
projections, computed one after the other. Both are the first one with the least score, and the best
one is the last with the greatest score. The dates of a projection ascend, so the first one is the
earliest.

Owns: what choosing from a list finds, the worst and the best date of a projection, and the figures
of a report as solved on the worst one.
-/

namespace Collateral

/-! ## Choosing a snapshot -/

namespace Snapshot

variable [Rounding] {prefers : Float → Float → Bool} {multiplier : Decimal}

/-- Going through more snapshots ends at one of them that is preferred to all before it, and to which
none behind it is preferred. -/
private theorem exists_kept (scores : Snapshot → Float)
    (onward : ∀ next kept seen, prefers next kept → prefers kept seen → prefers next seen)
    (past : ∀ next kept seen, prefers next kept → ¬prefers seen kept → prefers next seen)
    (front : List Snapshot) (kept : Snapshot) (back rest : List Snapshot)
    (scored : ∀ point ∈ front ++ kept :: back ++ rest, point.score multiplier = .ok (scores point))
    (before : ∀ point ∈ front, prefers (scores kept) (scores point))
    (behind : ∀ point ∈ back, ¬prefers (scores point) (scores kept)) :
    ∃ front' kept' back', front ++ kept :: back ++ rest = front' ++ kept' :: back' ∧
      rest.foldlM
        (fun kept next => do
          let keptScore ← kept.score multiplier
          let nextScore ← next.score multiplier
          return if prefers nextScore keptScore then next else kept) kept = .ok kept' ∧
      (∀ point ∈ front', prefers (scores kept') (scores point)) ∧
      ∀ point ∈ back', ¬prefers (scores point) (scores kept') := by
  induction rest generalizing front kept back with
  | nil => exact ⟨front, kept, back, List.append_nil _, rfl, before, behind⟩
  | cons next rest inductionHypothesis =>
    have keptScored := scored kept (by simp)
    have nextScored := scored next (by simp)
    by_cases preferred : prefers (scores next) (scores kept)
    · have same : front ++ kept :: back ++ next :: rest =
          (front ++ kept :: back) ++ next :: [] ++ rest := by simp
      rw [same] at scored ⊢
      have beforeNext : ∀ point ∈ front ++ kept :: back, prefers (scores next) (scores point) := by
        intro point member
        rcases List.mem_append.1 member with inFront | atKept
        · exact onward _ _ _ preferred (before point inFront)
        · rcases List.mem_cons.1 atKept with rfl | inBack
          · exact preferred
          · exact past _ _ _ preferred (behind point inBack)
      obtain ⟨front', kept', back', split, found, rest'⟩ :=
        inductionHypothesis _ _ _ scored beforeNext (by simp)
      refine ⟨front', kept', back', split, Outcome.foldlM_cons_ok.2 ⟨next, ?_, found⟩, rest'⟩
      rw [keptScored, nextScored]
      exact Outcome.pure_ok.2 (if_pos preferred)
    · have same : front ++ kept :: back ++ next :: rest =
          front ++ kept :: (back ++ [next]) ++ rest := by simp
      rw [same] at scored ⊢
      have behindKept : ∀ point ∈ back ++ [next], ¬prefers (scores point) (scores kept) := by
        intro point member
        rcases List.mem_append.1 member with inBack | last
        · exact behind point inBack
        · obtain rfl := List.mem_singleton.1 last
          exact preferred
      obtain ⟨front', kept', back', split, found, rest'⟩ :=
        inductionHypothesis _ _ _ scored before behindKept
      refine ⟨front', kept', back', split, Outcome.foldlM_cons_ok.2 ⟨kept, ?_, found⟩, rest'⟩
      rw [keptScored, nextScored]
      exact Outcome.pure_ok.2 (if_neg preferred)

omit [Rounding] in
/-- In a list of ascending dates, a snapshot stands behind those before it and before those behind
it. -/
private theorem date_le_of_split {front back : List Snapshot} {kept : Snapshot}
    (ascending : ((front ++ kept :: back).map Snapshot.date).Pairwise (· < ·)) :
    (∀ point ∈ front, point.date ≤ kept.date) ∧ ∀ point ∈ back, kept.date ≤ point.date := by
  rw [List.pairwise_map, List.pairwise_append] at ascending
  obtain ⟨-, keptFirst, ordered⟩ := ascending
  constructor
  · intro point member
    exact Int.le_of_lt (ordered point member kept List.mem_cons_self)
  · intro point member
    exact Int.le_of_lt ((List.pairwise_cons.1 keptFirst).1 point member)

/-- From snapshots that all have a score, one is chosen: it is preferred to all earlier ones, and no
later one is preferred to it. -/
private theorem exists_choose? (prefers : Float → Float → Bool) {scores : Snapshot → Float}
    (onward : ∀ next kept seen, prefers next kept → prefers kept seen → prefers next seen)
    (past : ∀ next kept seen, prefers next kept → ¬prefers seen kept → prefers next seen)
    {points : List Snapshot} (some : points ≠ [])
    (ascending : (points.map Snapshot.date).Pairwise (· < ·))
    (scored : ∀ point ∈ points, point.score multiplier = .ok (scores point)) :
    ∃ kept ∈ points, choose? prefers multiplier points = .ok (.some kept) ∧
      ∀ point ∈ points, point.date ≤ kept.date ∧ prefers (scores kept) (scores point) ∨
        point = kept ∨ kept.date ≤ point.date ∧ ¬prefers (scores point) (scores kept) := by
  obtain ⟨first, rest, rfl⟩ := List.exists_cons_of_ne_nil some
  obtain ⟨front, kept, back, split, found, before, behind⟩ :=
    exists_kept scores onward past [] first [] rest scored (by simp) (by simp)
  change first :: rest = front ++ kept :: back at split
  have chosen : choose? prefers multiplier (first :: rest) = .ok (.some kept) :=
    Outcome.map_ok.2 ⟨kept, found, rfl⟩
  rw [split] at ascending chosen ⊢
  obtain ⟨earlier, later⟩ := date_le_of_split ascending
  refine ⟨kept, by simp, chosen, fun point member => ?_⟩
  rcases List.mem_append.1 member with inFront | atKept
  · exact .inl ⟨earlier point inFront, before point inFront⟩
  · rcases List.mem_cons.1 atKept with same | inBack
    · exact .inr (.inl same)
    · exact .inr (.inr ⟨later point inBack, behind point inBack⟩)

/-- Something is chosen from snapshots unless there are none. -/
theorem choose?_isSome {points : List Snapshot} (some : points ≠ []) {chosen? : Option Snapshot}
    (chosen : choose? prefers multiplier points = .ok chosen?) : chosen?.isSome := by
  obtain ⟨first, rest, rfl⟩ := List.exists_cons_of_ne_nil some
  obtain ⟨kept, -, rfl⟩ := Outcome.map_ok.1 chosen
  rfl

/-- Choosing scores all snapshots, unless there is only one. -/
theorem exists_score_of_choose? {points : List Snapshot} {kept : Snapshot} {score : Float}
    (chosen : choose? prefers multiplier points = .ok (some kept))
    (scored : kept.score multiplier = .ok score) :
    ∀ point ∈ points, ∃ score, point.score multiplier = .ok score := by
  cases points with
  | nil => cases chosen
  | cons first rest =>
    obtain ⟨last, found, same⟩ := Outcome.map_ok.1 chosen
    obtain rfl := Option.some.inj same
    have later : ∀ next ∈ rest, ∃ score, next.score multiplier = .ok score := by
      intro next member
      obtain ⟨before, after, stepped⟩ := Outcome.exists_of_mem_foldlM found member
      obtain ⟨_, -, afterKept⟩ := Outcome.bind_ok.1 stepped
      obtain ⟨nextScore, nextScored, -⟩ := Outcome.bind_ok.1 afterKept
      exact ⟨nextScore, nextScored⟩
    have foremost : ∃ score, first.score multiplier = .ok score := by
      cases rest with
      | nil =>
        obtain rfl := Outcome.pure_ok.1 found
        exact ⟨score, scored⟩
      | cons next rest =>
        obtain ⟨middle, stepped, -⟩ := Outcome.foldlM_cons_ok.1 found
        obtain ⟨firstScore, firstScored, -⟩ := Outcome.bind_ok.1 stepped
        exact ⟨firstScore, firstScored⟩
    intro point member
    rcases List.mem_cons.1 member with rfl | inRest
    · exact foremost
    · exact later point inRest

/-! ## The worst and the best date -/

/-- Of the snapshots with the least score the earliest one. -/
def IsWorst (multiplier : Decimal) (points : List Snapshot) (worst : Snapshot) : Prop :=
  worst ∈ points ∧ ∃ score, worst.score multiplier = .ok score ∧
    ∀ point ∈ points, ∃ other, point.score multiplier = .ok other ∧
      Binary.rank score ≤ Binary.rank other ∧
      (Binary.rank other = Binary.rank score → worst.date ≤ point.date)

/-- Of the snapshots with the greatest score the latest one. -/
def IsBest (multiplier : Decimal) (points : List Snapshot) (best : Snapshot) : Prop :=
  best ∈ points ∧ ∃ score, best.score multiplier = .ok score ∧
    ∀ point ∈ points, ∃ other, point.score multiplier = .ok other ∧
      Binary.rank other ≤ Binary.rank score ∧
      (Binary.rank other = Binary.rank score → point.date ≤ best.date)

/-- The worst of ascending dates is found where all of them have a score. -/
theorem exists_worst? {points : List Snapshot} (some : points ≠ [])
    (ascending : (points.map Snapshot.date).Pairwise (· < ·))
    (scored : ∀ point ∈ points, ∃ score, point.score multiplier = .ok score) :
    ∃ worst, worst? multiplier points = .ok (.some worst) ∧ IsWorst multiplier points worst := by
  choose! scores scored using scored
  obtain ⟨worst, member, chosen, placed⟩ := exists_choose?
    (fun next kept => decide (Binary.rank next < Binary.rank kept))
    (by simp only [decide_eq_true_eq]; omega) (by simp only [decide_eq_true_eq]; omega)
    some ascending scored
  refine ⟨worst, chosen, member, scores worst, scored worst member, fun point pointMember => ?_⟩
  refine ⟨scores point, scored point pointMember, ?_⟩
  rcases placed point pointMember with ⟨-, less⟩ | rfl | ⟨later, notLess⟩
  · have less := of_decide_eq_true less
    exact ⟨by omega, by omega⟩
  · exact ⟨le_rfl, fun _ => Int.le_refl _⟩
  · have notLess := of_decide_eq_false (Bool.eq_false_iff.2 notLess)
    exact ⟨by omega, fun _ => later⟩

theorem exists_best? {points : List Snapshot} (some : points ≠ [])
    (ascending : (points.map Snapshot.date).Pairwise (· < ·))
    (scored : ∀ point ∈ points, ∃ score, point.score multiplier = .ok score) :
    ∃ best, best? multiplier points = .ok (.some best) ∧ IsBest multiplier points best := by
  choose! scores scored using scored
  obtain ⟨best, member, chosen, placed⟩ := exists_choose?
    (fun next kept => decide (Binary.rank kept ≤ Binary.rank next))
    (by simp only [decide_eq_true_eq]; omega) (by simp only [decide_eq_true_eq]; omega)
    some ascending scored
  refine ⟨best, chosen, member, scores best, scored best member, fun point pointMember => ?_⟩
  refine ⟨scores point, scored point pointMember, ?_⟩
  rcases placed point pointMember with ⟨earlier, atMost⟩ | rfl | ⟨-, less⟩
  · exact ⟨of_decide_eq_true atMost, fun _ => earlier⟩
  · exact ⟨le_rfl, fun _ => Int.le_refl _⟩
  · have less := of_decide_eq_false (Bool.eq_false_iff.2 less)
    exact ⟨by omega, by omega⟩

end Snapshot

/-! ## The worst date of a report -/

namespace Desk

section Reported

variable [Rounding] {desk : Desk} {company : Company} {date : Date} {kind : AccountKind}
  {additional : Table Currency Decimal} {days : Nat} {points : List Snapshot}

/-- Only a company that is margined has dates in its projection. -/
theorem exists_standing_of_projection
    (projected : desk.projection company date kind additional days = .ok points)
    (some : points ≠ []) :
    ∃ broker summary, desk.standing? company.id kind = .some (broker, summary) := by
  cases standing : desk.standing? company.id kind with
  | none =>
    rw [projection, standing] at projected
    exact absurd (Outcome.pure_ok.1 projected).symm some
  | some account => exact ⟨account.1, account.2, rfl⟩

theorem projection_dates_ascending
    (projected : desk.projection company date kind additional days = .ok points) :
    (points.map Snapshot.date).Pairwise (· < ·) := by
  by_cases none : points = []
  · rw [none]
    exact .nil
  · obtain ⟨broker, summary, standing⟩ := exists_standing_of_projection projected none
    obtain ⟨terms, -, ran⟩ := projection_ok standing projected none
    exact Projection.run_dates_ascending ran

/-- Where something is projected, the recommendation belongs to the worst date. -/
theorem recommendation_of_ne_nil [SummationOrder] {result : Recommendation}
    (projected : desk.projection company date kind additional days = .ok points)
    (some : points ≠ [])
    (recommended : desk.recommendation company date kind additional days = .ok result) :
    ∃ broker summary worst, desk.standing? company.id kind = .some (broker, summary) ∧
      Snapshot.worst? desk.multiplier points = .ok (.some worst) ∧
      desk.recommendationFor company broker summary additional worst = .ok result := by
  obtain ⟨points', projected', afterPoints⟩ := Outcome.bind_ok.1 recommended
  obtain rfl := Except.ok.inj (projected.symm.trans projected')
  obtain ⟨worst?, chosen, afterWorst⟩ := Outcome.bind_ok.1 afterPoints
  rw [Outcome.liftArithmetic_ok] at chosen
  obtain ⟨worst, rfl⟩ := Option.isSome_iff_exists.1 (Snapshot.choose?_isSome some chosen)
  obtain ⟨broker, summary, standing⟩ := exists_standing_of_projection projected some
  rw [standing] at afterWorst
  exact ⟨broker, summary, worst, standing, chosen, afterWorst⟩

/-- The book of a deposit holds the positions, the broker's cash and the cash that is paid in. -/
private theorem depositBook_insert_ok {currency : Currency} {summary : Summary} {paid : Decimal}
    {worst : Snapshot} {book : Book}
    (booked : depositBook company summary (Table.empty.insert currency paid) worst = .ok book) :
    ∃ positions own, worst.book = .ok positions ∧
      positions.add company.currency summary.cash.value = .ok own ∧
      own.add currency paid = .ok book := by
  obtain ⟨positions, positioned, afterPositions⟩ := Outcome.bind_ok.1 booked
  obtain ⟨own, owned, all⟩ := Outcome.bind_ok.1 afterPositions
  refine ⟨positions, own, positioned, owned, ?_⟩
  obtain ⟨last, added, collected⟩ := Outcome.foldlM_cons_ok.1 all
  exact Outcome.pure_ok.1 collected ▸ added

/-- **The recommendation of a report is solved on its worst pending date.** Nothing is recommended
where nothing is pending. Otherwise the worst date is the earliest one with the least score and the
best one the latest with the greatest. Both figures are solved on the book of the worst date, which
holds its positions, the broker's cash and the pending cash; the minimum is zero instead where the
worst date meets its target already. -/
theorem report_solved_on_worst [SummationOrder] {custom : Option Decimal} {report : Report}
    (reported : desk.report company date custom = .ok (some report)) :
    report.pending = [] ∧ report.recommendation = ⟨0, 0⟩ ∧ report.worst? = .ok none ∧
        report.best? = .ok none ∨
      ∃ worst best score broker summary terms positions own book,
        report.worst? = .ok (some worst) ∧ report.best? = .ok (some best) ∧
        (report.pending.map Snapshot.date).Pairwise (· < ·) ∧
        Snapshot.IsWorst report.multiplier report.pending worst ∧
        Snapshot.IsBest report.multiplier report.pending best ∧
        desk.standing? company.id .live = some (broker, summary) ∧
        desk.terms company broker = .ok terms ∧
        worst.book = .ok positions ∧
        positions.add company.currency summary.cash.value = .ok own ∧
        own.add company.currency report.pendingCash = .ok book ∧
        desk.requiredCash terms book desk.settings.recommendedTarget =
          .ok report.recommendation.recommended ∧
        worst.score report.multiplier = .ok score ∧
        (desk.settings.minimumTarget ≤ score ∧ report.recommendation.minimum = 0 ∨
          ¬desk.settings.minimumTarget ≤ score ∧
            desk.requiredCash terms book desk.settings.minimumTarget =
              .ok report.recommendation.minimum) := by
  obtain ⟨made, recommended⟩ := report_ok reported
  have multiplier := made.multiplier_eq
  have projected := made.pending
  by_cases none : report.pending = []
  · left
    rw [none] at projected
    rw [recommendation_of_projection_nil projected] at recommended
    refine ⟨none, (Except.ok.inj recommended).symm, ?_, ?_⟩
    · rw [Report.worst?, none]
      rfl
    · rw [Report.best?, none]
      rfl
  · right
    obtain ⟨broker, summary, worst, standing, chosen, found⟩ :=
      recommendation_of_ne_nil projected none recommended
    obtain ⟨book, terms, score, booked, termed, scored, minimumIs, recommendedIs⟩ :=
      recommendationFor_ok found
    obtain ⟨positions, own, positioned, owned, paid⟩ := depositBook_insert_ok booked
    -- Solving has scored the worst date, and choosing it all the others.
    rw [← multiplier] at chosen scored
    have allScored := Snapshot.exists_score_of_choose? chosen scored
    have ascending := projection_dates_ascending projected
    obtain ⟨worst', chosen', isWorst⟩ := Snapshot.exists_worst? none ascending allScored
    obtain rfl := Option.some.inj (Except.ok.inj (chosen.symm.trans chosen'))
    obtain ⟨best, bestChosen, isBest⟩ := Snapshot.exists_best? none ascending allScored
    exact ⟨worst, best, score, broker, summary, terms, positions, own, book, chosen, bestChosen,
      ascending, isWorst, isBest, standing, termed, positioned, owned, paid, recommendedIs, scored,
      minimumIs⟩

end Reported

open Projection (day figure whole)

/-- Four dates, of which two at a time have the same score. -/
private def tied : Desk :=
  sample {} (figure false 250) [sampleEntry (day 10) 1000 1000, sampleEntry (day 12) 500 500,
    sampleEntry (day 14) 1000 1000, sampleEntry (day 16) 500 500]

/-- The first of the dates with the least score is the worst one, and the last of those with the
greatest score is the best one. -/
theorem report_solved_on_worst_tied :
    ∃ report worst best, tied.report sampleCompany (day 10) none = .ok (some report) ∧
      report.recommendation = ⟨whole 50, whole 150⟩ ∧
      report.worst? = .ok (some worst) ∧ worst.date = day 10 ∧
      report.best? = .ok (some best) ∧ best.date = day 16 ∧
      Snapshot.IsWorst report.multiplier report.pending worst ∧
      Snapshot.IsBest report.multiplier report.pending best := by
  obtain ⟨report, reported, figures, worstDate, bestDate⟩ : ∃ report,
      tied.report sampleCompany (day 10) none = .ok (some report) ∧
      report.recommendation = ⟨whole 50, whole 150⟩ ∧
      report.worst?.map (Option.map Snapshot.date) = .ok (some (day 10)) ∧
      report.best?.map (Option.map Snapshot.date) = .ok (some (day 16)) := by
    apply exists_of_decide
    decide +kernel
  rcases report_solved_on_worst reported with
    ⟨-, none, -⟩ | ⟨worst, best, -, -, -, -, -, -, -, chosen, bestChosen, -, isWorst, isBest, -⟩
  · rw [figures] at none
    exact absurd none (by decide +kernel)
  · rw [chosen] at worstDate
    rw [bestChosen] at bestDate
    exact ⟨report, worst, best, reported, figures, chosen,
      Option.some.inj (Except.ok.inj worstDate), bestChosen,
      Option.some.inj (Except.ok.inj bestDate), isWorst, isBest⟩

end Desk

end Collateral

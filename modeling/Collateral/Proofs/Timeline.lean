import Collateral.Projection.Walk
import Collateral.Proofs.Outcome
import Collateral.Proofs.Schedule

/-!
Contract: a projection is a look-up at every date on which exposure changes.

The projection walks over the dates with one cursor per account. None of that state shows: every
snapshot is what one finds by looking up, on its date alone, the entries in force. The main
statement holds for projections that fail as well, since the first date that cannot be computed is
the same on both sides.

Owns: the exposures outstanding on a date, the projection without cursors, and the dates visited.
-/

namespace Collateral.Projection

/-! ## Without cursors -/

/-- An account as it is announced, with its entries in the order in which they were given. -/
structure Plan where
  id : AccountId
  ratio : Decimal
  entries : List Exposure
deriving DecidableEq, Repr

/-- The account with its entries as a schedule. -/
def Plan.account (plan : Plan) : HedgedAccount :=
  ⟨plan.id, plan.ratio, .ofEntries plan.entries⟩

/-- One amount outstanding, with the part of it that its account's hedge holds. -/
structure Outstanding where
  ratio : Decimal
  currency : Currency
  amount : Decimal
deriving DecidableEq, Repr

/-- The amounts of the entries in force on a date, account by account. -/
def outstandingOn (plans : List Plan) (date : Date) : List Outstanding :=
  plans.flatMap fun plan =>
    match inForce? plan.entries date with
    | none => []
    | some entry => entry.amounts.map fun (currency, amount) => ⟨plan.ratio, currency, amount⟩

section Amounts

variable [Rounding]

/-- The domestic worth of an amount, whatever its sign. -/
def worth (terms : Terms) (item : Outstanding) : Except Failure Decimal := do
  if item.currency = terms.domestic then return item.amount.abs
  item.amount.abs.mul (← terms.spot.rate ⟨item.currency, terms.domestic⟩)

/-- The position that hedges a foreign amount, taken at the spot rate. -/
def position (terms : Terms) (item : Outstanding) : Except Failure FxPosition := do
  let rate ← terms.spot.rate ⟨item.currency, terms.domestic⟩
  return ⟨⟨item.currency, terms.domestic⟩, ← item.amount.mul item.ratio, rate⟩

/-- The hedge of the amounts outstanding on a date. -/
def hedgeOn (terms : Terms) (plans : List Plan) (date : Date) : Except Failure Hedge :=
  (outstandingOn plans date).foldlM
    (fun hedge item => hedge.add terms item.ratio item.currency item.amount) {}

/-- The snapshot of a date, from what is outstanding on it. -/
def snapshotOn (setting : Setting) (additional : Table Currency Decimal) (plans : List Plan)
    (date : Date) : Except Failure Snapshot := do
  snapshot setting additional date (← hedgeOn setting.terms plans date)

end Amounts

/-! ## The dates visited -/

theorem mem_insertDate {date other : Date} {dates : List Date} :
    other ∈ insertDate date dates ↔ other = date ∨ other ∈ dates := by
  induction dates with
  | nil => simp [insertDate]
  | cons head rest inductionHypothesis =>
    unfold insertDate
    split
    · simp
    · split
      next same => subst same; simp
      next => simp [inductionHypothesis, or_left_comm]

theorem insertDate_ascending {date : Date} {dates : List Date}
    (ascending : dates.Pairwise (· < ·)) : (insertDate date dates).Pairwise (· < ·) := by
  induction dates with
  | nil => simp [insertDate]
  | cons head rest inductionHypothesis =>
    obtain ⟨headFirst, restAscending⟩ := List.pairwise_cons.1 ascending
    unfold insertDate
    split
    next before =>
      refine List.pairwise_cons.2 ⟨fun other member => ?_, ascending⟩
      rcases List.mem_cons.1 member with rfl | inRest
      · exact before
      · exact Int.lt_trans before (headFirst other inRest)
    next notBefore =>
      split
      · exact ascending
      next differs =>
        refine List.pairwise_cons.2 ⟨fun other member => ?_, inductionHypothesis restAscending⟩
        rcases mem_insertDate.1 member with rfl | inRest
        · have notSame : ¬other.day = head.day := fun same => differs (Date.eq_iff.2 same)
          have notLess : ¬other.day < head.day := notBefore
          exact Date.lt_iff.2 (by omega)
        · exact headFirst other inRest

private theorem collected_ascending (dates : List Date) :
    (dates.foldr insertDate []).Pairwise (· < ·) := by
  induction dates with
  | nil => exact .nil
  | cons head rest inductionHypothesis => exact insertDate_ascending inductionHypothesis

private theorem mem_collected {date : Date} {dates : List Date} :
    date ∈ dates.foldr insertDate [] ↔ date ∈ dates := by
  induction dates with
  | nil => simp
  | cons head rest inductionHypothesis =>
    rw [List.foldr_cons, mem_insertDate, inductionHypothesis, List.mem_cons]

theorem eventDates_ascending (accounts : List HedgedAccount) (first last : Date) :
    (eventDates accounts first last).Pairwise (· < ·) :=
  collected_ascending _

theorem mem_eventDates {accounts : List HedgedAccount} {first last date : Date} :
    date ∈ eventDates accounts first last ↔
      (∃ account ∈ accounts, date ∈ account.schedule.dates) ∧ first ≤ date ∧ date ≤ last := by
  simp [eventDates, mem_collected]

/-- Rearranged accounts are visited on the same dates. -/
theorem eventDates_perm {accounts accounts' : List HedgedAccount}
    (permutation : accounts.Perm accounts') (first last : Date) :
    eventDates accounts first last = eventDates accounts' first last := by
  have ascending := eventDates_ascending accounts first last
  have ascending' := eventDates_ascending accounts' first last
  have distinct (accounts : List HedgedAccount) : (eventDates accounts first last).Nodup :=
    (eventDates_ascending accounts first last).imp fun {left right} ordered same =>
      (Date.lt_iff.1 ordered).ne (Date.eq_iff.1 same)
  have members : (eventDates accounts first last).Perm (eventDates accounts' first last) := by
    apply (List.perm_ext_iff_of_nodup (distinct accounts) (distinct accounts')).2
    intro date
    simp only [mem_eventDates, permutation.mem_iff]
  apply members.eq_of_pairwise _ ascending ascending'
  intro left right _ _ before after
  exact absurd (Date.lt_iff.1 before) (Date.lt_iff.1 after).not_gt

/-! ## The walk -/

/-- Walkers that have been moved up to a date stand, on any later one, where fresh ones would. -/
theorem map_advance_advance (walkers : List Walker) {first second : Date}
    (forward : first ≤ second) :
    (walkers.map (Walker.advance first)).map (Walker.advance second) =
      walkers.map (Walker.advance second) := by
  rw [List.map_map]
  apply List.map_congr_left
  intro walker _
  simp [Walker.advance, Cursor.advance_advance walker.cursor forward]

section Lookup

variable [Rounding] {setting : Setting} {additional : Table Currency Decimal}

/-- The snapshot of a date, for accounts that are moved there in one step. -/
def snapshotFrom (setting : Setting) (additional : Table Currency Decimal)
    (walkers : List Walker) (date : Date) : Except Failure Snapshot := do
  snapshot setting additional date
    (← hedge setting.terms (walkers.map (Walker.advance date)))

/-- The walk takes no notice of where its walkers have been, as long as they reach every date the
way that those of the start do. -/
private theorem walk_eq_of_reaching {start walkers : List Walker} {dates : List Date}
    (ascending : dates.Pairwise (· < ·))
    (reaching : ∀ date ∈ dates,
      walkers.map (Walker.advance date) = start.map (Walker.advance date)) :
    walk setting additional walkers dates =
      dates.mapM (snapshotFrom setting additional start) := by
  induction dates generalizing walkers with
  | nil => rfl
  | cons date dates inductionHypothesis =>
    obtain ⟨dateFirst, restAscending⟩ := List.pairwise_cons.1 ascending
    -- Moved up to this date, the walkers still reach all later ones as those of the start do.
    have onward : ∀ other ∈ dates,
        (walkers.map (Walker.advance date)).map (Walker.advance other) =
          start.map (Walker.advance other) := by
      intro other member
      rw [map_advance_advance walkers (Int.le_of_lt (dateFirst other member)),
        reaching other (List.mem_cons_of_mem date member)]
    rw [walk, inductionHypothesis restAscending onward, List.mapM_cons,
      reaching date List.mem_cons_self, snapshotFrom]
    simp only [bind_assoc]

theorem walk_eq_mapM (walkers : List Walker) {dates : List Date}
    (ascending : dates.Pairwise (· < ·)) :
    walk setting additional walkers dates =
      dates.mapM (snapshotFrom setting additional walkers) :=
  walk_eq_of_reaching ascending fun _ _ => rfl

/-! ## What the walkers hold -/

/-- Fresh walkers that are moved up to a date hold what is outstanding on it. -/
theorem hedge_eq_hedgeOn (terms : Terms) (plans : List Plan) (date : Date) :
    hedge terms (((plans.map Plan.account).map Walker.start).map (Walker.advance date)) =
      hedgeOn terms plans date := by
  rw [hedge, hedgeOn, outstandingOn, Outcome.foldlM_flatMap, List.map_map, List.map_map,
    List.foldlM_map]
  congr 1
  funext held plan
  have current := Cursor.current_advance_start plan.entries date
  simp only [Hedge.addWalker, Function.comp_apply, Walker.start, Walker.advance, Plan.account]
  rw [current]
  cases inForce? plan.entries date with
  | none => rfl
  | some entry => simp [List.foldlM_map]

/-- **A projection is a look-up at every date.** It gives the same snapshots, or the same failure,
as looking up on each date that it visits the entries in force there. -/
theorem run_eq_mapM (asOf : Date) (days : Nat) (plans : List Plan) :
    run setting asOf days (plans.map Plan.account) additional =
      (eventDates (plans.map Plan.account) asOf (asOf.ahead days)).mapM
        (snapshotOn setting additional plans) := by
  rw [run, walk_eq_mapM _ (eventDates_ascending _ _ _)]
  congr 1
  funext date
  rw [snapshotFrom, snapshotOn, hedge_eq_hedgeOn]

/-! ## What a hedge consists of -/

/-- One more amount adds its worth to the total and, unless it is domestic, its position. -/
private theorem add_ok {terms : Terms} {item : Outstanding} {held result : Hedge}
    (added : held.add terms item.ratio item.currency item.amount = .ok result) :
    (∃ value, worth terms item = .ok value ∧ held.total.add value = .ok result.total) ∧
      ((item.currency = terms.domestic ∧ result.positions = held.positions) ∨
        (item.currency ≠ terms.domestic ∧ ∃ hedged, position terms item = .ok hedged ∧
          result.positions = held.positions ++ [hedged])) := by
  unfold Hedge.add at added
  unfold worth position
  by_cases domestic : item.currency = terms.domestic
  · simp only [domestic, if_true, Outcome.bind_ok, Outcome.liftArithmetic_ok,
      Outcome.pure_ok] at added ⊢
    obtain ⟨total, summed, rfl⟩ := added
    exact ⟨⟨_, rfl, summed⟩, .inl ⟨trivial, rfl⟩⟩
  · simp only [domestic, if_false, Outcome.bind_ok, Outcome.liftArithmetic_ok,
      Outcome.liftConversion_ok, Outcome.pure_ok] at added ⊢
    obtain ⟨rate, quoted, value, scaled, total, summed, amount, hedged, rfl⟩ := added
    exact ⟨⟨value, ⟨rate, quoted, scaled⟩, summed⟩,
      .inr ⟨domestic, _, ⟨rate, quoted, amount, hedged, rfl⟩, rfl⟩⟩

/-- The total of a hedge is the worth of its amounts, and its positions are those of the foreign
ones, in order. -/
theorem hedgeOn_fold_ok {terms : Terms} {items : List Outstanding} {held result : Hedge}
    (folded : items.foldlM
      (fun hedge item => hedge.add terms item.ratio item.currency item.amount) held =
        .ok result) :
    items.foldlM (fun total item => do total.add (← worth terms item)) held.total =
        .ok result.total ∧
      ∃ positions, (items.filter (·.currency ≠ terms.domestic)).mapM (position terms) =
        .ok positions ∧ result.positions = held.positions ++ positions := by
  induction items generalizing held with
  | nil => simp_all [List.foldlM]
  | cons item items inductionHypothesis =>
    obtain ⟨middle, added, rest⟩ := Outcome.foldlM_cons_ok.1 folded
    obtain ⟨totals, positions, collected, appended⟩ := inductionHypothesis rest
    obtain ⟨⟨value, valued, summed⟩, kind⟩ := add_ok added
    refine ⟨Outcome.foldlM_cons_ok.2 ⟨middle.total, ?_, totals⟩, ?_⟩
    · exact Outcome.bind_ok.2 ⟨value, valued, by simpa using summed⟩
    · rcases kind with ⟨domestic, same⟩ | ⟨foreign, hedged, hedgedIs, extended⟩
      · refine ⟨positions, ?_, by rw [appended, same]⟩
        simpa [domestic] using collected
      · refine ⟨hedged :: positions, ?_, by simp [appended, extended]⟩
        rw [List.filter_cons_of_pos (by simpa using foreign)]
        rw [List.mapM_cons]
        exact Outcome.bind_ok.2 ⟨hedged, hedgedIs,
          Outcome.bind_ok.2 ⟨positions, collected, Outcome.pure_ok.2 rfl⟩⟩

/-- A snapshot carries its date, and the total and the positions of its hedge. -/
theorem snapshot_ok {date : Date} {held : Hedge} {result : Snapshot}
    (taken : snapshot setting additional date held = .ok result) :
    result.date = date ∧ result.totalHedge = held.total ∧ result.positions = held.positions := by
  unfold snapshot at taken
  split at taken
  next none =>
    cases taken
    exact ⟨rfl, rfl, (List.isEmpty_iff.1 none).symm⟩
  next =>
    simp only [Outcome.bind_ok, Outcome.pure_ok] at taken
    obtain ⟨before, -, after, -, cash, -, excess, -, rfl⟩ := taken
    exact ⟨rfl, rfl, rfl⟩

/-- A projection has one snapshot for every date that it visits. -/
theorem map_date_of_run {asOf : Date} {days : Nat} {accounts : List HedgedAccount}
    {points : List Snapshot} (ran : run setting asOf days accounts additional = .ok points) :
    points.map Snapshot.date = eventDates accounts asOf (asOf.ahead days) := by
  rw [run, walk_eq_mapM _ (eventDates_ascending accounts asOf (asOf.ahead days))] at ran
  have dated : ∀ date point, snapshotFrom setting additional (accounts.map Walker.start) date =
      .ok point → point.date = id date := by
    intro date point taken
    obtain ⟨held, -, snapped⟩ := Outcome.bind_ok.1 taken
    exact (snapshot_ok snapped).1
  rw [Outcome.map_of_mapM dated ran, List.map_id]

/-- The dates of a projection ascend. -/
theorem run_dates_ascending {asOf : Date} {days : Nat} {accounts : List HedgedAccount}
    {points : List Snapshot} (ran : run setting asOf days accounts additional = .ok points) :
    (points.map Snapshot.date).Pairwise (· < ·) := by
  rw [map_date_of_run ran]
  exact eventDates_ascending accounts asOf (asOf.ahead days)

/-! ## What a successful projection shows -/

/-- **Every snapshot of a projection is a look-up on its date.** The dates are those of all entries
within the horizon, ascending and each once. On each of them the positions hedge the foreign amounts
outstanding, account by account, and the total is their domestic worth together with the domestic
amounts, added up in that order. -/
theorem run_ok_lookup (asOf : Date) (days : Nat) (plans : List Plan) {points : List Snapshot}
    (ran : run setting asOf days (plans.map Plan.account) additional = .ok points) :
    (points.map Snapshot.date).Pairwise (· < ·) ∧
      (∀ date, date ∈ points.map Snapshot.date ↔
        (∃ plan ∈ plans, ∃ entry ∈ plan.entries, entry.date = date) ∧
          asOf ≤ date ∧ date.day ≤ min (asOf.day + days) lastDay) ∧
      ∀ point ∈ points,
        ((outstandingOn plans point.date).filter (·.currency ≠ setting.terms.domestic)).mapM
            (position setting.terms) = .ok point.positions ∧
          (outstandingOn plans point.date).foldlM
            (fun (total : Decimal) item => do total.add (← worth setting.terms item)) 0 =
              .ok point.totalHedge := by
  rw [run_eq_mapM] at ran
  have onDate : ∀ date point, snapshotOn setting additional plans date = .ok point →
      ∃ held, hedgeOn setting.terms plans date = .ok held ∧ point.date = date ∧
        point.totalHedge = held.total ∧ point.positions = held.positions := by
    intro date point taken
    obtain ⟨held, hedged, taken⟩ := Outcome.bind_ok.1 taken
    exact ⟨held, hedged, snapshot_ok taken⟩
  have dates : points.map Snapshot.date =
      eventDates (plans.map Plan.account) asOf (asOf.ahead days) := by
    have keeps : points.map Snapshot.date =
        (eventDates (plans.map Plan.account) asOf (asOf.ahead days)).map id :=
      Outcome.map_of_mapM (fun date point taken => (onDate date point taken).choose_spec.2.1) ran
    simpa using keeps
  refine ⟨dates ▸ eventDates_ascending _ _ _, fun date => ?_, fun point member => ?_⟩
  · have within : date ≤ asOf.ahead days ↔ date.day ≤ min (asOf.day + days) lastDay := by
      rw [Date.le_iff, Date.day_ahead]
    rw [dates, mem_eventDates, within]
    simp [Plan.account, Schedule.mem_dates_ofEntries]
  · obtain ⟨date, _, taken⟩ := Outcome.exists_of_mem_mapM ran member
    obtain ⟨held, hedged, rfl, total, positions⟩ := onDate _ _ taken
    obtain ⟨totals, collected, gathered, appended⟩ := hedgeOn_fold_ok hedged
    rw [total, positions, appended]
    exact ⟨gathered, totals⟩

end Lookup

/-! ## A projection with early, late and repeated entries -/

def figure (negative : Bool) (number : UInt64) : Figure :=
  ⟨negative, number.toNat, 0, Nat.lt_trans number.toNat_lt (by decide), Nat.zero_le _⟩

def whole (number : UInt64) : Decimal :=
  (figure false number).value

/-- A day after the first day of the calendar's count. -/
def day (number : UInt16) : Date :=
  ⟨number.toNat, Int.le_trans (by decide : firstDay ≤ 0) (Int.natCast_nonneg _),
    Int.le_trans (Int.ofNat_le.2 (Nat.le_of_lt number.toNat_lt)) (by decide)⟩

/-- A figure with one place after the point. -/
def tenths (number : UInt64) : Figure :=
  ⟨false, number.toNat, 1, Nat.lt_trans number.toNat_lt (by decide), by decide⟩

def fifth : Figure := ⟨false, 2, 1, by decide⟩

/-- Pounds take half the haircut of everything else. -/
def poundHaircuts : Haircuts where
  broker := ⟨"broker"⟩
  default := fifth.value
  rates := Table.empty.insert ⟨⟨"GBP"⟩, ⟨"USD"⟩⟩ Figure.tenth.value
  default_nonneg := by decide +kernel
  rates_nonneg := by decide +kernel

/-- Dollars are domestic, and every currency stands at par. -/
private def atPar : Setting where
  calculator := .haircut
  terms := ⟨⟨"USD"⟩, ⟨fun _ => .ok (some 1)⟩, poundHaircuts, 2⟩
  summary := {}

/-- One account has an entry before the horizon and two of one date, out of order. The other one
has an entry behind the horizon. -/
private def rolling : List Plan := [
  ⟨⟨"first"⟩, 1, [⟨day 12, [(⟨"EUR"⟩, whole 50)]⟩, ⟨day 5, [(⟨"EUR"⟩, whole 100)]⟩,
    ⟨day 12, [(⟨"EUR"⟩, whole 70), (⟨"USD"⟩, whole 3)]⟩]⟩,
  ⟨⟨"second"⟩, 2, [⟨day 11, [(⟨"GBP"⟩, -whole 30)]⟩, ⟨day 40, [(⟨"GBP"⟩, whole 1)]⟩]⟩]

theorem run_ok_lookup_rolling :
    ∃ points, run atPar (day 10) 5 (rolling.map Plan.account) .empty = .ok points ∧
      points.map Snapshot.date = [day 11, day 12] ∧
      points.map Snapshot.totalHedge = [whole 130, whole 103] ∧
      ∀ point ∈ points,
        ((outstandingOn rolling point.date).filter (·.currency ≠ ⟨"USD"⟩)).mapM
            (position atPar.terms) = .ok point.positions := by
  have figures : (run atPar (day 10) 5 (rolling.map Plan.account) .empty).map
      (List.map fun point => (point.date, point.totalHedge)) =
        .ok [(day 11, whole 130), (day 12, whole 103)] := by decide +kernel
  obtain ⟨points, ran, read⟩ := Outcome.map_ok.1 figures
  have dates := congrArg (List.map Prod.fst) read
  have totals := congrArg (List.map Prod.snd) read
  rw [List.map_map] at dates totals
  exact ⟨points, ran, dates, totals, fun point member =>
    ((run_ok_lookup (day 10) 5 rolling ran).2.2 point member).1⟩

end Collateral.Projection

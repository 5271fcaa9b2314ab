import Collateral.Desk.Monitor
import Collateral.Proofs.BinaryNumber
import Collateral.Proofs.Extremes

/-!
Contract: the alerts of a desk over any run of changes and checks.

A check reads one record, that of the day before, and its own record is kept under its own day. So
the alert of a check is known from the run: it is decided by the worst pending score and by the last
record that the run, or the history before it, holds of the day before.

Owns: runs and the records that they keep, what a single check answers, and the alert of a check
after a run.
-/

namespace Collateral

/-- The settings that are checked have a level that is a number. -/
theorem Settings.isNaN_depositLevel {settings : Settings} (checked : settings.check = .ok ()) :
    settings.depositLevel.isNaN = false :=
  Binary.isNaN_eq_false_of_isFinite (check_ok.1 checked).depositLevel_finite

/-- The worst score of a report: the least one of its pending dates, or one where there is none. -/
def Report.WorstScore [Rounding] (report : Report) (worst : Float) : Prop :=
  report.pending = [] ∧ worst = 1.0 ∨
    ∃ point, Snapshot.IsWorst report.multiplier report.pending point ∧
      point.score report.multiplier = .ok worst

/-- The alert for a worst score at a level, after a day that was low or not. -/
structure Alert.Fits (alert : Alert) (level worst : Float) (lowBefore : Prop) : Prop where
  reported : alert ≠ .noReport
  sufficient : alert = .sufficient ↔ level ≤ worst
  depositRequired : alert = .depositRequired ↔ worst < level ∧ lowBefore
  lowMargin : alert = .lowMargin ↔ worst < level ∧ ¬lowBefore

/-- A score below the level is answered by one of the two alerts for low scores. -/
theorem Alert.Fits.low_iff {alert : Alert} {level worst : Float} {lowBefore : Prop}
    (fits : alert.Fits level worst lowBefore) :
    worst < level ↔ alert = .lowMargin ∨ alert = .depositRequired := by
  constructor
  · intro low
    by_cases before : lowBefore
    · exact .inr (fits.depositRequired.2 ⟨low, before⟩)
    · exact .inl (fits.lowMargin.2 ⟨low, before⟩)
  · rintro (warned | required)
    · exact (fits.lowMargin.1 warned).1
    · exact (fits.depositRequired.1 required).1

namespace Desk

/-! ## Runs -/

/-- A step of a run: any change of the store that leaves its health records, or a check whose record
is kept. Every check adds up its book in an order of its own. -/
inductive Event where
  | changed (change : Store → Store)
  | checked (order : SummationOrder) (company : Company) (date : Date)

section Runs

variable [Rounding]

/-- The record that a step keeps. A check that fails keeps none. -/
def recordOf? (desk : Desk) : Event → Option DailyHealth
  | .changed _ => none
  | .checked order company date =>
    match desk.checkIn order company date with
    | .ok check => check.record
    | .error _ => none

def after (desk : Desk) : Event → Desk
  | .changed change => { desk with store := { change desk.store with health := desk.store.health } }
  | .checked order company date =>
    match desk.checkIn order company date with
    | .ok check => { desk with store := desk.store.applyAll check.kept }
    | .error _ => desk

def afterAll (desk : Desk) (events : List Event) : Desk :=
  events.foldl after desk

/-- The records that a run keeps, in order. -/
def recorded (desk : Desk) : List Event → List DailyHealth
  | [] => []
  | event :: events => (desk.recordOf? event).toList ++ recorded (desk.after event) events

/-- The last record of a day that a run has kept; the one of the history before it where there is
none. -/
def lastRecord? (desk : Desk) (events : List Event) (company : CompanyId) (date : Date) :
    Option DailyHealth :=
  (((desk.recorded events).filter
    fun record => record.company = company ∧ record.date = date).getLast?).or
      (desk.store.health? company date)

/-- Whether the last record of the day before lies below a level. -/
def LowBefore (desk : Desk) (events : List Event) (company : CompanyId) (date : Date)
    (level : Float) : Prop :=
  ∃ yesterday record, yesterday.day + 1 = date.day ∧
    desk.lastRecord? events company yesterday = some record ∧ record.worst < level

/-- A check of a company on a day, as a step. -/
def Event.Checks (company : CompanyId) (date : Date) : Event → Prop
  | .changed _ => False
  | .checked _ other day => other.id = company ∧ day = date

/-- The answer of the last check of a company on a day. -/
def LastChecked (desk : Desk) (events : List Event) (company : CompanyId) (date : Date)
    (check : Check) : Prop :=
  ∃ order earlier other later, events = earlier ++ .checked order other date :: later ∧
    other.id = company ∧ (desk.afterAll earlier).checkIn order other date = .ok check ∧
    ∀ event ∈ later, ¬event.Checks company date

/-! ## What a run keeps -/

private theorem settings_after (desk : Desk) (event : Event) :
    (desk.after event).settings = desk.settings := by
  cases event with
  | changed change => rfl
  | checked order company date =>
    unfold after
    dsimp only
    split <;> rfl

/-- No step changes the settings. -/
theorem settings_afterAll (desk : Desk) (events : List Event) :
    (desk.afterAll events).settings = desk.settings := by
  induction events generalizing desk with
  | nil => rfl
  | cons event events inductionHypothesis =>
    exact (inductionHypothesis (desk.after event)).trans (settings_after desk event)

/-- A step changes the record of one day at most, to the one that it keeps. -/
private theorem health?_after (desk : Desk) (event : Event) (company : CompanyId) (date : Date) :
    (desk.after event).store.health? company date =
      ((desk.recordOf? event).toList.filter
        fun record => record.company = company ∧ record.date = date).getLast?.or
          (desk.store.health? company date) := by
  cases event with
  | changed change => rfl
  | checked order other day =>
    unfold after recordOf?
    dsimp only
    cases desk.checkIn order other day with
    | error failure => rfl
    | ok check =>
      dsimp only
      unfold Check.kept
      cases check.record with
      | none => rfl
      | some record =>
        change (desk.store.health.insert (record.company, record.date) record).get?
          (company, date) = _
        rw [Table.get?_insert]
        by_cases same : record.company = company ∧ record.date = date
        · simp [same]
        · simp [same, Store.health?]

/-- **What the history holds after a run** is the last record of every day. -/
theorem health?_afterAll (desk : Desk) (events : List Event) (company : CompanyId) (date : Date) :
    (desk.afterAll events).store.health? company date = desk.lastRecord? events company date := by
  induction events generalizing desk with
  | nil => rfl
  | cons event events inductionHypothesis =>
    have first := health?_after desk event company date
    unfold lastRecord? recorded
    rw [List.filter_append, List.getLast?_append, Option.or_assoc, ← first]
    exact inductionHypothesis (desk.after event)

/-! ## One check -/

variable {desk : Desk} {company : Company} {date : Date} {check : Check}

/-- The score of the worst pending date is the least one. -/
private theorem worstScore_of_scoreOr [SummationOrder] {report : Report}
    (reported : desk.report company date none = .ok (some report)) {worst? : Option Snapshot}
    {worst : Float} (chosen : report.worst? = .ok worst?)
    (scored : scoreOr report.multiplier worst? = .ok worst) : report.WorstScore worst := by
  by_cases empty : report.pending = []
  · rw [Report.worst?, empty] at chosen
    obtain rfl := Except.ok.inj chosen
    exact .inl ⟨empty, (Outcome.pure_ok.1 scored).symm⟩
  · obtain ⟨point, rfl⟩ := Option.isSome_iff_exists.1 (Snapshot.choose?_isSome empty chosen)
    have ascending := projection_dates_ascending (report_ok reported).1.pending
    obtain ⟨point', chosen', isWorst⟩ := Snapshot.exists_worst? empty ascending
      (Snapshot.exists_score_of_choose? chosen scored)
    obtain rfl := Option.some.inj (Except.ok.inj (chosen.symm.trans chosen'))
    exact .inr ⟨point, isWorst, scored⟩

private theorem isNaN_worstScore {report : Report} {worst : Float}
    (least : report.WorstScore worst) : worst.isNaN = false := by
  rcases least with ⟨-, rfl⟩ | ⟨point, -, scored⟩
  · decide +kernel
  · exact Snapshot.isNaN_score scored

omit [Rounding] in
private theorem alertFor_fits (company : Company) (date : Date) {worst : Float}
    (levelSome : desk.settings.depositLevel.isNaN = false) (worstSome : worst.isNaN = false) :
    (desk.alertFor company.id date worst).Fits desk.settings.depositLevel worst
      (wasLow desk.store company.id date desk.settings.depositLevel = true) := by
  have low := Binary.not_le_iff_lt levelSome worstSome
  unfold alertFor
  dsimp only
  by_cases enough : desk.settings.depositLevel ≤ worst
  · rw [if_pos enough]
    have notLow : ¬worst < desk.settings.depositLevel := fun less => low.2 less enough
    constructor <;> simp [enough, notLow]
  · rw [if_neg enough]
    have less := low.1 enough
    by_cases lowBefore : wasLow desk.store company.id date desk.settings.depositLevel = true
    · rw [if_pos lowBefore]
      constructor <;> simp [enough, less, lowBefore]
    · rw [if_neg lowBefore]
      constructor <;> simp [enough, less, lowBefore]

/-- A check answers nothing for a company without a live broker account. For all others it keeps the
worst score of the day, and its alert fits that score. -/
theorem check_ok [SummationOrder] (levelSome : desk.settings.depositLevel.isNaN = false)
    (done : desk.check company date = .ok check) :
    desk.store.broker? company.id .live = none ∧ check = ⟨.noReport, none, none⟩ ∨
      (desk.store.broker? company.id .live).isSome ∧ ∃ report record,
        desk.report company date none = .ok (some report) ∧ check.report = some report ∧
        check.record = some record ∧ record.company = company.id ∧ record.date = date ∧
        report.WorstScore record.worst ∧ check.alert.Fits desk.settings.depositLevel record.worst
          (wasLow desk.store company.id date desk.settings.depositLevel = true) := by
  obtain ⟨report?, reported, rest⟩ := Outcome.bind_ok.1 done
  have hasBroker := report_isSome reported
  cases report? with
  | none =>
    left
    exact ⟨Option.isNone_iff_eq_none.1 (by simpa using hasBroker.symm),
      (Outcome.pure_ok.1 rest).symm⟩
  | some report =>
    right
    simp only [Outcome.bind_ok, Outcome.liftArithmetic_ok, Outcome.pure_ok] at rest
    obtain ⟨worst?, chosen, worst, scored, best?, -, best, -, rfl⟩ := rest
    have least := worstScore_of_scoreOr reported chosen scored
    have fits := alertFor_fits company date levelSome (isNaN_worstScore least)
    exact ⟨hasBroker.symm, report, _, reported, rfl, rfl, rfl, rfl, least, fits⟩

/-! ## A check after a run -/

omit [Rounding] in
private theorem previous?_eq_some {date yesterday : Date} :
    date.previous? = some yesterday ↔ yesterday.day + 1 = date.day := by
  unfold Date.previous? Date.ofDay?
  constructor
  · intro found
    split at found
    · cases found
      exact Int.sub_add_cancel _ _
    · cases found
  · intro next
    have before : date.day - 1 = yesterday.day := by omega
    rw [dif_pos (before ▸ ⟨yesterday.firstDay_le, yesterday.le_lastDay⟩), Option.some.injEq]
    exact Date.eq_iff.2 before

/-- A check after a run sees the last record of the day before. -/
private theorem wasLow_afterAll (desk : Desk) (events : List Event) (company : CompanyId)
    (date : Date) (level : Float) :
    wasLow (desk.afterAll events).store company date level = true ↔
      desk.LowBefore events company date level := by
  unfold wasLow LowBefore
  simp only [← health?_afterAll, ← previous?_eq_some]
  cases date.previous? with
  | none => simp
  | some yesterday =>
    cases found : (desk.afterAll events).store.health? company yesterday with
    | none => simp [found]
    | some record => simp [found]

/-- A record that a step keeps belongs to the company and the day of its check. -/
private theorem checks_of_recordOf? (levelSome : desk.settings.depositLevel.isNaN = false)
    {event : Event} {record : DailyHealth} (kept : desk.recordOf? event = some record) :
    event.Checks record.company record.date := by
  cases event with
  | changed change => cases kept
  | checked order company date =>
    unfold recordOf? at kept
    dsimp only at kept
    split at kept
    next check done =>
      rcases check_ok levelSome done with
        ⟨-, rfl⟩ | ⟨-, report, record', -, -, recordIs, companyIs, dateIs, -⟩
      · cases kept
      · obtain rfl := Option.some.inj (kept.symm.trans recordIs)
        exact ⟨companyIs.symm, dateIs.symm⟩
    next => cases kept

private theorem exists_checks_of_mem_recorded
    (levelSome : desk.settings.depositLevel.isNaN = false) {events : List Event}
    {record : DailyHealth} (member : record ∈ desk.recorded events) :
    ∃ event ∈ events, event.Checks record.company record.date := by
  induction events generalizing desk with
  | nil => cases member
  | cons event events inductionHypothesis =>
    rcases List.mem_append.1 member with here | later
    · exact ⟨event, List.mem_cons_self, checks_of_recordOf? levelSome (Option.mem_toList.1 here)⟩
    · rw [← settings_after desk event] at levelSome
      obtain ⟨other, otherMember, checks⟩ := inductionHypothesis levelSome later
      exact ⟨other, List.mem_cons_of_mem event otherMember, checks⟩

private theorem recorded_append (desk : Desk) (earlier later : List Event) :
    desk.recorded (earlier ++ later) =
      desk.recorded earlier ++ (desk.afterAll earlier).recorded later := by
  induction earlier generalizing desk with
  | nil => rfl
  | cons event earlier inductionHypothesis =>
    rw [List.cons_append, recorded, recorded, inductionHypothesis, List.append_assoc]
    rfl

/-- The record of the last check of a day is the last record of that day. -/
private theorem lastRecord?_of_lastChecked (levelSome : desk.settings.depositLevel.isNaN = false)
    {events : List Event} {company : CompanyId} {record : DailyHealth}
    (last : desk.LastChecked events company date check) (recordIs : check.record = some record) :
    desk.lastRecord? events company date = some record := by
  obtain ⟨order, earlier, other, later, rfl, rfl, done, none⟩ := last
  have keptIs : (desk.afterAll earlier).recordOf? (.checked order other date) = some record := by
    rw [recordOf?, done]
    exact recordIs
  rw [← settings_afterAll desk earlier] at levelSome
  have same := checks_of_recordOf? levelSome keptIs
  rw [← settings_after _ (.checked order other date)] at levelSome
  have past : (((desk.afterAll earlier).after (.checked order other date)).recorded later).filter
      (fun record => record.company = other.id ∧ record.date = date) = [] := by
    rw [List.filter_eq_nil_iff]
    intro record' member matching
    obtain ⟨event, eventMember, checks⟩ := exists_checks_of_mem_recorded levelSome member
    obtain ⟨companyIs, dateIs⟩ := of_decide_eq_true matching
    exact none event eventMember (companyIs ▸ dateIs ▸ checks)
  unfold lastRecord?
  rw [recorded_append, recorded, keptIs, List.filter_append, List.filter_append, past]
  simp [← same.1, ← same.2]

/-- Only the last record of the day before counts. -/
private theorem lowBefore_iff {events : List Event} {company : CompanyId} {yesterday : Date}
    {level : Float} (next : yesterday.day + 1 = date.day) :
    desk.LowBefore events company date level ↔
      ∃ record, desk.lastRecord? events company yesterday = some record ∧ record.worst < level := by
  constructor
  · rintro ⟨other, record, otherNext, last, low⟩
    have same : other = yesterday := Date.eq_iff.2 (by omega)
    exact ⟨record, same ▸ last, low⟩
  · rintro ⟨record, last, low⟩
    exact ⟨yesterday, record, next, last, low⟩

/-- The last check of the day before decides whether that day was low. -/
private theorem lowBefore_of_lastChecked (levelSome : desk.settings.depositLevel.isNaN = false)
    {events : List Event} {company : CompanyId} {yesterday : Date} {before : Check}
    (next : yesterday.day + 1 = date.day)
    (last : desk.LastChecked events company yesterday before) :
    (before.alert = .sufficient →
        ¬desk.LowBefore events company date desk.settings.depositLevel) ∧
      (before.alert = .lowMargin ∨ before.alert = .depositRequired →
        desk.LowBefore events company date desk.settings.depositLevel) := by
  have lastRecord {record : DailyHealth} (recordIs : before.record = some record) :=
    lastRecord?_of_lastChecked levelSome last recordIs
  obtain ⟨order, earlier, other, later, -, -, done, -⟩ := last
  have settings := settings_afterAll desk earlier
  have outcome := check_ok (settings ▸ levelSome) done
  rw [settings] at outcome
  rw [lowBefore_iff next]
  rcases outcome with ⟨-, rfl⟩ | ⟨-, report, record, -, -, recordIs, -, -, -, fits⟩
  · simp
  · simp only [lastRecord recordIs, Option.some.injEq, exists_eq_left', fits.low_iff]
    refine ⟨?_, id⟩
    intro enough
    simp [enough]

/-- **The alert of a check after any run.** A check has no report exactly when the company has no live
broker account. Otherwise its record holds the worst pending score, and its alert is decided by that
score and by the last record of the day before. After a day without a record, or one whose last check
was sufficient, a low day does not call for a deposit; after a day whose last check was low it does. -/
theorem check_afterAll [SummationOrder] {events : List Event}
    (levelSome : desk.settings.depositLevel.isNaN = false)
    (done : (desk.afterAll events).check company date = .ok check) :
    (check.alert = .noReport ↔ (desk.afterAll events).store.broker? company.id .live = none) ∧
      (check.record = none ↔ check.alert = .noReport) ∧
      (∀ record, check.record = some record → ∃ report,
        (desk.afterAll events).report company date none = .ok (some report) ∧
        check.report = some report ∧ record.company = company.id ∧ record.date = date ∧
        report.WorstScore record.worst ∧
        check.alert.Fits desk.settings.depositLevel record.worst
          (desk.LowBefore events company.id date desk.settings.depositLevel)) ∧
      ∀ yesterday, yesterday.day + 1 = date.day →
        (desk.lastRecord? events company.id yesterday = none → check.alert ≠ .depositRequired) ∧
        ∀ before, desk.LastChecked events company.id yesterday before →
          (before.alert = .sufficient → check.alert ≠ .depositRequired) ∧
          (before.alert = .lowMargin ∨ before.alert = .depositRequired →
            check.alert ≠ .lowMargin) := by
  have settings := settings_afterAll desk events
  have outcome := check_ok (settings ▸ levelSome) done
  rw [settings] at outcome
  simp only [wasLow_afterAll] at outcome
  rcases outcome with ⟨noBroker, rfl⟩ | ⟨hasBroker, report, record, reported, reportIs, recordIs,
    companyIs, dateIs, least, fits⟩
  · refine ⟨iff_of_true rfl noBroker, iff_of_true rfl rfl, ?_, ?_⟩
    · intro record recordIs
      cases recordIs
    · intro yesterday next
      simp
  · refine ⟨iff_of_false fits.reported ?_, iff_of_false ?_ fits.reported, ?_, ?_⟩
    · intro none
      rw [none] at hasBroker
      cases hasBroker
    · simp [recordIs]
    · intro other otherIs
      obtain rfl := Option.some.inj (recordIs.symm.trans otherIs)
      exact ⟨report, reported, reportIs, companyIs, dateIs, least, fits⟩
    · intro yesterday next
      refine ⟨fun none required => ?_, fun before last => ?_⟩
      · obtain ⟨record', found, -⟩ := (lowBefore_iff next).1 (fits.depositRequired.1 required).2
        rw [none] at found
        cases found
      · obtain ⟨enough, low⟩ := lowBefore_of_lastChecked levelSome next last
        refine ⟨fun sufficient required => ?_, fun warned lowMargin => ?_⟩
        · exact enough sufficient (fits.depositRequired.1 required).2
        · exact (fits.lowMargin.1 lowMargin).2 (low warned)

end Runs

open Projection (day figure)

/-- A desk whose only date scores an eighth. -/
private def lowDesk (level : Float) : Desk :=
  sample { depositLevel := level } (figure false 250) [sampleEntry (day 10) 1000 1000]

/-- The second low day in a row calls for a deposit. -/
theorem check_afterAll_secondLow :
    ∃ check record, ((lowDesk 0.5).afterAll
        [.checked .arrival sampleCompany (day 9), .changed id]).check
          sampleCompany (day 10) = .ok check ∧
      check.alert = .depositRequired ∧ check.record = some record ∧ record.worst < 0.5 ∧
      (lowDesk 0.5).LowBefore [.checked .arrival sampleCompany (day 9), .changed id]
        sampleCompany.id (day 10) 0.5 := by
  have answered : (((lowDesk 0.5).afterAll
      [.checked .arrival sampleCompany (day 9), .changed id]).check
        sampleCompany (day 10)).map Check.alert = .ok .depositRequired := by
    decide +kernel
  obtain ⟨check, done, required⟩ := Outcome.map_ok.1 answered
  have checked : (lowDesk 0.5).settings.check = .ok () := by decide +kernel
  have levelSome := Settings.isNaN_depositLevel checked
  obtain ⟨-, unreported, recorded, -⟩ := check_afterAll levelSome done
  cases recordIs : check.record with
  | none =>
    rw [unreported.1 recordIs] at required
    cases required
  | some record =>
    obtain ⟨report, -, -, -, -, -, fits⟩ := recorded record recordIs
    obtain ⟨low, lowBefore⟩ := fits.depositRequired.1 required
    exact ⟨check, record, done, required, recordIs, low, lowBefore⟩

/-- The low desk before it has a broker account, with a low record of the day before. -/
private def unserved : Desk :=
  { lowDesk 0.5 with
    store := { (lowDesk 0.5).store with
      brokers := .empty
      health := Table.empty.insert (sampleCompany.id, day 9) ⟨sampleCompany.id, day 9, 0.1, 0.1⟩ } }

/-- At an undefined level every score is answered by a warning, though none lies below it. After a
day without a report, a low day calls for a deposit where an older record of that day is low. -/
theorem check_afterAll_unordered :
    ((lowDesk (0 / 0)).check sampleCompany (day 10)).map (fun check =>
        (check.alert, check.record.map fun record => decide (record.worst < 0 / 0))) =
      .ok (.lowMargin, some false) ∧
    (unserved.check sampleCompany (day 9)).map Check.alert = .ok .noReport ∧
    ((unserved.afterAll [.checked .arrival sampleCompany (day 9),
        .changed fun store => { store with brokers := (lowDesk 0.5).store.brokers }]).check
      sampleCompany (day 10)).map Check.alert = .ok .depositRequired := by
  decide +kernel

end Desk

end Collateral

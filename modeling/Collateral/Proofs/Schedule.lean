import Collateral.Exposure
import Collateral.Proofs.Sorting
import Mathlib.Data.List.TakeWhile

/-!
Contract: what a cursor finds on a schedule.

A schedule is made from entries in any order, and the entry in force on a date is defined on the
entries as they were given: among those dated on or before the date, the last one given among those
with the greatest date. A cursor sees the sorted entries only, and only those ahead of it. It finds
the entry in force all the same, wherever it has stopped on the way.

Owns: dates in their order, the entry in force, and the cursor laws.

Does not own: what is done with the entries found.
-/

namespace Collateral

/-! ## The order of dates -/

namespace Date

theorem le_iff {left right : Date} : left ≤ right ↔ left.day ≤ right.day := Iff.rfl

theorem lt_iff {left right : Date} : left < right ↔ left.day < right.day := Iff.rfl

theorem eq_iff {left right : Date} : left = right ↔ left.day = right.day := by
  cases left
  cases right
  simp

theorem le_refl (date : Date) : date ≤ date := Int.le_refl _

theorem le_total (left right : Date) : left ≤ right ∨ right ≤ left := Int.le_total _ _

theorem le_trans {first second third : Date}
    (lower : first ≤ second) (upper : second ≤ third) : first ≤ third :=
  Int.le_trans lower upper

/-- The step ahead ends on the last date at the latest. -/
theorem day_ahead (date : Date) (days : Nat) :
    (date.ahead days).day = min (date.day + days) lastDay := by
  have firstDay_le := date.firstDay_le
  unfold ahead ofDay?
  split
  next within => simp only [Option.getD_some]; omega
  next beyond => simp only [Option.getD_none, last]; omega

end Date

/-! ## The entry in force -/

/-- The entry in force on a date: among the entries dated on or before it, the last one given among
those with the greatest date. -/
def inForce? (entries : List Exposure) (date : Date) : Option Exposure :=
  let due := entries.filter (·.date ≤ date)
  due.reverse.find? fun entry => due.all (·.date ≤ entry.date)

/-- With a greatest date among the due entries, the last entry of that date is in force. -/
theorem inForce?_of_greatest {entries : List Exposure} {date : Date} {greatest : Exposure}
    (member : greatest ∈ entries) (due : greatest.date ≤ date)
    (noneLater : ∀ other ∈ entries, other.date ≤ date → other.date ≤ greatest.date) :
    inForce? entries date = (entries.filter (·.date = greatest.date)).getLast? := by
  have chosen : ∀ entry ∈ entries,
      (decide (entry.date ≤ date) &&
        (entries.filter (·.date ≤ date)).all (·.date ≤ entry.date)) =
          decide (entry.date = greatest.date) := by
    intro entry entryMember
    rw [Bool.eq_iff_iff]
    simp only [Bool.and_eq_true, decide_eq_true_eq, List.all_eq_true, List.mem_filter, and_imp]
    constructor
    · rintro ⟨entryDue, above⟩
      have upper := noneLater entry entryMember entryDue
      have lower := above greatest member due
      exact Date.eq_iff.2 (Int.le_antisymm upper lower)
    · intro same
      exact same ▸ ⟨due, noneLater⟩
  rw [inForce?, ← List.head?_filter, List.filter_reverse, List.head?_reverse, List.filter_filter,
    List.filter_congr fun entry entryMember => by rw [Bool.and_comm, chosen entry entryMember]]

theorem inForce?_of_noneDue {entries : List Exposure} {date : Date}
    (noneDue : ∀ entry ∈ entries, ¬entry.date ≤ date) : inForce? entries date = none := by
  have empty : entries.filter (·.date ≤ date) = [] := by simpa using noneDue
  simp [inForce?, empty]

/-- Either no entry is due, or one of the due entries has the greatest date among them. -/
private theorem noneDue_or_greatest (entries : List Exposure) (date : Date) :
    (∀ entry ∈ entries, ¬entry.date ≤ date) ∨
      ∃ greatest ∈ entries, greatest.date ≤ date ∧
        ∀ other ∈ entries, other.date ≤ date → other.date ≤ greatest.date := by
  induction entries with
  | nil => exact .inl (by simp)
  | cons head rest inductionHypothesis =>
    by_cases due : head.date ≤ date
    · right
      rcases inductionHypothesis with noneDue | ⟨greatest, member, greatestDue, noneLater⟩
      · refine ⟨head, List.mem_cons_self, due, ?_⟩
        rintro other (_ | ⟨_, inRest⟩) otherDue
        · exact Date.le_refl _
        · exact absurd otherDue (noneDue other inRest)
      · rcases Date.le_total head.date greatest.date with headBelow | headAbove
        · refine ⟨greatest, List.mem_cons_of_mem _ member, greatestDue, ?_⟩
          rintro other (_ | ⟨_, inRest⟩) otherDue
          · exact headBelow
          · exact noneLater other inRest otherDue
        · refine ⟨head, List.mem_cons_self, due, ?_⟩
          rintro other (_ | ⟨_, inRest⟩) otherDue
          · exact Date.le_refl _
          · exact Date.le_trans (noneLater other inRest otherDue) headAbove
    · rcases inductionHypothesis with noneDue | ⟨greatest, member, greatestDue, noneLater⟩
      · left
        rintro entry (_ | ⟨_, inRest⟩)
        · exact due
        · exact noneDue entry inRest
      · right
        refine ⟨greatest, List.mem_cons_of_mem _ member, greatestDue, ?_⟩
        rintro other (_ | ⟨_, inRest⟩) otherDue
        · exact absurd otherDue due
        · exact noneLater other inRest otherDue

/-- What is in force is one of the latest entries that are due. -/
theorem latest_of_inForce? {entries : List Exposure} {date : Date} {found : Exposure}
    (inForce : inForce? entries date = some found) :
    found ∈ entries ∧ found.date ≤ date ∧
      ∀ other ∈ entries, other.date ≤ date → other.date ≤ found.date := by
  have member := List.mem_reverse.1 (List.mem_of_find?_eq_some inForce)
  obtain ⟨given, due⟩ := List.mem_filter.1 member
  refine ⟨given, of_decide_eq_true due, fun other otherGiven otherDue => ?_⟩
  have chosen : (entries.filter (·.date ≤ date)).all (·.date ≤ found.date) = true :=
    (List.find?_eq_some_iff_append.1 inForce).1
  have above := List.all_eq_true.1 chosen other (List.mem_filter.2 ⟨otherGiven, by simpa⟩)
  exact of_decide_eq_true above

/-- An entry is in force as soon as one is due. -/
theorem inForce?_isSome {entries : List Exposure} {date : Date} :
    (inForce? entries date).isSome ↔ ∃ entry ∈ entries, entry.date ≤ date := by
  constructor
  · intro some
    obtain ⟨found, inForce⟩ := Option.isSome_iff_exists.1 some
    obtain ⟨member, due, -⟩ := latest_of_inForce? inForce
    exact ⟨found, member, due⟩
  · rintro ⟨entry, member, due⟩
    rcases noneDue_or_greatest entries date with noneDue | ⟨greatest, inEntries, greatestDue, upper⟩
    · exact absurd due (noneDue entry member)
    · have inClass : greatest ∈ entries.filter (·.date = greatest.date) :=
        List.mem_filter.2 ⟨inEntries, decide_eq_true rfl⟩
      rw [inForce?_of_greatest inEntries greatestDue upper, List.getLast?_isSome]
      exact List.ne_nil_of_mem inClass

/-- In entries that are in order, those behind the due ones in front are not due. -/
private theorem notDue_of_dropWhile (date : Date) {entries : List Exposure}
    (sorted : entries.Pairwise fun left right => left.date ≤ right.date) :
    ∀ entry ∈ entries.dropWhile (·.date ≤ date), ¬entry.date ≤ date := by
  induction entries with
  | nil => simp
  | cons head rest inductionHypothesis =>
    obtain ⟨headFirst, restSorted⟩ := List.pairwise_cons.1 sorted
    by_cases due : head.date ≤ date
    · simpa [List.dropWhile_cons, due] using inductionHypothesis restSorted
    · simp only [List.dropWhile_cons, due, decide_false, Bool.false_eq_true, if_false]
      intro entry member entryDue
      rcases List.mem_cons.1 member with rfl | inRest
      · exact due entryDue
      · exact due (Date.le_trans (headFirst entry inRest) entryDue)

/-- In entries that are in order the due ones stand in front, and the last of these is in force. -/
theorem inForce?_of_sorted {entries : List Exposure} {date : Date}
    (sorted : entries.Pairwise fun left right => left.date ≤ right.date) :
    inForce? entries date = (entries.takeWhile (·.date ≤ date)).getLast? := by
  have behind := notDue_of_dropWhile date sorted
  have split := List.takeWhile_append_dropWhile (p := fun entry => decide (entry.date ≤ date))
    (l := entries)
  have inFront : ∀ entry ∈ entries.takeWhile (·.date ≤ date), entry.date ≤ date :=
    fun entry member => by simpa using List.mem_takeWhile_imp member
  rcases List.eq_nil_or_concat' (entries.takeWhile (·.date ≤ date)) with
    none | ⟨earlier, last, front⟩
  · rw [none, List.nil_append] at split
    rw [none, inForce?_of_noneDue (split ▸ behind)]
    rfl
  · rw [front] at split inFront
    have member : last ∈ entries := by rw [← split]; simp
    have due : last.date ≤ date := inFront last (by simp)
    have noneLater : ∀ other ∈ entries, other.date ≤ date → other.date ≤ last.date := by
      intro other otherMember otherDue
      rw [← split] at sorted otherMember
      rcases List.mem_append.1 otherMember with inEarlier | inBehind
      · rcases List.mem_append.1 inEarlier with isEarlier | isLast
        · exact (List.pairwise_append.1 (List.pairwise_append.1 sorted).1).2.2 other isEarlier
            last (by simp)
        · exact List.mem_singleton.1 isLast ▸ Date.le_refl _
      · exact absurd otherDue (behind other inBehind)
    have noneBehind :
        (entries.dropWhile (·.date ≤ date)).filter (·.date = last.date) = [] := by
      refine List.filter_eq_nil_iff.2 fun other otherMember same => behind other otherMember ?_
      exact (of_decide_eq_true same) ▸ due
    rw [inForce?_of_greatest member due noneLater, front, ← split, List.filter_append, noneBehind]
    simp

namespace Schedule

theorem ofEntries_sorted (entries : List Exposure) :
    (ofEntries entries).entries.Pairwise fun left right => left.date ≤ right.date := by
  have sorted : (sortBy (fun left right : Exposure => left.date ≤ right.date) entries).Pairwise
      fun left right => decide (left.date ≤ right.date) := sortBy_pairwise
    (fun left right => by simpa using Date.le_total left.date right.date)
    (fun first second third => by simpa using Date.le_trans) entries
  simpa [ofEntries] using sorted

theorem mem_ofEntries {entry : Exposure} {entries : List Exposure} :
    entry ∈ (ofEntries entries).entries ↔ entry ∈ entries :=
  mem_sortBy

theorem mem_dates_ofEntries {date : Date} {entries : List Exposure} :
    date ∈ (ofEntries entries).dates ↔ ∃ entry ∈ entries, entry.date = date := by
  simp [dates, mem_ofEntries]

/-- Putting the entries in order does not change which one is in force. -/
theorem inForce?_ofEntries (entries : List Exposure) (date : Date) :
    inForce? (ofEntries entries).entries date = inForce? entries date := by
  rcases noneDue_or_greatest entries date with noneDue | ⟨greatest, member, due, noneLater⟩
  · rw [inForce?_of_noneDue noneDue,
      inForce?_of_noneDue fun entry member => noneDue entry (mem_ofEntries.1 member)]
  · rw [inForce?_of_greatest member due noneLater,
      inForce?_of_greatest (mem_ofEntries.2 member) due fun other otherMember =>
        noneLater other (mem_ofEntries.1 otherMember)]
    refine congrArg List.getLast? (filter_sortBy (fun left right leftDay rightDay => ?_) entries)
    simp only [decide_eq_true_eq] at leftDay rightDay ⊢
    rw [leftDay, rightDay]
    exact Date.le_refl _

end Schedule

/-! ## The cursor -/

namespace Cursor

private theorem advanceOver_eq (current : Option Exposure) (date : Date)
    (ahead : List Exposure) :
    advanceOver current date ahead =
      ⟨(ahead.takeWhile (·.date ≤ date)).getLast?.or current,
        ahead.dropWhile (·.date ≤ date)⟩ := by
  induction ahead generalizing current with
  | nil => simp [advanceOver]
  | cons head rest inductionHypothesis =>
    unfold advanceOver
    by_cases due : head.date ≤ date
    · rw [if_pos due, inductionHypothesis]
      simp [due, List.getLast?_cons]
    · simp [due]

/-- Stopping on the way makes no difference. -/
theorem advance_advance (cursor : Cursor) {first second : Date} (forward : first ≤ second) :
    (cursor.advance first).advance second = cursor.advance second := by
  obtain ⟨current, ahead⟩ := cursor
  unfold advance
  induction ahead generalizing current with
  | nil => rfl
  | cons head rest inductionHypothesis =>
    by_cases due : head.date ≤ first
    · have dueToo : head.date ≤ second := Date.le_trans due forward
      simpa [advanceOver, due, dueToo] using inductionHypothesis (some head)
    · simp [advanceOver, due]

/-- A fresh cursor stands at the last of the due entries in front, in whatever order they are. -/
theorem current_advance (schedule : Schedule) (date : Date) :
    (schedule.start.advance date).current =
      (schedule.entries.takeWhile (·.date ≤ date)).getLast? := by
  rw [Schedule.start, advance, advanceOver_eq, Option.or_none]

/-- A fresh cursor that is moved up to a date finds the entry in force among the entries given. -/
theorem current_advance_start (entries : List Exposure) (date : Date) :
    ((Schedule.ofEntries entries).start.advance date).current = inForce? entries date := by
  rw [← Schedule.inForce?_ofEntries, inForce?_of_sorted (Schedule.ofEntries_sorted entries),
    current_advance]

end Cursor

end Collateral

import Collateral.Proofs.Timeline
import Mathlib.Data.List.Infix
import Mathlib.Data.List.Induction

/-!
Contract: what a cursor answers over a whole history of requests.

A cursor keeps nothing of its history but the place that it has reached. That is enough. A request for
a date that lies behind leaves it where it is, and one for a date ahead takes it where a fresh cursor
would go. So the place is decided by the greatest date asked for, in whatever order the dates came.

Owns: the entry that governs a date, requests, and the answers of one cursor to many of them.
-/

namespace Collateral

/-! ## The entry that governs a date -/

/-- An entry governs a date: it is due, no due entry is dated later, and no due entry of its date is
given behind it. -/
def Governs (entries : List Exposure) (date : Date) (entry : Exposure) : Prop :=
  ∃ before behind, entries = before ++ entry :: behind ∧ entry.date ≤ date ∧
    (∀ other ∈ before, other.date ≤ date → other.date ≤ entry.date) ∧
    ∀ other ∈ behind, other.date ≤ date → other.date < entry.date

/-- The entry in force is the one that governs. -/
theorem inForce?_eq_some_iff {entries : List Exposure} {date : Date} {entry : Exposure} :
    inForce? entries date = some entry ↔ Governs entries date entry := by
  constructor
  · intro inForce
    obtain ⟨member, due, noneLater⟩ := latest_of_inForce? inForce
    rw [inForce?_of_greatest member due noneLater] at inForce
    -- The entry is the last one of its date, so the list parts there.
    obtain ⟨others, alike⟩ := List.getLast?_eq_some_iff.1 inForce
    obtain ⟨before, behind, parted, -, tail⟩ := List.filter_eq_append_iff.1 alike
    obtain ⟨between, rest, behindIs, betweenApart, -, restApart⟩ := List.filter_eq_cons_iff.1 tail
    have given : entries = (before ++ between) ++ entry :: rest := by
      rw [parted, behindIs, List.append_assoc]
    refine ⟨before ++ between, rest, given, due, fun other inFront otherDue => ?_,
      fun other inRest otherDue => ?_⟩
    · exact noneLater other (given ▸ List.mem_append_left _ inFront) otherDue
    · have upper := noneLater other (given ▸ by simp [inRest]) otherDue
      have apart : other.date ≠ entry.date := by
        simpa using List.filter_eq_nil_iff.1 restApart other inRest
      exact Date.lt_iff.2 (lt_of_le_of_ne (Date.le_iff.1 upper) (Date.eq_iff.not.1 apart))
  · rintro ⟨before, behind, rfl, due, inFront, inRest⟩
    have noneLater : ∀ other ∈ before ++ entry :: behind,
        other.date ≤ date → other.date ≤ entry.date := by
      intro other member otherDue
      rcases List.mem_append.1 member with isBefore | fromEntry
      · exact inFront other isBefore otherDue
      · rcases List.mem_cons.1 fromEntry with rfl | isBehind
        · exact Date.le_refl _
        · exact Int.le_of_lt (inRest other isBehind otherDue)
    have noneBehind : behind.filter (·.date = entry.date) = [] := by
      refine List.filter_eq_nil_iff.2 fun other isBehind same => ?_
      have same : other.date = entry.date := of_decide_eq_true same
      exact absurd (inRest other isBehind (same ▸ due)) (same ▸ Int.lt_irrefl _)
    rw [inForce?_of_greatest (by simp) due noneLater, List.filter_append,
      List.filter_cons_of_pos (by simp), noneBehind]
    simp

/-! ## Requests -/

namespace Cursor

/-- A call on a cursor: moving it up to a date, or asking where it stands. -/
inductive Request where
  | advance (date : Date)
  | current
deriving DecidableEq, Repr

/-- The cursor after a request. It answers with the entry that it then stands at. -/
def serve (cursor : Cursor) : Request → Cursor
  | .advance date => cursor.advance date
  | .current => cursor

def serveAll (cursor : Cursor) (requests : List Request) : Cursor :=
  requests.foldl serve cursor

/-- The answers of one cursor to requests that are made one after the other. -/
def answers (cursor : Cursor) : List Request → List (Option Exposure)
  | [] => []
  | request :: requests =>
    (cursor.serve request).current :: (cursor.serve request).answers requests

/-- A date is the greatest one asked for among requests. -/
structure GreatestAsked (requests : List Request) (date : Date) : Prop where
  asked : .advance date ∈ requests
  greatest : ∀ other, .advance other ∈ requests → other ≤ date

/-- An earlier answer is kept by a later one, or superseded by an entry that is not dated before it. -/
def Kept (earlier later : Option Exposure) : Prop :=
  ∀ found ∈ earlier, ∃ next ∈ later, found.date ≤ next.date

theorem serveAll_append (cursor : Cursor) (requests more : List Request) :
    cursor.serveAll (requests ++ more) = (cursor.serveAll requests).serveAll more :=
  List.foldl_append

theorem serveAll_append_request (cursor : Cursor) (requests : List Request) (request : Request) :
    cursor.serveAll (requests ++ [request]) = (cursor.serveAll requests).serve request :=
  cursor.serveAll_append requests [request]

/-- The answers are where the cursor stands after the requests up to each one. -/
theorem answers_eq (cursor : Cursor) (requests : List Request) :
    cursor.answers requests =
      requests.inits.tail.map fun asked => (cursor.serveAll asked).current := by
  induction requests generalizing cursor with
  | nil => rfl
  | cons request requests inductionHypothesis =>
    rw [answers, inductionHypothesis, List.inits_cons, List.tail_cons, List.map_map]
    cases requests <;> rfl

/-! ## The place of a cursor -/

/-- A date that lies behind leaves a cursor where it is. -/
theorem advance_of_le (cursor : Cursor) {first second : Date} (back : second ≤ first) :
    (cursor.advance first).advance second = cursor.advance first := by
  obtain ⟨current, ahead⟩ := cursor
  unfold advance
  induction ahead generalizing current with
  | nil => rfl
  | cons head rest inductionHypothesis =>
    by_cases due : head.date ≤ first
    · simpa [advanceOver, due] using inductionHypothesis (some head)
    · have notDue : ¬head.date ≤ second := fun early => due (Date.le_trans early back)
      simp [advanceOver, due, notDue]

/-- A cursor stands at its start while no date has been asked for, and then where the greatest date
alone would have taken it. -/
theorem serveAll_eq (cursor : Cursor) (requests : List Request) :
    ((∀ date, .advance date ∉ requests) ∧ cursor.serveAll requests = cursor) ∨
      ∃ date, GreatestAsked requests date ∧ cursor.serveAll requests = cursor.advance date := by
  induction requests using List.reverseRecOn with
  | nil => exact .inl ⟨by simp, rfl⟩
  | append_singleton requests request inductionHypothesis =>
    rw [serveAll_append_request]
    cases request with
    | current =>
      rcases inductionHypothesis with ⟨noDate, stays⟩ | ⟨date, ⟨asked, greatest⟩, stands⟩
      · exact .inl ⟨by simpa using noDate, stays⟩
      · exact .inr ⟨date, ⟨by simpa using asked, by simpa using greatest⟩, stands⟩
    | advance date =>
      right
      rcases inductionHypothesis with ⟨noDate, stays⟩ | ⟨reached, ⟨asked, greatest⟩, stands⟩
      · refine ⟨date, ⟨by simp, fun other member => ?_⟩, by rw [stays, serve]⟩
        rcases List.mem_append.1 member with earlier | last
        · exact absurd earlier (noDate other)
        · obtain rfl : other = date := by simpa using last
          exact Date.le_refl _
      · rcases Date.le_total reached date with ahead | back
        · refine ⟨date, ⟨by simp, fun other member => ?_⟩,
            by rw [stands, serve, advance_advance cursor ahead]⟩
          rcases List.mem_append.1 member with earlier | last
          · exact Date.le_trans (greatest other earlier) ahead
          · obtain rfl : other = date := by simpa using last
            exact Date.le_refl _
        · refine ⟨reached, ⟨List.mem_append_left _ asked, fun other member => ?_⟩,
            by rw [stands, serve, advance_of_le cursor back]⟩
          rcases List.mem_append.1 member with earlier | last
          · exact greatest other earlier
          · obtain rfl : other = date := by simpa using last
            exact back

theorem GreatestAsked.unique {requests : List Request} {date date' : Date}
    (greatest : GreatestAsked requests date) (greatest' : GreatestAsked requests date') :
    date = date' :=
  Date.eq_iff.2 (Int.le_antisymm (greatest'.greatest date greatest.asked)
    (greatest.greatest date' greatest'.asked))

/-- A cursor stands at the entry that governs the greatest date asked for. -/
theorem current_serveAll_eq_some_iff {entries : List Exposure} {requests : List Request}
    {found : Exposure} :
    ((Schedule.ofEntries entries).start.serveAll requests).current = some found ↔
      ∃ date, GreatestAsked requests date ∧ Governs entries date found := by
  rcases (Schedule.ofEntries entries).start.serveAll_eq requests with
    ⟨noDate, stays⟩ | ⟨date, greatest, stands⟩
  · rw [stays]
    constructor
    · intro nothing
      cases nothing
    · rintro ⟨date, greatest, -⟩
      exact absurd greatest.asked (noDate date)
  · rw [stands, current_advance_start, inForce?_eq_some_iff]
    constructor
    · exact fun governs => ⟨date, greatest, governs⟩
    · rintro ⟨date', greatest', governs⟩
      rwa [greatest.unique greatest']

/-- More requests do not take a cursor back. -/
theorem kept_serveAll_append (entries : List Exposure) (requests more : List Request) :
    Kept ((Schedule.ofEntries entries).start.serveAll requests).current
      ((Schedule.ofEntries entries).start.serveAll (requests ++ more)).current := by
  intro found reached
  obtain ⟨date, greatest, governs⟩ := current_serveAll_eq_some_iff.1 (Option.mem_def.1 reached)
  obtain ⟨member, due, -⟩ := latest_of_inForce? (inForce?_eq_some_iff.2 governs)
  rcases (Schedule.ofEntries entries).start.serveAll_eq (requests ++ more) with
    ⟨noDate, -⟩ | ⟨later, laterGreatest, stands⟩
  · exact absurd (List.mem_append_left _ greatest.asked) (noDate date)
  · have ahead : date ≤ later :=
      laterGreatest.greatest date (List.mem_append_left _ greatest.asked)
    have dueLater := Date.le_trans due ahead
    rw [stands, current_advance_start]
    obtain ⟨next, inForce⟩ :=
      Option.isSome_iff_exists.1 (inForce?_isSome.2 ⟨found, member, dueLater⟩)
    exact ⟨next, inForce, (latest_of_inForce? inForce).2.2 found member dueLater⟩

/-- One answer after the other keeps those before it. -/
theorem answers_kept (entries : List Exposure) (made requests : List Request) :
    (((Schedule.ofEntries entries).start.serveAll made).answers requests).Pairwise Kept := by
  induction requests generalizing made with
  | nil => exact .nil
  | cons request requests inductionHypothesis =>
    have onward := inductionHypothesis (made ++ [request])
    rw [serveAll_append_request] at onward
    refine List.pairwise_cons.2 ⟨fun later member => ?_, onward⟩
    rw [answers_eq] at member
    obtain ⟨asked, -, rfl⟩ := List.mem_map.1 member
    rw [← serveAll_append_request, ← serveAll_append]
    exact kept_serveAll_append entries (made ++ [request]) asked

/-- **Every answer is the entry that governs the greatest date asked for so far**, and there is none
where no date has been asked for or no entry governs it. So the cursor never goes back, and never
passes over an entry that supersedes another. -/
theorem answers_governed (entries : List Exposure) (requests : List Request) :
    List.Forall₂
        (fun asked answer => ∀ found, answer = some found ↔
          ∃ date, GreatestAsked asked date ∧ Governs entries date found)
        requests.inits.tail ((Schedule.ofEntries entries).start.answers requests) ∧
      ((Schedule.ofEntries entries).start.answers requests).Pairwise Kept := by
  refine ⟨?_, answers_kept entries [] requests⟩
  rw [answers_eq, List.forall₂_map_right_iff]
  exact List.forall₂_same.2 fun asked _ found => current_serveAll_eq_some_iff

/-! ## Dates asked for back and forth -/

open Projection (day whole)

/-- Two entries of one date, and an earlier one between them. -/
private def outOfOrder : List Exposure :=
  [⟨day 12, [(⟨"EUR"⟩, whole 50)]⟩, ⟨day 5, [(⟨"EUR"⟩, whole 100)]⟩, ⟨day 12, [(⟨"EUR"⟩, whole 70)]⟩]

private def lastGiven : Exposure := ⟨day 12, [(⟨"EUR"⟩, whole 70)]⟩

private def backAndForth : List Request :=
  [.current, .advance (day 4), .advance (day 20), .advance (day 6), .current]

/-- The cursor passes three entries at once, and does not return to the one in force on the sixth
day. -/
theorem answers_governed_backAndForth :
    (Schedule.ofEntries outOfOrder).start.answers backAndForth =
        [none, none, some lastGiven, some lastGiven, some lastGiven] ∧
      ∃ date, GreatestAsked backAndForth date ∧ Governs outOfOrder date lastGiven := by
  have answered : (Schedule.ofEntries outOfOrder).start.answers backAndForth =
      [none, none, some lastGiven, some lastGiven, some lastGiven] := by decide +kernel
  obtain ⟨governed, -⟩ := answers_governed outOfOrder backAndForth
  rw [answered] at governed
  have last := (List.forall₂_iff_get.1 governed).2 4 (by decide) (by decide)
  exact ⟨answered, (last lastGiven).1 rfl⟩

end Cursor

end Collateral

import Collateral.Document.Schedule
import Collateral.Proofs.Outcome
import Collateral.Proofs.Schedule

/-!
Contract: the order of the entries of a schedule.

A cursor passes the due entries that stand in front. Where the entries are in order of their dates it
so finds the latest one that is due. Making a schedule puts them in order. Reading a schedule from a
text keeps them as they are written, and behind an entry of a later date those that are due are missed.

Owns: schedules in order, what a cursor should find, and the entries of a schedule that was read.
-/

namespace Collateral.Schedule

open Document

/-- The entries stand in order of their dates. -/
def InOrder (schedule : Schedule) : Prop :=
  schedule.entries.Pairwise fun left right => left.date ≤ right.date

instance (schedule : Schedule) : Decidable schedule.InOrder :=
  inferInstanceAs (Decidable (List.Pairwise _ _))

/-- A fresh cursor that is moved up to a date finds an entry if one is due, and then one of the
latest. -/
def FindsLatest (schedule : Schedule) (date : Date) : Prop :=
  ((schedule.start.advance date).current.isSome ↔ ∃ entry ∈ schedule.entries, entry.date ≤ date) ∧
    ∀ found ∈ (schedule.start.advance date).current, found ∈ schedule.entries ∧
      found.date ≤ date ∧ ∀ other ∈ schedule.entries, other.date ≤ date → other.date ≤ found.date

instance (schedule : Schedule) (date : Date) : Decidable (schedule.FindsLatest date) :=
  inferInstanceAs (Decidable (_ ∧ _))

theorem InOrder.findsLatest {schedule : Schedule} (inOrder : schedule.InOrder) (date : Date) :
    schedule.FindsLatest date := by
  have reached : (schedule.start.advance date).current = inForce? schedule.entries date := by
    rw [Cursor.current_advance, inForce?_of_sorted inOrder]
  rw [FindsLatest, reached]
  exact ⟨inForce?_isSome, fun found inForce => latest_of_inForce? inForce⟩

/-! ## Reading -/

/-- A schedule is written with these items for its entries: in a record under their name, or as the
only value of a list. -/
inductive Spells : Node → List Node → Prop
  | record {members : List (Document.Part String × Node)} {ending listEnding : Except Fault Unit}
      {name : Document.Part String} {items : List Node} (named : name.reading = .ok "entries")
      (member : (name, .list items listEnding) ∈ members) : Spells (.record members ending) items
  | list {ending listEnding : Except Fault Unit} {items : List Node} :
      Spells (.list [.list items listEnding] ending) items

private theorem readList_ok {α : Type} {reader : Reader α} {node : Node} {values : List α}
    (done : readList reader node = .ok values) :
    ∃ items ending, node = .list items ending ∧ items.mapM reader = .ok values := by
  cases node with
  | list items ending =>
    obtain ⟨collected, mapped, rest⟩ := Outcome.bind_ok.1 done
    obtain ⟨-, -, returned⟩ := Outcome.bind_ok.1 rest
    exact ⟨items, ending, rfl, Outcome.pure_ok.1 returned ▸ mapped⟩
  | _ => contradiction

/-- The only field of a schedule goes by its own name alone. -/
private theorem field?_shape {key : String} {field : Field}
    (known : shape.field? key = some field) : key = "entries" ∧ field.name = "entries" := by
  obtain ⟨matched, member⟩ := And.intro (List.find?_some known) (List.mem_of_find?_eq_some known)
  obtain rfl : field = .of "entries" (readList Exposure.read) := List.mem_singleton.1 member
  exact ⟨by simpa [Field.of, eq_comm] using matched, rfl⟩

/-- What taking one member adds stands under the name of the entries. -/
private theorem take_ok {given result : Given} {member : Document.Part String × Node}
    (taken : shape.take given member = .ok result) :
    result = given ∨
      member.1.reading = .ok "entries" ∧
        result.values = given.values ++ [("entries", member.2)] := by
  obtain ⟨key, named, rest⟩ := Outcome.bind_ok.1 taken
  cases known : shape.field? key with
  | none =>
    left
    simp only [known] at rest
    obtain ⟨-, -, returned⟩ := Outcome.bind_ok.1 rest
    exact (Outcome.pure_ok.1 returned).symm
  | some field =>
    right
    obtain ⟨rfl, name⟩ := field?_shape known
    simp only [known, name] at rest
    split at rest
    next => contradiction
    next =>
      obtain ⟨-, -, returned⟩ := Outcome.bind_ok.1 rest
      rw [← Outcome.pure_ok.1 returned]
      exact ⟨named, rfl⟩

/-- The values of a record are those of its members under the name of the entries. -/
private theorem exists_of_mem_values {members : List (Document.Part String × Node)} {start given : Given}
    (taken : members.foldlM shape.take start = .ok given) {value : String × Node}
    (member : value ∈ given.values) :
    value ∈ start.values ∨
      ∃ name, name.reading = .ok "entries" ∧ (name, value.2) ∈ members := by
  induction members generalizing start with
  | nil =>
    rw [Outcome.pure_ok.1 taken]
    exact .inl member
  | cons head rest inductionHypothesis =>
    obtain ⟨middle, first, onward⟩ := Outcome.foldlM_cons_ok.1 taken
    rcases inductionHypothesis onward with inMiddle | ⟨name, named, inRest⟩
    · rcases take_ok first with same | ⟨named, added⟩
      · exact .inl (same ▸ inMiddle)
      · rw [added, List.mem_append, List.mem_singleton] at inMiddle
        rcases inMiddle with inStart | rfl
        · exact .inl inStart
        · exact .inr ⟨head.1, named, List.mem_cons_self⟩
    · exact .inr ⟨name, named, List.mem_cons_of_mem _ inRest⟩

/-- A list has to hold the entries and nothing else. -/
private theorem takeInOrder_ok {ending : Except Fault Unit} {values : List Node}
    {collected : List (String × Node)}
    (taken : shape.takeInOrder ending shape.fields values = .ok collected) :
    ∃ item, values = [item] ∧ collected = [("entries", item)] := by
  unfold shape at taken
  cases values with
  | nil =>
    obtain ⟨-, -, rest⟩ := Outcome.bind_ok.1 taken
    contradiction
  | cons item others =>
    obtain ⟨-, -, rest⟩ := Outcome.bind_ok.1 taken
    obtain ⟨following, ended, returned⟩ := Outcome.bind_ok.1 rest
    obtain ⟨_, closed, nothing⟩ := Outcome.bind_ok.1 ended
    have alone : others = [] := by
      by_contra more
      rw [endOf, if_pos (List.length_pos_iff.2 more)] at closed
      contradiction
    rw [← Outcome.pure_ok.1 returned, ← Outcome.pure_ok.1 nothing, alone]
    exact ⟨item, rfl, rfl⟩

private theorem mem_of_node? {given : Given} {name : String} {node : Node}
    (found : given.node? name = some node) : (name, node) ∈ given.values := by
  obtain ⟨value, first, rfl⟩ := Option.map_eq_some_iff.1 found
  obtain rfl : value.1 = name := by simpa using List.find?_some first
  exact List.mem_of_find?_eq_some first

/-- The entries of a schedule that was read are the written items, one by one. -/
theorem read_ok {node : Node} {schedule : Schedule} (done : read node = .ok schedule) :
    ∃ items, Spells node items ∧ items.mapM Exposure.read = .ok schedule.entries := by
  obtain ⟨given, taken, rest⟩ := Outcome.bind_ok.1 done
  obtain ⟨entries, got, returned⟩ := Outcome.bind_ok.1 rest
  rw [← Outcome.pure_ok.1 returned]
  obtain ⟨value, expected, listed⟩ := Outcome.bind_ok.1 got
  obtain ⟨items, listEnding, rfl, mapped⟩ := readList_ok listed
  refine ⟨items, ?_, mapped⟩
  have held : ("entries", .list items listEnding) ∈ given.values := by
    apply mem_of_node?
    cases found : given.node? "entries" with
    | none => rw [found] at expected; contradiction
    | some value => rw [found] at expected; exact congrArg some (Except.ok.inj expected)
  cases node with
  | record members ending =>
    obtain ⟨collected, folded, rest⟩ := Outcome.bind_ok.1 taken
    obtain ⟨-, -, returned⟩ := Outcome.bind_ok.1 rest
    rw [← Outcome.pure_ok.1 returned] at held
    rcases exists_of_mem_values folded held with inStart | ⟨name, named, member⟩
    · simp at inStart
    · exact .record named member
  | list values ending =>
    obtain ⟨collected, inOrder, rfl⟩ := Outcome.map_ok.1 taken
    obtain ⟨item, rfl, rfl⟩ := takeInOrder_ok inOrder
    obtain rfl : Node.list items listEnding = item := by simpa using held
    exact .list
  | _ => contradiction

theorem ofText_ok {text : String} {schedule : Schedule} (done : ofText text = .ok schedule) :
    ∃ items, Spells (Source.ofText text).root items ∧
      items.mapM Exposure.read = .ok schedule.entries := by
  obtain ⟨value, valued, rest⟩ := Outcome.bind_ok.1 done
  obtain ⟨-, -, returned⟩ := Outcome.bind_ok.1 rest
  exact Outcome.pure_ok.1 returned ▸ read_ok valued

/-! ## Both ways to a schedule -/

/-- **A schedule that is made is in order, and one that is read is as it was written.** So a cursor
finds the latest due entry of every schedule that is made. On a schedule that was read it stands at
the last of the due entries in front, which is the latest one where the text keeps the order. -/
theorem findsLatest_ofEntries_ofText (entries : List Exposure) (text : String) :
    ((ofEntries entries).InOrder ∧ ∀ date, (ofEntries entries).FindsLatest date) ∧
      ∀ schedule, ofText text = .ok schedule →
        (∃ items, Spells (Source.ofText text).root items ∧
          items.mapM Exposure.read = .ok schedule.entries) ∧
        (∀ date, (schedule.start.advance date).current =
          (schedule.entries.takeWhile (·.date ≤ date)).getLast?) ∧
        (schedule.InOrder → ∀ date, schedule.FindsLatest date) := by
  constructor
  · have inOrder : (ofEntries entries).InOrder := ofEntries_sorted entries
    exact ⟨inOrder, inOrder.findsLatest⟩
  · intro schedule done
    exact ⟨ofText_ok done, Cursor.current_advance schedule, InOrder.findsLatest⟩

/-- Two hundred euros from February and, behind them, a hundred from January. -/
private def februaryFirst : String :=
  "\x7b\"entries\":[\x7b\"date\":\"2024-02-01\",\"exposures\":[[\"EUR\",\"200\"]]\x7d," ++
    "\x7b\"date\":\"2024-01-01\",\"exposures\":[[\"EUR\",\"100\"]]\x7d]\x7d"

/-- The same entries, those of January first, as a list of values. -/
private def januaryFirst : String :=
  "[[[\"2024-01-01\",[[\"EUR\",\"100\"]]],[\"2024-02-01\",[[\"EUR\",\"200\"]]]]]"

private def midJanuary : Date := ⟨19737, by decide, by decide⟩

theorem findsLatest_ofEntries_ofText_januaryFirst :
    ∃ schedule, ofText januaryFirst = .ok schedule ∧ schedule.FindsLatest midJanuary ∧
      (ofEntries schedule.entries.reverse).FindsLatest midJanuary ∧
      (schedule.start.advance midJanuary).current =
        (schedule.entries.takeWhile (·.date ≤ midJanuary)).getLast? := by
  have inOrder : (ofText januaryFirst).map (fun schedule => decide schedule.InOrder) =
      .ok true := by decide +kernel
  obtain ⟨schedule, done, decided⟩ := Outcome.map_ok.1 inOrder
  obtain ⟨⟨-, made⟩, written⟩ :=
    findsLatest_ofEntries_ofText schedule.entries.reverse januaryFirst
  obtain ⟨-, reached, found⟩ := written schedule done
  exact ⟨schedule, done, found (of_decide_eq_true decided) midJanuary, made midJanuary,
    reached midJanuary⟩

/-- The entry of February hides that of January, which is due. -/
theorem ofText_februaryFirst :
    ∃ schedule, ofText februaryFirst = .ok schedule ∧ ¬schedule.InOrder ∧
      (∃ entry ∈ schedule.entries, entry.date ≤ midJanuary) ∧
      (schedule.start.advance midJanuary).current = none ∧ ¬schedule.FindsLatest midJanuary := by
  have read : (ofText februaryFirst).map (fun schedule => decide (¬schedule.InOrder ∧
      (∃ entry ∈ schedule.entries, entry.date ≤ midJanuary) ∧
      (schedule.start.advance midJanuary).current = none ∧ ¬schedule.FindsLatest midJanuary)) =
        .ok true := by decide +kernel
  obtain ⟨schedule, done, decided⟩ := Outcome.map_ok.1 read
  exact ⟨schedule, done, of_decide_eq_true decided⟩

end Collateral.Schedule

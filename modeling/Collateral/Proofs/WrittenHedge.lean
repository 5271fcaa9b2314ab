import Collateral.Proofs.CheckedSettings
import Mathlib.Data.List.Nodup

/-!
Contract: the texts that are hedge settings, and what they say.

A closed record is read member by member, and every value is checked where it stands. What comes of
it is not a matter of that order: each member has to name a field and to hold a value of the field,
and no field may be given twice, under whichever of its names. So the settings of a text are known
from the values that its members have under the names of each field, and rearranging the members
changes at most the fault for which a text is refused.

Owns: well-formed texts, the records that a closed shape accepts, and the grammar of hedge settings.
-/

namespace Collateral

namespace Document

/-- A text that holds one value, whatever it is. -/
def WellFormed (text : String) : Prop :=
  read Node.skip text = .ok ()

/-- Where a well-formed text holds a record, nothing is wrong behind it or with its end. -/
theorem WellFormed.endings {text : String} (wellFormed : WellFormed text)
    {members : List (Part String × Node)} {ending : Except Fault Unit}
    (record : (Source.ofText text).root = .record members ending) :
    ending = .ok () ∧ (Source.ofText text).ending = .ok () := by
  unfold WellFormed read Source.read at wellFormed
  rw [record, Node.skip] at wellFormed
  obtain ⟨⟨⟩, skipped, rest⟩ := Outcome.bind_ok.1 wellFormed
  obtain ⟨⟨⟩, -, ended⟩ := Outcome.bind_ok.1 skipped
  obtain ⟨⟨⟩, closed, -⟩ := Outcome.bind_ok.1 rest
  exact ⟨ended, closed⟩

/-- The values of the members that go by one of certain names. -/
def valuesUnder (names : List String) (members : List (Part String × Node)) : List Node :=
  (members.filter fun member => names.any fun name => member.1.reading = .ok name).map Prod.snd

/-- What a setting comes to: the usual value where no value is given, and else the only value that
is given, as it is read. -/
inductive Holds {α : Type} (reader : Reader α) (usual : α) : List Node → α → Prop
  | absent : Holds reader usual [] usual
  | given {node : Node} {value : α} (reads : reader node = .ok value) :
    Holds reader usual [node] value

namespace Holds

variable {α : Type} {reader : Reader α} {usual value : α} {nodes : List Node}

theorem length_le_one (holds : Holds reader usual nodes value) : nodes.length ≤ 1 := by
  cases holds with
  | absent => exact Nat.zero_le 1
  | given => exact Nat.le_refl 1

theorem reads (holds : Holds reader usual nodes value) {node : Node} (member : node ∈ nodes) :
    reader node = .ok value := by
  cases holds with
  | absent => cases member
  | given reads => exact List.mem_singleton.1 member ▸ reads

theorem perm (holds : Holds reader usual nodes value) {nodes' : List Node}
    (rearranged : nodes.Perm nodes') : Holds reader usual nodes' value := by
  cases holds with
  | absent => exact rearranged.nil_eq ▸ .absent
  | given reads => exact List.perm_singleton.1 rearranged.symm ▸ .given reads

end Holds

theorem valuesUnder_perm (names : List String) {members members' : List (Part String × Node)}
    (rearranged : members.Perm members') :
    (valuesUnder names members).Perm (valuesUnder names members') :=
  (rearranged.filter _).map _

theorem mem_valuesUnder {names : List String} {members : List (Part String × Node)}
    {member : Part String × Node} {name : String} (inRecord : member ∈ members)
    (asked : name ∈ names) (reading : member.1.reading = .ok name) :
    member.2 ∈ valuesUnder names members :=
  List.mem_map_of_mem (List.mem_filter.2 ⟨inRecord, List.any_eq_true.2
    ⟨name, asked, decide_eq_true reading⟩⟩)

/-! ## Closed records -/

namespace Shape

/-- The field that a key names. -/
def named? (shape : Shape) (key : Part String) : Option Field :=
  match key.reading with
  | .ok name => shape.field? name
  | .error _ => none

/-- A member names a field and holds a value of it. -/
def Accepts (shape : Shape) (member : Part String × Node) : Prop :=
  ∃ field, shape.named? member.1 = some field ∧ field.check member.2 = .ok ()

/-- The values of the members, each under the name of its field. -/
def labelled (shape : Shape) (members : List (Part String × Node)) : List (String × Node) :=
  members.filterMap fun member =>
    (shape.named? member.1).map fun field => (field.name, member.2)

variable {shape : Shape} {given result : Given} {member : Part String × Node}
  {members : List (Part String × Node)}

/-- A closed record takes a member that it accepts, unless the field is given already. -/
private theorem take_closed_ok (closed : shape.closed = true) :
    shape.take given member = .ok result ↔
      ∃ field, shape.named? member.1 = some field ∧ given.node? field.name = none ∧
        field.check member.2 = .ok () ∧ result = ⟨given.values ++ [(field.name, member.2)]⟩ := by
  unfold take named?
  cases member.1.reading with
  | error fault => simp [bind, Except.bind]
  | ok name =>
    simp only [Outcome.bind_ok, Except.ok.injEq, exists_eq_left']
    cases shape.field? name with
    | none => simp [closed, bind, Except.bind, throw, throwThe, MonadExceptOf.throw]
    | some field =>
      simp only [Option.some.injEq, exists_eq_left']
      cases given.node? field.name with
      | some node => simp [bind, Except.bind, throw, throwThe, MonadExceptOf.throw]
      | none =>
        cases field.check member.2 <;> simp [bind, Except.bind, pure, Except.pure, eq_comm]

theorem labelled_cons (shape : Shape) (member : Part String × Node)
    (members : List (Part String × Node)) :
    shape.labelled (member :: members) =
      ((shape.named? member.1).map fun field => (field.name, member.2)).toList ++
        shape.labelled members := by
  unfold labelled
  rw [List.filterMap_cons]
  cases shape.named? member.1 <;> rfl

private theorem nodup_concat_iff {name : String} {node : Node} :
    ((given.values ++ [(name, node)]).map Prod.fst).Nodup ↔
      (given.values.map Prod.fst).Nodup ∧ given.node? name = none := by
  have absent : given.node? name = none ↔ name ∉ given.values.map Prod.fst := by
    simp only [Given.node?, Option.map_eq_none_iff, List.find?_eq_none, decide_eq_true_eq,
      List.mem_map, not_exists, not_and]
  rw [List.map_append, List.map_singleton, List.nodup_append_comm, List.singleton_append,
    List.nodup_cons, absent, and_comm]

/-- A closed record takes members that it accepts, in any order, as long as no field is given
twice. -/
private theorem foldlM_take_ok (closed : shape.closed = true)
    (fresh : (given.values.map Prod.fst).Nodup) :
    members.foldlM shape.take given = .ok result ↔
      (∀ member ∈ members, shape.Accepts member) ∧
        ((given.values ++ shape.labelled members).map Prod.fst).Nodup ∧
        result.values = given.values ++ shape.labelled members := by
  induction members generalizing given with
  | nil =>
    cases given
    cases result
    simp [labelled, fresh, eq_comm]
  | cons member members inductionHypothesis =>
    rw [Outcome.foldlM_cons_ok, List.forall_mem_cons, labelled_cons]
    constructor
    · rintro ⟨middle, taken, rest⟩
      obtain ⟨field, named, absent, checked, rfl⟩ := (take_closed_ok closed).1 taken
      have longer : ((given.values ++ [(field.name, member.2)]).map Prod.fst).Nodup :=
        nodup_concat_iff.2 ⟨fresh, absent⟩
      obtain ⟨accepted, apart, values⟩ := (inductionHypothesis longer).1 rest
      simp only [named, Option.map_some, Option.toList_some]
      rw [← List.append_assoc]
      exact ⟨⟨⟨field, named, checked⟩, accepted⟩, apart, values⟩
    · rintro ⟨⟨⟨field, named, checked⟩, accepted⟩, apart, values⟩
      simp only [named, Option.map_some, Option.toList_some] at apart values
      rw [← List.append_assoc] at apart values
      have longer : ((given.values ++ [(field.name, member.2)]).map Prod.fst).Nodup := by
        rw [List.map_append] at apart
        exact apart.of_append_left
      have absent := (nodup_concat_iff.1 longer).2
      exact ⟨_, (take_closed_ok closed).2 ⟨field, named, absent, checked, rfl⟩,
        (inductionHypothesis longer).2 ⟨accepted, apart, values⟩⟩

/-- **A closed shape accepts a record by its members alone.** Each of them names a field and holds a
value of it, and no field is given twice. -/
theorem read_record_ok (closed : shape.closed = true) {ending : Except Fault Unit} :
    shape.read (.record members ending) = .ok given ↔
      (∀ member ∈ members, shape.Accepts member) ∧
        ((shape.labelled members).map Prod.fst).Nodup ∧ ending = .ok () ∧
        given = ⟨shape.labelled members⟩ := by
  have folded (result : Given) : members.foldlM shape.take {} = .ok result ↔ _ :=
    foldlM_take_ok closed List.nodup_nil
  simp only [read, Outcome.bind_ok, folded, List.nil_append, Outcome.pure_ok]
  constructor
  · rintro ⟨given, ⟨accepted, apart, values⟩, ⟨⟩, ended, rfl⟩
    cases given
    exact ⟨accepted, apart, ended, congrArg Given.mk values⟩
  · rintro ⟨accepted, apart, ended, rfl⟩
    exact ⟨_, ⟨accepted, apart, rfl⟩, (), ended, rfl⟩

/-- Certain names are those of one field. -/
def GoesBy (shape : Shape) (label : String) (names : List String) : Prop :=
  ∀ key : Part String, (∃ field, shape.named? key = some field ∧ field.name = label) ↔
    ∃ name ∈ names, key.reading = .ok name

/-- What stands under the name of a field is what the members have under its names. -/
theorem labelled_under {label : String} {names : List String} (goes : shape.GoesBy label names)
    (members : List (Part String × Node)) :
    ((shape.labelled members).filter (·.1 = label)).map Prod.snd = valuesUnder names members := by
  induction members with
  | nil => rfl
  | cons member members inductionHypothesis =>
    rw [labelled_cons, List.filter_append, List.map_append, inductionHypothesis]
    unfold valuesUnder
    rw [List.filter_cons]
    by_cases asked : ∃ name ∈ names, member.1.reading = .ok name
    · obtain ⟨field, named, label⟩ := (goes member.1).2 asked
      have taken : (names.any fun name => member.1.reading = .ok name) = true := by
        simpa using asked
      simp [named, label, taken]
    · have skipped : (names.any fun name => member.1.reading = .ok name) = false := by
        simpa using asked
      have apart : ∀ field, shape.named? member.1 = some field → field.name ≠ label :=
        fun field named label => asked ((goes member.1).1 ⟨field, named, label⟩)
      cases named : shape.named? member.1 with
      | none => simp [skipped]
      | some field => simp [skipped, apart field named]

variable {label : String} {names : List String}

/-- No field is given twice exactly where no more than one member goes by each. -/
theorem count_labels (goes : shape.GoesBy label names) (members : List (Part String × Node)) :
    ((shape.labelled members).map Prod.fst).count label = (valuesUnder names members).length := by
  rw [← labelled_under goes, List.length_map, List.count_eq_countP, List.countP_map,
    List.countP_eq_length_filter]
  rfl

/-- A field whose values are at most one is read as its setting. -/
theorem getD_ok_iff_holds {α : Type} {reader : Reader α} {usual value : α}
    (goes : shape.GoesBy label names) (once : (valuesUnder names members).length ≤ 1) :
    Given.getD ⟨shape.labelled members⟩ label reader usual = .ok value ↔
      Holds reader usual (valuesUnder names members) value := by
  have found : Given.node? ⟨shape.labelled members⟩ label = (valuesUnder names members).head? := by
    rw [← labelled_under goes, List.head?_map, List.head?_filter]
    rfl
  rw [Given.getD, found]
  generalize valuesUnder names members = nodes at once
  match nodes, once with
  | [], _ =>
    simp only [List.head?_nil, Except.ok.injEq]
    exact ⟨fun same => same ▸ .absent, fun holds => by cases holds; rfl⟩
  | [node], _ =>
    simp only [List.head?_cons]
    exact ⟨.given, fun holds => by cases holds; assumption⟩

end Shape

end Document

/-! ## Hedge settings -/

namespace HedgeSettings

open Document

/-- The two names of the ratio. -/
def ratioNames : List String := ["target_vol_reduction_ratio", "VolTargetReduction"]

def budgetNames : List String := ["margin_budget"]

/-- The members spell these settings. Every one of them goes by a known name, the ratio is given at
most once under either of its names, and so is the budget, which may be null. What is not given is
as usual. -/
structure Written (members : List (Document.Part String × Node)) (settings : HedgeSettings) :
    Prop where
  known : ∀ member ∈ members, ∃ name ∈ ratioNames ++ budgetNames, member.1.reading = .ok name
  ratio : Holds readFigure 1 (valuesUnder ratioNames members) settings.ratio
  budget : Holds (readOption readFigure) none (valuesUnder budgetNames members) settings.budget

/-- The ratio lies between zero and one, and the budget, if there is one, is not below zero. -/
structure WithinRanges (settings : HedgeSettings) : Prop where
  ratio_nonneg : 0 ≤ settings.ratio.value
  ratio_le_one : settings.ratio.value ≤ 1
  budget_nonneg : ∀ budget ∈ settings.budget, 0 ≤ budget.value

theorem check_ok {settings : HedgeSettings} : settings.check = .ok () ↔ settings.WithinRanges := by
  unfold check
  rw [require_bind_ok, Bool.and_eq_true, decide_eq_true_eq, decide_eq_true_eq]
  constructor
  · rintro ⟨⟨nonneg, le_one⟩, rest⟩
    refine ⟨nonneg, le_one, ?_⟩
    intro budget isGiven
    rw [Option.mem_def.1 isGiven] at rest
    exact of_decide_eq_true (require_ok.1 rest)
  · rintro ⟨nonneg, le_one, budgets⟩
    refine ⟨⟨nonneg, le_one⟩, ?_⟩
    cases given : settings.budget with
    | none => rfl
    | some budget => exact require_ok.2 (decide_eq_true (budgets budget given))

/-! ### Names -/

private def ratioField : Field := .of "target_vol_reduction_ratio" readFigure ["VolTargetReduction"]

private def budgetField : Field := .of "margin_budget" (readOption readFigure)

/-- The names that are known, and their fields. -/
private theorem field?_shape (name : String) :
    shape.field? name =
      if name ∈ ratioNames then some ratioField
      else if name ∈ budgetNames then some budgetField else none := by
  by_cases ratio : name ∈ ratioNames
  · rw [if_pos ratio]
    simp only [ratioNames, List.mem_cons, List.not_mem_nil, or_false] at ratio
    rcases ratio with rfl | rfl <;> rfl
  · rw [if_neg ratio]
    by_cases budget : name ∈ budgetNames
    · rw [if_pos budget]
      obtain rfl := List.mem_singleton.1 budget
      rfl
    · rw [if_neg budget]
      simp only [ratioNames, budgetNames, List.mem_cons, List.not_mem_nil, or_false, not_or]
        at ratio budget
      simp [Shape.field?, shape, Field.of, ratio, budget, eq_comm]

private theorem named?_eq_some {key : Document.Part String} {field : Field} :
    shape.named? key = some field ↔
      field = ratioField ∧ (∃ name ∈ ratioNames, key.reading = .ok name) ∨
        field = budgetField ∧ ∃ name ∈ budgetNames, key.reading = .ok name := by
  unfold Shape.named?
  cases key.reading with
  | error fault => simp
  | ok name =>
    have apart : name ∈ budgetNames → name ∉ ratioNames := by
      intro budget
      obtain rfl := List.mem_singleton.1 budget
      decide
    simp only [field?_shape, Except.ok.injEq, exists_eq_right']
    by_cases ratio : name ∈ ratioNames
    · have other : name ∉ budgetNames := fun budget => apart budget ratio
      simp [ratio, other, eq_comm]
    · by_cases budget : name ∈ budgetNames <;> simp [ratio, budget, eq_comm]

private theorem goesBy_ratio : shape.GoesBy "target_vol_reduction_ratio" ratioNames := by
  intro key
  simp only [named?_eq_some]
  constructor
  · rintro ⟨field, ⟨-, asked⟩ | ⟨rfl, -⟩, label⟩
    · exact asked
    · exact absurd label (by decide)
  · intro asked
    exact ⟨ratioField, .inl ⟨rfl, asked⟩, rfl⟩

private theorem goesBy_budget : shape.GoesBy "margin_budget" budgetNames := by
  intro key
  simp only [named?_eq_some]
  constructor
  · rintro ⟨field, ⟨rfl, -⟩ | ⟨-, asked⟩, label⟩
    · exact absurd label (by decide)
    · exact asked
  · intro asked
    exact ⟨budgetField, .inr ⟨rfl, asked⟩, rfl⟩

private theorem accepts_iff {member : Document.Part String × Node} :
    shape.Accepts member ↔
      (∃ name ∈ ratioNames, member.1.reading = .ok name) ∧
          (∃ value, readFigure member.2 = .ok value) ∨
        (∃ name ∈ budgetNames, member.1.reading = .ok name) ∧
          ∃ value, readOption readFigure member.2 = .ok value := by
  simp only [Shape.Accepts, named?_eq_some, or_and_right, exists_or, and_assoc, exists_eq_left,
    ratioField, budgetField, Field.of, Outcome.map_ok, and_true]

/-- Under no name but those of its two fields anything is labelled. -/
private theorem count_eq_zero {members : List (Document.Part String × Node)} {label : String}
    (ratio : label ≠ "target_vol_reduction_ratio") (budget : label ≠ "margin_budget") :
    ((shape.labelled members).map Prod.fst).count label = 0 := by
  apply List.count_eq_zero_of_not_mem
  simp only [Shape.labelled, List.mem_map, List.mem_filterMap, Option.map_eq_some_iff,
    named?_eq_some]
  rintro ⟨_, ⟨member, -, field, ⟨rfl, -⟩ | ⟨rfl, -⟩, rfl⟩, rfl⟩
  · exact ratio rfl
  · exact budget rfl

/-- A record is read as the settings that its members spell. -/
theorem read_record_ok {members : List (Document.Part String × Node)} {ending : Except Fault Unit}
    {settings : HedgeSettings} :
    read (.record members ending) = .ok settings ↔ Written members settings ∧ ending = .ok () := by
  have closed : shape.closed = true := rfl
  simp only [read, Outcome.bind_ok, Shape.read_record_ok closed, Outcome.pure_ok]
  constructor
  · rintro ⟨_, ⟨accepted, apart, ended, rfl⟩, ratio, ratioRead, budget, budgetRead, rfl⟩
    have once := List.nodup_iff_count_le_one.1 apart
    have ratioOnce : (valuesUnder ratioNames members).length ≤ 1 :=
      Shape.count_labels goesBy_ratio members ▸ once _
    have budgetOnce : (valuesUnder budgetNames members).length ≤ 1 :=
      Shape.count_labels goesBy_budget members ▸ once _
    refine ⟨⟨?_, (Shape.getD_ok_iff_holds goesBy_ratio ratioOnce).1 ratioRead,
      (Shape.getD_ok_iff_holds goesBy_budget budgetOnce).1 budgetRead⟩, ended⟩
    intro member inRecord
    simp only [List.mem_append]
    rcases accepts_iff.1 (accepted member inRecord) with ⟨⟨name, named, reading⟩, -⟩ |
      ⟨⟨name, named, reading⟩, -⟩
    · exact ⟨name, .inl named, reading⟩
    · exact ⟨name, .inr named, reading⟩
  · rintro ⟨⟨known, ratio, budget⟩, ended⟩
    have accepted : ∀ member ∈ members, shape.Accepts member := by
      intro member inRecord
      obtain ⟨name, named, reading⟩ := known member inRecord
      rw [accepts_iff]
      rcases List.mem_append.1 named with named | named
      · have read := ratio.reads (mem_valuesUnder inRecord named reading)
        exact .inl ⟨⟨name, named, reading⟩, _, read⟩
      · have read := budget.reads (mem_valuesUnder inRecord named reading)
        exact .inr ⟨⟨name, named, reading⟩, _, read⟩
    have apart : ((shape.labelled members).map Prod.fst).Nodup := by
      rw [List.nodup_iff_count_le_one]
      intro label
      by_cases isRatio : label = "target_vol_reduction_ratio"
      · rw [isRatio, Shape.count_labels goesBy_ratio]
        exact ratio.length_le_one
      · by_cases isBudget : label = "margin_budget"
        · rw [isBudget, Shape.count_labels goesBy_budget]
          exact budget.length_le_one
        · rw [count_eq_zero isRatio isBudget]
          exact Nat.zero_le 1
    exact ⟨_, ⟨accepted, apart, ended, rfl⟩, _,
      (Shape.getD_ok_iff_holds goesBy_ratio ratio.length_le_one).2 ratio, _,
      (Shape.getD_ok_iff_holds goesBy_budget budget.length_le_one).2 budget, rfl⟩

theorem Written.perm {members members' : List (Document.Part String × Node)}
    {settings : HedgeSettings} (rearranged : members.Perm members') (written : Written members settings) :
    Written members' settings where
  known member inRecord := written.known member (rearranged.mem_iff.2 inRecord)
  ratio := written.ratio.perm (valuesUnder_perm _ rearranged)
  budget := written.budget.perm (valuesUnder_perm _ rearranged)

/-! ### Texts -/

section Texts

variable {text : String} {members : List (Document.Part String × Node)}
  {ending : Except Fault Unit}

private theorem read_ok (wellFormed : WellFormed text)
    (record : (Source.ofText text).root = .record members ending) {settings : HedgeSettings} :
    Document.read read text = .ok settings ↔ Written members settings := by
  obtain ⟨ended, closed⟩ := wellFormed.endings record
  rw [Document.read, Source.read, record, closed]
  simp only [Outcome.bind_ok, read_record_ok, Outcome.pure_ok]
  constructor
  · rintro ⟨_, ⟨written, -⟩, -, -, rfl⟩
    exact written
  · intro written
    exact ⟨settings, ⟨written, ended⟩, (), trivial, rfl⟩

private theorem ofText_ok (wellFormed : WellFormed text)
    (record : (Source.ofText text).root = .record members ending) {settings : HedgeSettings} :
    ofText text = .ok settings ↔ Written members settings ∧ settings.WithinRanges := by
  rw [ofText, readChecked_ok, read_ok wellFormed record, check_ok]

private theorem ofText_outOfRange (wellFormed : WellFormed text)
    (record : (Source.ofText text).root = .record members ending) {error : OutOfRange} :
    ofText text = .error (.outOfRange error) ↔
      ∃ settings, Written members settings ∧ ¬settings.WithinRanges ∧
        settings.check = .error error := by
  simp only [ofText, readChecked_outOfRange, read_ok wellFormed record]
  apply exists_congr
  intro settings
  apply and_congr_right
  intro _
  refine ⟨fun refused => ⟨?_, refused⟩, And.right⟩
  rw [← check_ok, refused]
  nofun

/-- **Hedge settings are read from exactly the records of their grammar.** A well-formed text that
holds a record gives those settings that its members spell, as long as they are within their ranges.
Settings are out of range only where all of the members spell some. Rearranging the members changes
nothing, except perhaps the fault for which the text is refused. -/
theorem ofText_ok_iff_written (wellFormed : WellFormed text)
    (record : (Source.ofText text).root = .record members ending) :
    (∀ settings, ofText text = .ok settings ↔ Written members settings ∧ settings.WithinRanges) ∧
    (∀ error, ofText text = .error (.outOfRange error) ↔
      ∃ settings, Written members settings ∧ ¬settings.WithinRanges ∧
        settings.check = .error error) ∧
    ∀ text' members' ending', WellFormed text' →
      (Source.ofText text').root = .record members' ending' → members.Perm members' →
        ofText text = ofText text' ∨
          ∃ fault fault', ofText text = .error (.document fault) ∧
            ofText text' = .error (.document fault') := by
  refine ⟨fun _ => ofText_ok wellFormed record, fun _ => ofText_outOfRange wellFormed record, ?_⟩
  intro text' members' ending' wellFormed' record' rearranged
  have written (settings : HedgeSettings) : Written members settings ↔ Written members' settings :=
    ⟨.perm rearranged, .perm rearranged.symm⟩
  have accepted (settings : HedgeSettings) :
      ofText text = .ok settings ↔ ofText text' = .ok settings := by
    rw [ofText_ok wellFormed record, ofText_ok wellFormed' record', written]
  have refused (error : OutOfRange) : ofText text = .error (.outOfRange error) ↔
      ofText text' = .error (.outOfRange error) := by
    simp only [ofText_outOfRange wellFormed record, ofText_outOfRange wellFormed' record', written]
  cases outcome : ofText text with
  | ok settings => exact .inl ((accepted settings).1 outcome).symm
  | error error =>
    cases error with
    | outOfRange error => exact .inl ((refused error).1 outcome).symm
    | document fault =>
      cases outcome' : ofText text' with
      | ok settings => exact absurd ((accepted settings).2 outcome') (by rw [outcome]; nofun)
      | error error =>
        cases error with
        | outOfRange error => exact absurd ((refused error).2 outcome') (by rw [outcome]; nofun)
        | document fault' => exact .inr ⟨fault, fault', rfl, rfl⟩

end Texts

/-! ### Two members in either order -/

/-- A quoted text without a fault. -/
private def plain (content : String) : Document.Part String := ⟨.ok content, .ok ()⟩

private def noBudget : Document.Part String × Node := (plain "margin_budget", .null)

private def sixTenths : Document.Part String × Node :=
  (plain "VolTargetReduction", .text (plain "0.6"))

private instance : DecidableEq (Document.Part String) := fun left right =>
  decidable_of_iff (left.reading = right.reading ∧ left.skipping = right.skipping) (by
    cases left
    cases right
    simp)

private def budgetFirst : String :=
  "\x7b\"margin_budget\":null,\"VolTargetReduction\":\"0.6\"\x7d"

private def ratioFirst : String :=
  "\x7b\"VolTargetReduction\": \"0.6\", \"margin_budget\": null\x7d"

/-- Both members hold nothing, or the same text, under the same key. -/
private def sameLeaf : Document.Part String × Node → Document.Part String × Node → Bool
  | (key, .null), (key', .null) => key = key'
  | (key, .text content), (key', .text content') => key = key' ∧ content = content'
  | _, _ => false

private theorem eq_of_sameLeaf {left right : Document.Part String × Node}
    (same : sameLeaf left right = true) : left = right := by
  unfold sameLeaf at same
  split at same
  next key key' =>
    rw [of_decide_eq_true same]
  next key content key' content' =>
    obtain ⟨keys, contents⟩ := of_decide_eq_true same
    rw [keys, contents]
  next => cases same

/-- A text holds two members if what is read from it is the same. -/
private theorem root_eq_of_sameLeaf {text : String} {first second : Document.Part String × Node}
    (same : (match (Source.ofText text).root with
      | .record [found, found'] (.ok ()) => sameLeaf found first && sameLeaf found' second
      | _ => false) = true) :
    (Source.ofText text).root = .record [first, second] (.ok ()) := by
  split at same
  next found found' root =>
    obtain ⟨sameFirst, sameSecond⟩ := Bool.and_eq_true_iff.1 same
    rw [root, eq_of_sameLeaf sameFirst, eq_of_sameLeaf sameSecond]
  next => cases same

/-- In either order the members spell six tenths and no budget. -/
theorem ofText_ok_iff_written_sixTenths :
    Written [noBudget, sixTenths] ⟨⟨false, 6, 1, by decide, by decide⟩, none⟩ ∧
      ofText budgetFirst = .ok ⟨⟨false, 6, 1, by decide, by decide⟩, none⟩ ∧
      ofText ratioFirst = ofText budgetFirst := by
  have wellFormed : WellFormed budgetFirst := by
    unfold WellFormed
    decide +kernel
  have wellFormed' : WellFormed ratioFirst := by
    unfold WellFormed
    decide +kernel
  have accepted : ofText budgetFirst = .ok ⟨⟨false, 6, 1, by decide, by decide⟩, none⟩ := by
    decide +kernel
  have root : (Source.ofText budgetFirst).root = .record [noBudget, sixTenths] (.ok ()) :=
    root_eq_of_sameLeaf (by decide +kernel)
  have root' : (Source.ofText ratioFirst).root = .record [sixTenths, noBudget] (.ok ()) :=
    root_eq_of_sameLeaf (by decide +kernel)
  obtain ⟨exactly, -, inOrder⟩ := ofText_ok_iff_written wellFormed root
  refine ⟨((exactly _).1 accepted).1, accepted, ?_⟩
  rcases inOrder ratioFirst _ _ wellFormed' root' (.swap _ _ _) with
    same | ⟨fault, -, failed, -⟩
  · exact same.symm
  · rw [accepted] at failed
    cases failed

end HedgeSettings

end Collateral

import Collateral.Failure
import Mathlib.Data.List.Forall2
import Mathlib.Data.List.Perm.Basic

/-!
Contract: reading a successful calculation back step by step.

A calculation that may fail is a chain of steps, and its success is the success of every step. The
laws below take one step off the chain at a time, so that no proof unfolds the monad.

Owns: success of a bind, of a lifted step and of loops, and the causes for which they fail.
-/

namespace Collateral.Outcome

universe u v w

/-! ## Any errors -/

section Chains

variable {ε ε' : Type u} {α β : Type v}

/-- A chain succeeds when its first step does, and the rest does from there. -/
theorem bind_ok {step : Except ε α} {rest : α → Except ε β} {result : β} :
    step >>= rest = .ok result ↔ ∃ value, step = .ok value ∧ rest value = .ok result := by
  cases step with
  | error error => simp [bind, Except.bind]
  | ok value => simp [bind, Except.bind]

theorem map_ok {step : Except ε α} {change : α → β} {result : β} :
    change <$> step = .ok result ↔ ∃ value, step = .ok value ∧ change value = result := by
  cases step with
  | error error => simp [Functor.map, Except.map]
  | ok value => simp [Functor.map, Except.map]

@[simp] theorem pure_ok {value result : α} :
    (pure value : Except ε α) = .ok result ↔ value = result := by
  simp [pure, Except.pure]

/-- A chain fails when its first step does, or the rest does from there. -/
theorem bind_error {step : Except ε α} {rest : α → Except ε β} {error : ε} :
    step >>= rest = .error error ↔
      step = .error error ∨ ∃ value, step = .ok value ∧ rest value = .error error := by
  cases step with
  | error early => simp [bind, Except.bind]
  | ok value => simp [bind, Except.bind]

/-- Renaming errors does not touch success. -/
@[simp] theorem mapError_ok {rename : ε → ε'} {step : Except ε α} {result : α} :
    step.mapError rename = .ok result ↔ step = .ok result := by
  cases step <;> simp [Except.mapError]

theorem mapError_error {rename : ε → ε'} {step : Except ε α} {renamed : ε'} :
    step.mapError rename = .error renamed ↔
      ∃ error, step = .error error ∧ rename error = renamed := by
  cases step <;> simp [Except.mapError]

theorem mapError_bind {rename : ε → ε'} {step : Except ε α} {rest : α → Except ε β} :
    (step >>= rest).mapError rename =
      step.mapError rename >>= fun value => (rest value).mapError rename := by
  cases step <;> rfl

/-- A property of the result, if there is one, is decided by running the calculation. -/
instance decidableForallOk (step : Except ε α) (holds : α → Prop) [DecidablePred holds] :
    Decidable (∀ value, step = .ok value → holds value) :=
  match step with
  | .error _ => isTrue nofun
  | .ok value => decidable_of_iff (holds value) ⟨fun held _ same => Except.ok.inj same ▸ held,
      fun always => always value rfl⟩

end Chains

/-! ## Loops -/

section Loops

variable {ε : Type u} {α : Type w} {β : Type v}

/-- A loop succeeds when its first round does, and the remaining rounds do from there. -/
theorem foldlM_cons_ok {step : β → α → Except ε β} {start result : β} {head : α}
    {rest : List α} :
    (head :: rest).foldlM step start = .ok result ↔
      ∃ middle, step start head = .ok middle ∧ rest.foldlM step middle = .ok result := by
  rw [List.foldlM_cons, bind_ok]

/-- A loop succeeds when it does up to its last round, and the last round does from there. -/
theorem foldlM_concat_ok {step : β → α → Except ε β} {start result : β} {front : List α}
    {last : α} :
    (front ++ [last]).foldlM step start = .ok result ↔
      ∃ middle, front.foldlM step start = .ok middle ∧ step middle last = .ok result := by
  rw [List.foldlM_append, bind_ok]
  simp only [List.foldlM_cons, List.foldlM_nil, bind_ok, pure_ok, exists_eq_right]

/-- In a loop that succeeds, every round does. -/
theorem exists_of_mem_foldlM {step : β → α → Except ε β} {start result : β} {entries : List α}
    (done : entries.foldlM step start = .ok result) {entry : α} (member : entry ∈ entries) :
    ∃ before after, step before entry = .ok after := by
  induction entries generalizing start with
  | nil => simp at member
  | cons head rest inductionHypothesis =>
    obtain ⟨middle, first, onward⟩ := foldlM_cons_ok.1 done
    rcases List.mem_cons.1 member with rfl | inRest
    · exact ⟨start, middle, first⟩
    · exact inductionHypothesis onward inRest

/-- What every round keeps, a loop keeps. -/
theorem foldlM_keeps {step : β → α → Except ε β} (kept : β → Prop)
    (keeps : ∀ before entry after, kept before → step before entry = .ok after → kept after)
    {start result : β} {entries : List α} (first : kept start)
    (done : entries.foldlM step start = .ok result) : kept result := by
  induction entries generalizing start with
  | nil => exact pure_ok.1 done ▸ first
  | cons head rest inductionHypothesis =>
    obtain ⟨middle, stepped, onward⟩ := foldlM_cons_ok.1 done
    exact inductionHypothesis (keeps start head middle first stepped) onward

/-- A loop that collects results succeeds when every round does. -/
theorem mapM_ok {step : α → Except ε β} {entries : List α} {results : List β} :
    entries.mapM step = .ok results ↔
      List.Forall₂ (fun entry result => step entry = .ok result) entries results := by
  induction entries generalizing results with
  | nil => rw [List.mapM_nil, pure_ok, List.forall₂_nil_left_iff, eq_comm]
  | cons head rest inductionHypothesis =>
    rw [List.mapM_cons, bind_ok]
    constructor
    · rintro ⟨first, firstDone, restDone⟩
      obtain ⟨others, othersDone, collected⟩ := bind_ok.1 restDone
      rw [← pure_ok.1 collected]
      exact .cons firstDone (inductionHypothesis.1 othersDone)
    · rintro (_ | ⟨firstDone, othersDone⟩)
      exact ⟨_, firstDone, bind_ok.2 ⟨_, inductionHypothesis.2 othersDone, pure_ok.2 rfl⟩⟩

/-- A loop that collects results sees of its rounds only those of its entries. -/
theorem mapM_congr {step step' : α → Except ε β} {entries : List α}
    (same : ∀ entry ∈ entries, step entry = step' entry) :
    entries.mapM step = entries.mapM step' := by
  induction entries with
  | nil => rfl
  | cons head rest inductionHypothesis =>
    rw [List.mapM_cons, List.mapM_cons, same head List.mem_cons_self,
      inductionHypothesis fun entry member => same entry (List.mem_cons_of_mem head member)]

/-- A loop over gathered lists is a loop over the lists, in order. -/
theorem foldlM_flatMap {γ : Type w} (items : γ → List α)
    (step : β → α → Except ε β) (entries : List γ) (start : β) :
    (entries.flatMap items).foldlM step start =
      entries.foldlM (fun state entry => (items entry).foldlM step state) start := by
  induction entries generalizing start with
  | nil => rfl
  | cons head rest inductionHypothesis =>
    rw [List.flatMap_cons, List.foldlM_append, List.foldlM_cons]
    simp only [inductionHypothesis]

/-- A loop that collects results succeeds when a round does for each of its entries. -/
theorem exists_mapM_ok {step : α → Except ε β} {entries : List α}
    (each : ∀ entry ∈ entries, ∃ result, step entry = .ok result) :
    ∃ results, entries.mapM step = .ok results := by
  induction entries with
  | nil => exact ⟨[], rfl⟩
  | cons head rest inductionHypothesis =>
    obtain ⟨first, firstDone⟩ := each head List.mem_cons_self
    obtain ⟨others, othersDone⟩ := inductionHypothesis
      fun entry member => each entry (List.mem_cons_of_mem head member)
    exact ⟨first :: others, mapM_ok.2 (.cons firstDone (mapM_ok.1 othersDone))⟩

/-- A loop that collects results succeeds if it does on more entries. -/
theorem mapM_of_subset {step : α → Except ε β} {entries entries' : List α} {results : List β}
    (subset : entries' ⊆ entries) (done : entries.mapM step = .ok results) :
    ∃ results', entries'.mapM step = .ok results' := by
  have rounds := mapM_ok.1 done
  apply exists_mapM_ok
  intro entry member
  obtain ⟨index, inRange, rfl⟩ := List.mem_iff_getElem.1 (subset member)
  exact ⟨_, (List.forall₂_iff_get.1 rounds).2 index inRange (rounds.length_eq ▸ inRange)⟩

theorem exists_of_mem_mapM {step : α → Except ε β} {entries : List α} {results : List β}
    (done : entries.mapM step = .ok results) {result : β} (member : result ∈ results) :
    ∃ entry ∈ entries, step entry = .ok result := by
  have rounds := mapM_ok.1 done
  clear done
  induction rounds with
  | nil => simp at member
  | cons first _ inductionHypothesis =>
    rcases List.mem_cons.1 member with rfl | inRest
    · exact ⟨_, List.mem_cons_self, first⟩
    · obtain ⟨entry, entryMember, found⟩ := inductionHypothesis inRest
      exact ⟨entry, List.mem_cons_of_mem _ entryMember, found⟩

/-- Two loops over the same entries give results that relate one by one, where those of every round
do. -/
theorem forall₂_of_mapM {γ : Type v} {step : α → Except ε β} {step' : α → Except ε γ}
    {related : β → γ → Prop}
    (relates : ∀ entry result result', step entry = .ok result → step' entry = .ok result' →
      related result result')
    {entries : List α} {results : List β} {results' : List γ}
    (done : entries.mapM step = .ok results) (done' : entries.mapM step' = .ok results') :
    List.Forall₂ related results results' := by
  have rounds := mapM_ok.1 done
  have rounds' := mapM_ok.1 done'
  clear done done'
  induction rounds generalizing results' with
  | nil =>
    cases rounds'
    exact .nil
  | cons first _ inductionHypothesis =>
    obtain _ | ⟨first', rest'⟩ := rounds'
    exact .cons (relates _ _ _ first first') (inductionHypothesis rest')

/-- What every round keeps, the loop keeps in order. -/
theorem map_of_mapM {γ : Type v} {step : α → Except ε β} {key : α → γ} {view : β → γ}
    (keeps : ∀ entry result, step entry = .ok result → view result = key entry)
    {entries : List α} {results : List β} (done : entries.mapM step = .ok results) :
    results.map view = entries.map key := by
  have rounds := mapM_ok.1 done
  clear done
  induction rounds with
  | nil => rfl
  | cons first _ inductionHypothesis =>
    rw [List.map_cons, List.map_cons, keeps _ _ first, inductionHypothesis]

/-- A loop that collects results collects them from a rearranged list as well. -/
theorem mapM_perm {step : α → Except ε β} {entries entries' : List α} {results : List β}
    (permutation : entries.Perm entries') (done : entries.mapM step = .ok results) :
    ∃ results', entries'.mapM step = .ok results' ∧ results.Perm results' := by
  obtain ⟨results', rounds, rearranged⟩ :=
    List.perm_comp_forall₂ permutation.symm (mapM_ok.1 done)
  exact ⟨results', mapM_ok.2 rounds, rearranged.symm⟩

end Loops

/-! ## Causes of failure -/

/-- A calculation that fails for no cause but certain ones. -/
def FailsBy {ε : Type u} {α : Type v} (cause : ε → Prop) (step : Except ε α) : Prop :=
  ∀ error, step = .error error → cause error

namespace FailsBy

variable {ε ε' : Type u} {α β : Type v} {cause : ε → Prop}

theorem ok (value : α) : FailsBy cause (.ok value : Except ε α) := by
  intro error failed
  cases failed

theorem of_ok {step : Except ε α} {value : α} (done : step = .ok value) : FailsBy cause step :=
  done ▸ ok value

theorem bind {step : Except ε α} {rest : α → Except ε β} (first : FailsBy cause step)
    (onward : ∀ value, step = .ok value → FailsBy cause (rest value)) :
    FailsBy cause (step >>= rest) := by
  intro error failed
  cases step with
  | error early =>
    obtain rfl : early = error := Except.error.inj failed
    exact first early rfl
  | ok value => exact onward value rfl error failed

theorem map {step : Except ε α} (first : FailsBy cause step) (change : α → β) :
    FailsBy cause (change <$> step) := by
  intro error failed
  cases step with
  | error early =>
    obtain rfl : early = error := Except.error.inj failed
    exact first early rfl
  | ok value => cases failed

theorem weaken {weaker : ε → Prop} {step : Except ε α} (fails : FailsBy cause step)
    (implied : ∀ error, cause error → weaker error) : FailsBy weaker step :=
  fun error failed => implied error (fails error failed)

/-- Renaming errors renames their causes. -/
theorem mapError {rename : ε → ε'} {renamed : ε' → Prop} {step : Except ε α}
    (fails : FailsBy cause step) (kept : ∀ error, cause error → renamed (rename error)) :
    FailsBy renamed (step.mapError rename) := by
  intro error failed
  cases step with
  | error early =>
    obtain rfl : rename early = error := Except.error.inj failed
    exact kept early (fails early rfl)
  | ok value => cases failed

theorem foldlM {ι : Type w} {step : β → ι → Except ε β} {entries : List ι}
    (rounds : ∀ entry ∈ entries, ∀ value, FailsBy cause (step value entry)) (start : β) :
    FailsBy cause (entries.foldlM step start) := by
  induction entries generalizing start with
  | nil => exact ok start
  | cons entry entries inductionHypothesis =>
    rw [List.foldlM_cons]
    exact (rounds entry List.mem_cons_self start).bind fun next _ =>
      inductionHypothesis (fun other member => rounds other (List.mem_cons_of_mem entry member)) next

theorem mapM {ι : Type w} {step : ι → Except ε β} {entries : List ι}
    (rounds : ∀ entry ∈ entries, FailsBy cause (step entry)) :
    FailsBy cause (entries.mapM step) := by
  induction entries with
  | nil => exact ok []
  | cons entry entries inductionHypothesis =>
    rw [List.mapM_cons]
    have others := inductionHypothesis fun other member =>
      rounds other (List.mem_cons_of_mem entry member)
    exact (rounds entry List.mem_cons_self).bind fun _ _ => others.bind fun _ _ => ok _

end FailsBy

/-! ## Steps with errors of another kind -/

section Lifts

variable {α : Type}

@[simp] theorem liftArithmetic_ok {step : Except Decimal.Error α} {result : α} :
    (liftM step : Except Failure α) = .ok result ↔ step = .ok result :=
  mapError_ok

@[simp] theorem liftConversion_ok {step : Except Spot.ConversionError α} {result : α} :
    (liftM step : Except Failure α) = .ok result ↔ step = .ok result :=
  mapError_ok

@[simp] theorem liftIntoConversion_ok {step : Except Decimal.Error α} {result : α} :
    (liftM step : Except Spot.ConversionError α) = .ok result ↔ step = .ok result :=
  mapError_ok

/-- Arithmetic within a conversion fails as arithmetic. -/
theorem liftConversion_lift {step : Except Decimal.Error α} :
    (liftM (liftM step : Except Spot.ConversionError α) : Except Failure α) = liftM step := by
  cases step <;> rfl

/-- A chain of conversions is lifted step by step. -/
theorem liftConversion_bind {β : Type} {step : Except Spot.ConversionError α}
    {rest : α → Except Spot.ConversionError β} :
    (liftM (step >>= rest) : Except Failure β) =
      (liftM step : Except Failure α) >>= fun value => liftM (rest value) :=
  mapError_bind

/-- A loop of conversions is lifted round by round. -/
theorem liftConversion_foldlM {ι : Type} {step : α → ι → Except Spot.ConversionError α}
    (entries : List ι) (start : α) :
    (liftM (entries.foldlM step start) : Except Failure α) =
      entries.foldlM (fun value entry => (liftM (step value entry) : Except Failure α)) start := by
  induction entries generalizing start with
  | nil => rfl
  | cons entry entries inductionHypothesis =>
    simp only [List.foldlM_cons, liftConversion_bind, inductionHypothesis]

/-- Arithmetic does not end a search. -/
@[simp] theorem liftArithmetic_ne_noConvergence {step : Except Decimal.Error α} {iterations : Nat}
    {residual : Decimal} :
    (liftM step : Except Failure α) ≠ .error (.noConvergence iterations residual) := by
  intro failed
  obtain ⟨error, -, renamed⟩ := mapError_error.1 failed
  cases renamed

/-- A conversion does not end a search. -/
@[simp] theorem liftConversion_ne_noConvergence {step : Except Spot.ConversionError α}
    {iterations : Nat} {residual : Decimal} :
    (liftM step : Except Failure α) ≠ .error (.noConvergence iterations residual) := by
  intro failed
  obtain ⟨error, -, renamed⟩ := mapError_error.1 failed
  cases error <;> cases renamed

end Lifts

end Collateral.Outcome

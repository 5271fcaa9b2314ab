import Collateral.Desk.Queries
import Collateral.Proofs.Drift

/-!
Contract: calculations that lose nothing to rounding.

The strict rule refuses every result that it would have to round, and otherwise fits like the rule of
every run. So a calculation that succeeds under the strict rule is the run itself, without a single
rounding: what is proved of it holds of the run, and as an equality.

Owns: calculations that are refined by others, lossless calculations, and the passage from strict to
actual runs for bookings, margins and projections.
-/

namespace Collateral

/-! ## Refinement -/

namespace Outcome

universe u v w

/-- Wherever the first calculation succeeds, the second does, with the same result. -/
def Refines {ε : Type u} {α : Type v} (strict actual : Except ε α) : Prop :=
  ∀ result, strict = .ok result → actual = .ok result

namespace Refines

variable {ε ε' : Type u} {α β : Type v}

theorem refl (step : Except ε α) : Refines step step := fun _ done => done

theorem bind {strict actual : Except ε α} {rest rest' : α → Except ε β}
    (first : Refines strict actual) (onward : ∀ value, Refines (rest value) (rest' value)) :
    Refines (strict >>= rest) (actual >>= rest') := by
  intro result done
  obtain ⟨value, stepped, finished⟩ := bind_ok.1 done
  exact bind_ok.2 ⟨value, first value stepped, onward value result finished⟩

theorem mapError {rename : ε → ε'} {strict actual : Except ε α} (refines : Refines strict actual) :
    Refines (strict.mapError rename) (actual.mapError rename) := by
  intro result done
  exact mapError_ok.2 (refines result (mapError_ok.1 done))

theorem ite {condition : Prop} [Decidable condition] {first first' second second' : Except ε α}
    (refines : Refines first first') (otherwise : Refines second second') :
    Refines (if condition then first else second) (if condition then first' else second') := by
  split
  · exact refines
  · exact otherwise

theorem foldlM {γ : Type w} {step step' : β → γ → Except ε β}
    (each : ∀ state entry, Refines (step state entry) (step' state entry)) (entries : List γ)
    (start : β) : Refines (entries.foldlM step start) (entries.foldlM step' start) := by
  induction entries generalizing start with
  | nil => exact refl _
  | cons entry entries inductionHypothesis =>
    rw [List.foldlM_cons, List.foldlM_cons]
    exact (each start entry).bind inductionHypothesis

theorem mapM {γ : Type w} {step step' : γ → Except ε β}
    (each : ∀ entry, Refines (step entry) (step' entry)) (entries : List γ) :
    Refines (entries.mapM step) (entries.mapM step') := by
  induction entries with
  | nil => exact refl _
  | cons entry entries inductionHypothesis =>
    rw [List.mapM_cons, List.mapM_cons]
    exact (each entry).bind fun _ => inductionHypothesis.bind fun _ => refl _

end Refines

end Outcome

open Outcome (Refines)

/-! ## Stricter rules -/

namespace Rounding

/-- Whatever the first rule fits, the second fits alike. -/
def Stricter (strict actual : Rounding) : Prop :=
  ∀ number result, strict.fit number = some result → actual.fit number = some result

theorem exact_stricter : Rounding.exact.Stricter Rounding.nearest :=
  fun _ _ fit => (Option.filter_eq_some_iff.1 fit).1

/-- A calculation that also succeeds under the rule that refuses to round. -/
def Lossless {ε α : Type} (calculation : Rounding → Except ε α) : Prop :=
  ∃ result, calculation Rounding.exact = .ok result

/-- Whether a calculation is lossless is found out by running it. -/
theorem lossless_of_toBool {ε α : Type} {calculation : Rounding → Except ε α}
    (succeeds : (calculation Rounding.exact).toBool = true) : Lossless calculation := by
  unfold Lossless
  cases answer : calculation Rounding.exact with
  | ok result => exact ⟨result, rfl⟩
  | error failure => rw [answer] at succeeds; contradiction

instance {ε α : Type} (calculation : Rounding → Except ε α) : Decidable (Lossless calculation) :=
  decidable_of_iff ((calculation Rounding.exact).toBool = true)
    ⟨lossless_of_toBool, fun ⟨_, done⟩ => by rw [done]; rfl⟩

/-- A lossless run is a run under the rule that refuses to round. -/
theorem Lossless.exactly {ε α : Type} {calculation : Rounding → Except ε α} {result : α}
    (lossless : Lossless calculation)
    (refines : Refines (calculation Rounding.exact) (calculation Rounding.nearest))
    (ran : calculation Rounding.nearest = .ok result) :
    calculation Rounding.exact = .ok result := by
  obtain ⟨result', done⟩ := lossless
  rwa [← Except.ok.inj ((refines result' done).symm.trans ran)]

end Rounding

section Transfer

variable {strict actual : Rounding} (stricter : strict.Stricter actual)

include stricter

/-! ## Operations and bookings -/

theorem Decimal.fitted_refines (operation : Operation) (number : Rat) :
    Refines (@Decimal.fitted strict operation number) (@Decimal.fitted actual operation number) := by
  intro result done
  exact (@Decimal.fitted_ok actual _ _ _).2
    (stricter number result ((@Decimal.fitted_ok strict _ _ _).1 done))

theorem Quotes.convert_refines (quotes : Quotes) (amount : Decimal) (pair : FxPair) :
    Refines (@Quotes.convert strict quotes amount pair)
      (@Quotes.convert actual quotes amount pair) :=
  (Refines.refl _).bind fun _ => (Decimal.fitted_refines stricter _ _).mapError

namespace Book

theorem add_refines (book : Book) (currency : Currency) (amount : Decimal) :
    Refines (@Book.add strict book currency amount) (@Book.add actual book currency amount) :=
  (Decimal.fitted_refines stricter _ _).bind fun _ => .refl _

theorem addAll_refines (book : Book) (amounts : List (Currency × Decimal)) :
    Refines (@Book.addAll strict book amounts) (@Book.addAll actual book amounts) :=
  .foldlM (fun book entry => book.add_refines stricter entry.1 entry.2) amounts book

theorem addPosition_refines (book : Book) (position : FxPosition) :
    Refines (@Book.addPosition strict book position) (@Book.addPosition actual book position) :=
  (book.add_refines stricter _ _).bind fun based =>
    (Decimal.fitted_refines stricter _ _).bind fun _ => based.add_refines stricter _ _

theorem ofPositions_refines (positions : List FxPosition) :
    Refines (@Book.ofPositions strict positions) (@Book.ofPositions actual positions) :=
  .foldlM (addPosition_refines stricter) positions _

theorem totalIn_refines [order : SummationOrder] (book : Book) (domestic : Currency)
    (spot : Quotes) :
    Refines (@Book.totalIn strict order book domestic spot)
      (@Book.totalIn actual order book domestic spot) := by
  refine .foldlM (fun total entry => ?_) _ _
  exact (spot.convert_refines stricter _ _).bind fun _ =>
    (Decimal.fitted_refines stricter _ _).mapError

theorem ofHoldings_refines (positions : List FxPosition) (cash : Table Currency Decimal) :
    Refines (@Book.ofHoldings strict positions cash) (@Book.ofHoldings actual positions cash) :=
  (ofPositions_refines stricter positions).bind fun book => book.addAll_refines stricter _

end Book

/-! ## Margins -/

namespace Netting

theorem draw_refines (source debt : Bucket) :
    Refines (@draw strict source debt) (@draw actual source debt) :=
  (Decimal.fitted_refines stricter _ _).bind fun _ =>
    (Decimal.fitted_refines stricter _ _).bind fun _ => .refl _

theorem cover_refines (debt : Bucket) (pool : List Bucket) :
    Refines (@cover strict debt pool) (@cover actual debt pool) := by
  induction pool generalizing debt with
  | nil => exact .refl _
  | cons source pool inductionHypothesis =>
    unfold cover
    refine .ite (.refl _) ((draw_refines stricter source debt).bind fun drew => ?_)
    exact .ite ((inductionHypothesis _).bind fun _ => .refl _) (.refl _)

theorem coverAll_refines (debts pool : List Bucket) :
    Refines (@coverAll strict debts pool) (@coverAll actual debts pool) := by
  induction debts generalizing pool with
  | nil => exact .refl _
  | cons debt debts inductionHypothesis =>
    exact (cover_refines stricter debt pool).bind fun first =>
      (inductionHypothesis first.pool).bind fun _ => .refl _

theorem charge_refines (buckets : List Bucket) :
    Refines (@charge strict buckets) (@charge actual buckets) := by
  refine (coverAll_refines stricter _ _).bind fun covered => ?_
  refine .foldlM (fun total draw => ?_) _ _
  exact (Decimal.fitted_refines stricter _ _).bind fun _ => Decimal.fitted_refines stricter _ _

end Netting

namespace Margin

theorem buckets_refines (terms : Terms) (book : Book) :
    Refines (@buckets strict terms book) (@buckets actual terms book) := by
  refine .mapM (fun entry => ?_) _
  exact (terms.spot.convert_refines stricter _ _).mapError.bind fun _ => .refl _

theorem ofBook_refines (terms : Terms) (book : Book) :
    Refines (@Margin.ofBook strict terms book) (@Margin.ofBook actual terms book) :=
  (buckets_refines stricter terms book).bind fun found =>
    (Netting.charge_refines stricter found).mapError.bind fun _ =>
      (Decimal.fitted_refines stricter _ _).mapError

theorem ofHoldings_refines (terms : Terms) (positions : List FxPosition)
    (cash : Table Currency Decimal) :
    Refines ((@Calculator.haircut strict).ofHoldings terms positions cash)
      ((@Calculator.haircut actual).ofHoldings terms positions cash) :=
  (Book.ofHoldings_refines stricter positions cash).mapError.bind fun book =>
    ofBook_refines stricter terms book

end Margin

/-! ## Projections -/

namespace Projection

theorem Hedge.add_refines (terms : Terms) (ratio : Decimal) (held : Hedge) (currency : Currency)
    (amount : Decimal) :
    Refines (@Hedge.add strict terms ratio held currency amount)
      (@Hedge.add actual terms ratio held currency amount) := by
  unfold Hedge.add
  refine .ite ((Decimal.fitted_refines stricter _ _).mapError.bind fun _ => .refl _) ?_
  refine (Refines.refl _).bind fun rate => ?_
  refine (Decimal.fitted_refines stricter _ _).mapError.bind fun worth => ?_
  refine (Decimal.fitted_refines stricter _ _).mapError.bind fun total => ?_
  exact (Decimal.fitted_refines stricter _ _).mapError.bind fun _ => .refl _

theorem hedge_refines (terms : Terms) (walkers : List Walker) :
    Refines (@hedge strict terms walkers) (@hedge actual terms walkers) := by
  refine .foldlM (fun held walker => ?_) _ _
  unfold Hedge.addWalker
  split
  · exact .refl _
  · refine .foldlM (fun held (entry : Currency × Decimal) => ?_) _ _
    exact Hedge.add_refines stricter terms _ held entry.1 entry.2

variable (terms : Terms) (summary : Summary) (additional : Table Currency Decimal)

theorem combinedCash_refines :
    Refines (@combinedCash strict ⟨@Calculator.haircut strict, terms, summary⟩ additional)
      (@combinedCash actual ⟨@Calculator.haircut actual, terms, summary⟩ additional) := by
  refine .foldlM (fun cash entry => ?_) _ _
  exact (Decimal.fitted_refines stricter _ _).bind fun _ => .refl _

theorem marginAfter_refines (positions : List FxPosition) (before : Decimal) :
    Refines
      (@marginAfter strict ⟨@Calculator.haircut strict, terms, summary⟩ positions before additional)
      (@marginAfter actual ⟨@Calculator.haircut actual, terms, summary⟩ positions before
        additional) := by
  unfold marginAfter
  refine .ite (.refl _) ?_
  exact (combinedCash_refines stricter terms summary additional).mapError.bind fun cash =>
    Margin.ofHoldings_refines stricter terms _ cash

theorem snapshot_refines (date : Date) (held : Hedge) :
    Refines (@snapshot strict ⟨@Calculator.haircut strict, terms, summary⟩ additional date held)
      (@snapshot actual ⟨@Calculator.haircut actual, terms, summary⟩ additional date held) := by
  unfold snapshot
  refine .ite (.refl _) ?_
  refine (Margin.ofHoldings_refines stricter terms _ _).bind fun before => ?_
  refine (marginAfter_refines stricter terms summary additional _ before).bind fun after => ?_
  refine (Decimal.fitted_refines stricter _ _).mapError.bind fun worth => ?_
  exact (Decimal.fitted_refines stricter _ _).mapError.bind fun _ => .refl _

theorem walk_refines (walkers : List Walker) (dates : List Date) :
    Refines
      (@walk strict ⟨@Calculator.haircut strict, terms, summary⟩ additional walkers dates)
      (@walk actual ⟨@Calculator.haircut actual, terms, summary⟩ additional walkers dates) := by
  induction dates generalizing walkers with
  | nil => exact .refl _
  | cons date dates inductionHypothesis =>
    refine (hedge_refines stricter terms _).bind fun held => ?_
    refine (snapshot_refines stricter terms summary additional date held).bind fun here => ?_
    exact (inductionHypothesis _).bind fun _ => .refl _

/-- A strict projection under the haircut rule is the actual one. -/
theorem run_refines (asOf : Date) (days : Nat) (accounts : List HedgedAccount) :
    Refines
      (@run strict ⟨@Calculator.haircut strict, terms, summary⟩ asOf days accounts additional)
      (@run actual ⟨@Calculator.haircut actual, terms, summary⟩ asOf days accounts additional) :=
  walk_refines stricter terms summary additional _ _

end Projection

theorem Desk.depositBook_refines (company : Company) (summary : Summary)
    (additional : Table Currency Decimal) (snapshot : Snapshot) :
    Refines (@Desk.depositBook strict company summary additional snapshot)
      (@Desk.depositBook actual company summary additional snapshot) :=
  (Book.ofPositions_refines stricter _).bind fun held =>
    (held.add_refines stricter _ _).bind fun paid => paid.addAll_refines stricter _

end Transfer

end Collateral

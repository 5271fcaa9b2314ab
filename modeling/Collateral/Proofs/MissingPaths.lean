import Collateral.Proofs.CountedCash

/-!
Contract: the currencies for which a projection fails.

A projection needs a path for every foreign amount in force on one of its dates, whatever its size,
and for further cash that is not flat on a date on which there is something to margin. Everything
else that it converts has a path: the positions have been taken at the rates of their currencies, and
the domestic currency is worth one of itself. So it fails for want of a path exactly when one of these
two has none, and otherwise, in the range of decimals, it does not fail.

Owns: calculations that are stopped by currencies without a path, from one conversion to a whole
projection.
-/

namespace Collateral

open Outcome (FailsBy)

/-! ## Calculations stopped by currencies -/

/-- A currency that cannot be turned into the domestic one. -/
def Terms.LacksPath (terms : Terms) (currency : Currency) : Prop :=
  terms.spot.rate? ⟨currency, terms.domestic⟩ = .ok none

/-- The two ways to fail: out of the range of decimals, or for want of a path from one of certain
currencies. -/
inductive Failure.Strands (terms : Terms) (stranded : Currency → Prop) : Failure → Prop
  | arithmetic (error : Decimal.Error) : Strands terms stranded (.arithmetic error)
  | noPath (currency : Currency) (isStranded : stranded currency) :
    Strands terms stranded (.noPath ⟨currency, terms.domestic⟩)

theorem Failure.Strands.mono {terms : Terms} {stranded stranded' : Currency → Prop}
    (implied : ∀ currency, stranded currency → stranded' currency) {failure : Failure}
    (strands : Strands terms stranded failure) : Strands terms stranded' failure := by
  cases strands with
  | arithmetic error => exact .arithmetic error
  | noPath currency isStranded => exact .noPath currency (implied currency isStranded)

/-- A calculation that certain currencies stop. For want of a path it fails from one of them alone,
and as long as there is one of them it does not get done. -/
structure StoppedBy {α : Type} (terms : Terms) (stranded : Currency → Prop)
    (step : Except Failure α) : Prop where
  cause : FailsBy (Failure.Strands terms stranded) step
  clear : ∀ value, step = .ok value → ∀ currency, ¬stranded currency

namespace StoppedBy

variable {α β : Type} {terms : Terms} {stranded stranded' : Currency → Prop}
  {step : Except Failure α}

theorem congr (stopped : StoppedBy terms stranded step)
    (same : ∀ currency, stranded currency ↔ stranded' currency) :
    StoppedBy terms stranded' step := by
  have equal : stranded = stranded' := funext fun currency => propext (same currency)
  exact equal ▸ stopped

/-- What is done has not been stopped. -/
theorem ok (value : α) (none : ∀ currency, ¬stranded currency) :
    StoppedBy terms stranded (.ok value) where
  cause := .ok value
  clear _ _ := none

/-- Arithmetic needs no path. -/
theorem arithmetic (step : Except Decimal.Error α) :
    StoppedBy terms (fun _ => False) (liftM step : Except Failure α) where
  cause := by
    intro failure failed
    obtain ⟨error, -, rfl⟩ := Outcome.mapError_error.1 failed
    exact .arithmetic error
  clear _ _ _ := id

/-- A chain is stopped by what stops its first step, and by what stops the rest from there. -/
theorem bind {rest : α → Except Failure β} (first : StoppedBy terms stranded step)
    (onward : ∀ value, step = .ok value → StoppedBy terms stranded' (rest value)) :
    StoppedBy terms (fun currency => stranded currency ∨ stranded' currency) (step >>= rest) where
  cause := by
    apply FailsBy.bind
    · exact first.cause.weaken fun _ => .mono fun _ => .inl
    · intro value done
      exact (onward value done).cause.weaken fun _ => .mono fun _ => .inr
  clear := by
    intro result done currency isStranded
    obtain ⟨value, firstDone, restDone⟩ := Outcome.bind_ok.1 done
    rcases isStranded with inFirst | inRest
    · exact first.clear value firstDone currency inFirst
    · exact (onward value firstDone).clear result restDone currency inRest

/-- What is done with the result of a calculation, without failing, is stopped by nothing more. -/
theorem bind_pure (stopped : StoppedBy terms stranded step) (change : α → β) :
    StoppedBy terms stranded (step >>= fun value => pure (change value)) := by
  have passed : ∀ value, StoppedBy terms (fun _ => False) (.ok (change value)) :=
    fun value => ok (change value) fun _ => id
  apply (stopped.bind fun value _ => passed value).congr
  intro currency
  exact or_iff_left not_false

theorem arithmetic_bind {step : Except Decimal.Error α} {rest : α → Except Failure β}
    (onward : ∀ value, step = .ok value → StoppedBy terms stranded (rest value)) :
    StoppedBy terms stranded ((liftM step : Except Failure α) >>= rest) := by
  have first : StoppedBy terms (fun _ => False) (liftM step : Except Failure α) := arithmetic step
  apply (first.bind fun value done => onward value (Outcome.liftArithmetic_ok.1 done)).congr
  intro currency
  exact or_iff_right not_false

/-- A loop is stopped by what stops one of its rounds. -/
theorem foldlM {ι : Type} {stopper : ι → Currency → Prop} {step : β → ι → Except Failure β}
    {entries : List ι}
    (rounds : ∀ entry ∈ entries, ∀ value, StoppedBy terms (stopper entry) (step value entry))
    (start : β) :
    StoppedBy terms (fun currency => ∃ entry ∈ entries, stopper entry currency)
      (entries.foldlM step start) := by
  induction entries generalizing start with
  | nil =>
    apply ok
    simp
  | cons entry entries inductionHypothesis =>
    have others := inductionHypothesis fun other member =>
      rounds other (List.mem_cons_of_mem entry member)
    rw [List.foldlM_cons]
    apply ((rounds entry List.mem_cons_self start).bind fun value _ => others value).congr
    simp

theorem mapM {ι : Type} {stopper : ι → Currency → Prop} {step : ι → Except Failure β}
    {entries : List ι} (rounds : ∀ entry ∈ entries, StoppedBy terms (stopper entry) (step entry)) :
    StoppedBy terms (fun currency => ∃ entry ∈ entries, stopper entry currency)
      (entries.mapM step) := by
  induction entries with
  | nil =>
    apply ok
    simp
  | cons entry entries inductionHypothesis =>
    have others := inductionHypothesis fun other member =>
      rounds other (List.mem_cons_of_mem entry member)
    rw [List.mapM_cons]
    apply ((rounds entry List.mem_cons_self).bind fun first _ =>
      others.bind_pure (first :: ·)).congr
    simp

end StoppedBy

/-! ## Conversions -/

namespace Terms

variable {terms : Terms} {currency : Currency}

theorem LacksPath.rate (lacks : terms.LacksPath currency) :
    terms.spot.rate ⟨currency, terms.domestic⟩ = .error (.noPath ⟨currency, terms.domestic⟩) := by
  unfold LacksPath at lacks
  rw [Quotes.rate, lacks]
  rfl

theorem LacksPath.ne_domestic (par : terms.AtPar) (lacks : terms.LacksPath currency) :
    currency ≠ terms.domestic := by
  rintro rfl
  unfold LacksPath at lacks
  rw [par] at lacks
  cases lacks

theorem rate_stoppedBy (terms : Terms) (currency : Currency) :
    StoppedBy terms (fun other => other = currency ∧ terms.LacksPath other)
      (liftM (terms.spot.rate ⟨currency, terms.domestic⟩) : Except Failure Decimal) where
  cause := by
    intro failure failed
    obtain ⟨cause, stopped, rfl⟩ := Outcome.mapError_error.1 failed
    unfold Quotes.rate at stopped
    rcases Outcome.bind_error.1 stopped with overflow | ⟨found, answered, missing⟩
    · obtain ⟨error, -, rfl⟩ := Outcome.mapError_error.1 overflow
      exact .arithmetic error
    · cases found with
      | some rate => cases missing
      | none =>
        cases missing
        exact .noPath currency ⟨rfl, Outcome.liftIntoConversion_ok.1 answered⟩
  clear := by
    rintro rate quoted _ ⟨rfl, lacks⟩
    rw [Outcome.liftConversion_ok, lacks.rate] at quoted
    cases quoted

theorem convert_stoppedBy [Rounding] (terms : Terms) (currency : Currency) (amount : Decimal) :
    StoppedBy terms (fun other => other = currency ∧ terms.LacksPath other)
      (liftM (terms.spot.convert amount ⟨currency, terms.domestic⟩) : Except Failure Decimal) := by
  simp only [Quotes.convert, Outcome.liftConversion_bind, Outcome.liftConversion_lift]
  apply ((terms.rate_stoppedBy currency).bind fun _ _ => .arithmetic _).congr
  intro other
  exact or_iff_left not_false

end Terms

section Steps

variable [Rounding] {terms : Terms}

/-! ## Margins -/

namespace Margin

theorem bucket_stoppedBy (currency : Currency) (amount : Decimal) :
    StoppedBy terms (fun other => other = currency ∧ terms.LacksPath other)
      (bucket terms currency amount) := by
  exact (terms.convert_stoppedBy currency amount).bind_pure _

/-- A margin is stopped by the balances without a path, as far as they are not flat. -/
theorem ofBook_stoppedBy (book : Book) :
    StoppedBy terms (fun currency => terms.LacksPath currency ∧ ¬isFlat (book.balance currency))
      (ofBook terms book) := by
  have built : StoppedBy terms _ (buckets terms book) :=
    .mapM fun entry _ => bucket_stoppedBy entry.1 entry.2
  apply (built.bind fun found _ => StoppedBy.arithmetic_bind fun charge _ => .arithmetic _).congr
  intro currency
  simp only [or_false, Book.mem_filter_not_isFlat]
  constructor
  · rintro ⟨entry, ⟨balanceIs, large⟩, rfl, lacks⟩
    exact ⟨lacks, balanceIs ▸ large⟩
  · rintro ⟨lacks, large⟩
    exact ⟨(currency, book.balance currency), ⟨rfl, large⟩, rfl, lacks⟩

end Margin

/-! ## Holdings -/

section Holdings

variable {positions : List FxPosition} {cash additional : Table Currency Decimal}
  {currency : Currency}

/-- Positions touch no balances but those of their own currencies. -/
theorem Book.balance_of_ofPositions_of_apart {book : Book}
    (apart : ∀ position ∈ positions,
      position.pair.base ≠ currency ∧ position.pair.quote ≠ currency)
    (booked : Book.ofPositions positions = .ok book) : book.balance currency = 0 := by
  have untouched : ∀ start : Book, positions.foldlM Book.addPosition start = .ok book →
      book.balance currency = start.balance currency := by
    clear booked
    induction positions with
    | nil =>
      intro start booked
      rw [Outcome.pure_ok.1 booked]
    | cons position positions inductionHypothesis =>
      intro start booked
      obtain ⟨notBase, notQuote⟩ := apart position List.mem_cons_self
      obtain ⟨next, first, rest⟩ := Outcome.foldlM_cons_ok.1 booked
      obtain ⟨based, base, onward⟩ := Outcome.bind_ok.1 first
      obtain ⟨cost, -, quote⟩ := Outcome.bind_ok.1 onward
      rw [inductionHypothesis (fun other member => apart other (List.mem_cons_of_mem _ member))
        next rest, Book.balance_of_add_of_ne quote notQuote, Book.balance_of_add_of_ne base notBase]
  exact untouched {} booked

variable {grain : Rat} [Rounding.Lawful grain]

include grain

/-- Positions at the rates of their pairs are converted where they stand. So a margin of holdings is
stopped by the cash alone. -/
theorem Margin.ofHoldings_stoppedBy (par : terms.AtPar)
    (priced : ∀ position ∈ positions, position.Priced terms) (cash : Table Currency Decimal) :
    StoppedBy terms
      (fun currency => terms.LacksPath currency ∧ ¬isFlat (Book.balance ⟨cash⟩ currency))
      (Calculator.haircut.ofHoldings terms positions cash) := by
  apply StoppedBy.arithmetic_bind
  intro book booked
  apply (ofBook_stoppedBy book).congr
  intro currency
  apply and_congr_right
  intro lacks
  have apart : ∀ position ∈ positions,
      position.pair.base ≠ currency ∧ position.pair.quote ≠ currency := by
    intro position member
    obtain ⟨quoteIs, rateIs⟩ := priced position member
    constructor
    · intro base
      have pair : position.pair = ⟨currency, terms.domestic⟩ := by rw [← base, ← quoteIs]
      rw [pair, lacks.rate] at rateIs
      cases rateIs
    · rw [quoteIs]
      exact (lacks.ne_domestic par).symm
  obtain ⟨held, positioned, balances⟩ := Book.balance_of_ofHoldings booked
  have balance := balances currency
  rw [Book.balance_of_ofPositions_of_apart apart positioned, Decimal.zero_add_ok] at balance
  rw [Except.ok.inj balance]

end Holdings

/-! ## The hedge and the margins of a date -/

namespace Projection

variable {summary : Summary} {positions : List FxPosition} {additional : Table Currency Decimal}

section Hedges

variable (par : terms.AtPar)

include par

/-- An exposure asks for the rate of its currency, unless that is the domestic one. -/
theorem Hedge.add_stoppedBy (held : Hedge) (ratio : Decimal) (currency : Currency)
    (amount : Decimal) :
    StoppedBy terms (fun other => other = currency ∧ terms.LacksPath other)
      (held.add terms ratio currency amount) := by
  unfold Hedge.add
  split
  next domestic =>
    apply ((StoppedBy.arithmetic _).bind_pure _).congr
    intro other
    rw [false_iff]
    rintro ⟨rfl, lacks⟩
    exact lacks.ne_domestic par domestic
  next =>
    apply ((terms.rate_stoppedBy currency).bind fun rate _ => .arithmetic_bind fun value _ =>
      .arithmetic_bind fun total _ => (StoppedBy.arithmetic _).bind_pure _).congr
    intro other
    exact or_iff_left not_false

theorem hedgeOn_stoppedBy (plans : List Plan) (date : Date) :
    StoppedBy terms
      (fun currency => ∃ item ∈ outstandingOn plans date,
        currency = item.currency ∧ terms.LacksPath currency)
      (hedgeOn terms plans date) :=
  .foldlM (fun item _ held => held.add_stoppedBy par item.ratio item.currency item.amount) _

end Hedges

/-- There are positions as soon as something foreign is outstanding. -/
theorem positions_ne_nil_of_hedgeOn {plans : List Plan} {date : Date} {held : Hedge}
    (hedged : hedgeOn terms plans date = .ok held) :
    held.positions ≠ [] ↔ ∃ item ∈ outstandingOn plans date, item.currency ≠ terms.domestic := by
  obtain ⟨-, positions, collected, gathered⟩ := hedgeOn_fold_ok hedged
  have lengths := (Outcome.mapM_ok.1 collected).length_eq
  rw [gathered, List.nil_append, ← List.length_pos_iff, ← lengths, List.length_pos_iff, Ne,
    List.filter_eq_nil_iff]
  simp

/-- What stops the margins of a date: further cash that is not flat. -/
def CashStranded (terms : Terms) (additional : Table Currency Decimal) (currency : Currency) :
    Prop :=
  terms.LacksPath currency ∧ ¬Margin.isFlat (Book.balance ⟨additional⟩ currency)

section Dates

variable {grain : Rat} [Rounding.Lawful grain] (par : terms.AtPar)

include grain par

/-- The broker's cash stops nothing. -/
theorem marginBefore_stoppedBy (summary : Summary)
    (priced : ∀ position ∈ positions, position.Priced terms) :
    StoppedBy terms (fun _ => False) (Calculator.haircut.ofHoldings terms positions
      (brokerCash ⟨.haircut, terms, summary⟩)) := by
  apply (Margin.ofHoldings_stoppedBy par priced _).congr
  intro currency
  rw [iff_false, not_and, not_not]
  intro lacks
  rw [balance_brokerCash, if_neg (lacks.ne_domestic par).symm]
  exact Margin.isFlat_zero

/-- Whether or not its computation is skipped, the margin after the deposit is stopped by the further
cash. -/
theorem marginAfter_stoppedBy (summary : Summary)
    (priced : ∀ position ∈ positions, position.Priced terms) (before : Decimal)
    (additional : Table Currency Decimal) :
    StoppedBy terms (CashStranded terms additional)
      (marginAfter ⟨.haircut, terms, summary⟩ positions before additional) := by
  unfold marginAfter
  split
  next zeros =>
    apply StoppedBy.ok
    rintro currency ⟨-, large⟩
    rw [balance_of_all_zero zeros] at large
    exact large Margin.isFlat_zero
  next =>
    apply StoppedBy.arithmetic_bind
    intro cash combined
    apply (Margin.ofHoldings_stoppedBy par priced cash).congr
    intro currency
    apply and_congr_right
    intro lacks
    have balance := balance_combinedCash combined currency
    rw [balance_brokerCash, if_neg (lacks.ne_domestic par).symm, Decimal.zero_add_ok] at balance
    rw [Except.ok.inj balance]

/-- Without positions there is nothing to margin. -/
theorem snapshot_stoppedBy (summary : Summary) {held : Hedge}
    (priced : ∀ position ∈ held.positions, position.Priced terms)
    (additional : Table Currency Decimal) (date : Date) :
    StoppedBy terms
      (fun currency => held.positions ≠ [] ∧ CashStranded terms additional currency)
      (snapshot ⟨.haircut, terms, summary⟩ additional date held) := by
  unfold snapshot
  split
  next idle =>
    apply StoppedBy.ok
    rintro currency ⟨some, -⟩
    exact some (List.isEmpty_iff.1 idle)
  next hedged =>
    have some : held.positions ≠ [] := fun none => hedged (List.isEmpty_iff.2 none)
    apply ((marginBefore_stoppedBy par summary priced).bind fun before _ =>
      (marginAfter_stoppedBy par summary priced before additional).bind fun after _ =>
        StoppedBy.arithmetic_bind fun cash _ => (StoppedBy.arithmetic _).bind_pure _).congr
    simp [some]

end Dates

end Projection

end Steps

/-! ## What a projection wants a path for -/

namespace Projection

/-- A currency for which a path is wanted on a date, and is not there. -/
inductive WantsPath (terms : Terms) (plans : List Plan) (additional : Table Currency Decimal)
    (date : Date) : Currency → Prop
  /-- An amount in it is in force, and may be zero. -/
  | exposure (item : Outstanding) (outstanding : item ∈ outstandingOn plans date)
    (lacks : terms.LacksPath item.currency) :
    WantsPath terms plans additional date item.currency
  /-- A millionth of it or more is held as further cash, while something foreign is in force. -/
  | cash (currency : Currency) (amount : Decimal) (item : Outstanding)
    (outstanding : item ∈ outstandingOn plans date) (foreign : item.currency ≠ terms.domestic)
    (held : additional.get? currency = some amount) (large : 1 / 10 ^ 6 ≤ |amount.toRat|)
    (lacks : terms.LacksPath currency) :
    WantsPath terms plans additional date currency

section Runs

variable {terms : Terms} {summary : Summary} {plans : List Plan}
  {additional : Table Currency Decimal}

/-- Cash that is not flat is a millionth or more. -/
theorem not_isFlat_balance_iff {currency : Currency} :
    ¬Margin.isFlat (Book.balance ⟨additional⟩ currency) ↔
      ∃ amount, additional.get? currency = some amount ∧ 1 / 10 ^ 6 ≤ |amount.toRat| := by
  unfold Book.balance
  cases additional.get? currency with
  | none => simp [Margin.isFlat_zero]
  | some amount => simp [Margin.isFlat_iff]

variable [Rounding] {grain : Rat} [Rounding.Lawful grain]

include grain in
/-- A date is stopped by the currencies for which it wants a path. -/
theorem snapshotOn_stoppedBy (par : terms.AtPar) (summary : Summary) (plans : List Plan)
    (additional : Table Currency Decimal) (date : Date) :
    StoppedBy terms (WantsPath terms plans additional date)
      (snapshotOn ⟨.haircut, terms, summary⟩ additional plans date) := by
  have margined : ∀ held, hedgeOn terms plans date = .ok held →
      StoppedBy terms
        (fun currency => (∃ item ∈ outstandingOn plans date, item.currency ≠ terms.domestic) ∧
          CashStranded terms additional currency)
        (snapshot ⟨.haircut, terms, summary⟩ additional date held) := by
    intro held hedged
    have priced : ∀ position ∈ held.positions, position.Priced terms := by
      rw [← hedge_eq_hedgeOn] at hedged
      exact hedge_priced hedged
    apply (snapshot_stoppedBy par summary priced additional date).congr
    intro currency
    rw [positions_ne_nil_of_hedgeOn hedged]
  apply ((hedgeOn_stoppedBy par plans date).bind margined).congr
  intro currency
  constructor
  · rintro (⟨item, outstanding, rfl, lacks⟩ | ⟨⟨item, outstanding, foreign⟩, lacks, notFlat⟩)
    · exact .exposure item outstanding lacks
    · obtain ⟨amount, held, large⟩ := not_isFlat_balance_iff.1 notFlat
      exact .cash currency amount item outstanding foreign held large lacks
  · intro wants
    cases wants with
    | exposure item outstanding lacks => exact .inl ⟨item, outstanding, rfl, lacks⟩
    | cash currency amount item outstanding foreign held large lacks =>
      exact .inr ⟨⟨item, outstanding, foreign⟩, lacks,
        not_isFlat_balance_iff.2 ⟨amount, held, large⟩⟩

include grain in
theorem run_stoppedBy (par : terms.AtPar) (summary : Summary) (asOf : Date) (days : Nat)
    (plans : List Plan) (additional : Table Currency Decimal) :
    StoppedBy terms
      (fun currency => ∃ date ∈ eventDates (plans.map Plan.account) asOf (asOf.ahead days),
        WantsPath terms plans additional date currency)
      (run ⟨.haircut, terms, summary⟩ asOf days (plans.map Plan.account) additional) := by
  rw [run_eq_mapM]
  exact .mapM fun date _ => snapshotOn_stoppedBy par summary plans additional date

end Runs

/-- **A projection fails exactly where a path is wanted that is not there.** Within the range of
decimals, it fails to convert when on one of its dates a path is wanted for an amount in force or for
further cash that is not flat. Every failure is that of such a currency, and without one the
projection succeeds, with one snapshot for every date. -/
theorem run_noPath_iff_wantsPath {terms : Terms} {summary : Summary} {plans : List Plan}
    {additional : Table Currency Decimal} (par : terms.AtPar) (asOf : Date) (days : Nat)
    (inRange : ∀ error, run ⟨.haircut, terms, summary⟩ asOf days (plans.map Plan.account)
      additional ≠ .error (.arithmetic error)) :
    ((∃ pair, run ⟨.haircut, terms, summary⟩ asOf days (plans.map Plan.account) additional =
        .error (.noPath pair)) ↔
      ∃ date ∈ eventDates (plans.map Plan.account) asOf (asOf.ahead days), ∃ currency,
        WantsPath terms plans additional date currency) ∧
    (∀ failure, run ⟨.haircut, terms, summary⟩ asOf days (plans.map Plan.account) additional =
        .error failure →
      ∃ date ∈ eventDates (plans.map Plan.account) asOf (asOf.ahead days), ∃ currency,
        WantsPath terms plans additional date currency ∧
          failure = .noPath ⟨currency, terms.domestic⟩) ∧
    ((¬∃ date ∈ eventDates (plans.map Plan.account) asOf (asOf.ahead days), ∃ currency,
        WantsPath terms plans additional date currency) →
      ∃ points, run ⟨.haircut, terms, summary⟩ asOf days (plans.map Plan.account) additional =
          .ok points ∧
        points.map Snapshot.date =
          eventDates (plans.map Plan.account) asOf (asOf.ahead days)) := by
  have stopped := run_stoppedBy par summary asOf days plans additional
  have named : ∀ failure, run ⟨.haircut, terms, summary⟩ asOf days (plans.map Plan.account)
      additional = .error failure →
        ∃ date ∈ eventDates (plans.map Plan.account) asOf (asOf.ahead days), ∃ currency,
          WantsPath terms plans additional date currency ∧
            failure = .noPath ⟨currency, terms.domestic⟩ := by
    intro failure failed
    cases stopped.cause failure failed with
    | arithmetic error => exact absurd failed (inRange error)
    | noPath currency wanted =>
      obtain ⟨date, visited, wants⟩ := wanted
      exact ⟨date, visited, currency, wants, rfl⟩
  refine ⟨⟨?wanted, ?fails⟩, named, ?succeeds⟩
  case wanted =>
    rintro ⟨pair, failed⟩
    obtain ⟨date, visited, currency, wants, -⟩ := named _ failed
    exact ⟨date, visited, currency, wants⟩
  case fails =>
    rintro ⟨date, visited, currency, wants⟩
    cases ran : run ⟨.haircut, terms, summary⟩ asOf days (plans.map Plan.account) additional with
    | ok points => exact absurd ⟨date, visited, wants⟩ (stopped.clear points ran currency)
    | error failure =>
      obtain ⟨-, -, other, -, rfl⟩ := named failure ran
      exact ⟨_, rfl⟩
  case succeeds =>
    intro none
    cases ran : run ⟨.haircut, terms, summary⟩ asOf days (plans.map Plan.account) additional with
    | ok points => exact ⟨points, rfl, map_date_of_run ran⟩
    | error failure =>
      obtain ⟨date, visited, currency, wants, -⟩ := named failure ran
      exact absurd ⟨date, visited, currency, wants⟩ none

/-! ## Cash on either side of the threshold -/

private def poundRates : Spot :=
  ⟨⟨"USD"⟩, Table.ofList [(⟨⟨"GBP"⟩, ⟨"USD"⟩⟩, 2)]⟩

private def poundTerms : Terms where
  domestic := ⟨"USD"⟩
  spot := poundRates
  haircuts := poundHaircuts
  multiplier := 2

/-- Nothing converts rands. The entries that hold some are superseded before the first date, or dated
behind the horizon. -/
private def neverInForce : List Plan := [
  ⟨⟨"rands"⟩, 1, [⟨day 5, [(⟨"ZAR"⟩, whole 100)]⟩, ⟨day 11, [(⟨"GBP"⟩, whole 100)]⟩,
    ⟨day 30, [(⟨"ZAR"⟩, whole 7)]⟩]⟩]

/-- One account more, with no rands in force. -/
private def noneInForce : List Plan :=
  neverInForce ++ [⟨⟨"zero"⟩, 1, [⟨day 12, [(⟨"ZAR"⟩, 0)]⟩]⟩]

private def rands (amount : Figure) : Table Currency Decimal :=
  Table.empty.insert ⟨"ZAR"⟩ amount.value

/-- Nine tenths of a millionth. -/
private def slight : Figure := ⟨false, 9, 7, by decide⟩

private theorem poundTerms_atPar : poundTerms.AtPar := by
  have spot : poundTerms.spot = poundRates.quotes := by rw [poundTerms]
  exact Spot.quotes_atPar spot

/-- Less than a millionth of a rand does no harm, nor do entries that are never in force. A millionth
of a rand wants a path, and so does an amount of zero that is in force. -/
theorem run_noPath_iff_wantsPath_rands :
    (∃ points, run ⟨.haircut, poundTerms, {}⟩ (day 10) 5 (neverInForce.map Plan.account)
        (rands slight) = .ok points ∧ points.map Snapshot.date = [day 11]) ∧
    (∃ pair, run ⟨.haircut, poundTerms, {}⟩ (day 10) 5 (neverInForce.map Plan.account)
        (rands .millionth) = .error (.noPath pair)) ∧
    ∃ pair, run ⟨.haircut, poundTerms, {}⟩ (day 10) 5 (noneInForce.map Plan.account) .empty =
        .error (.noPath pair) := by
  have visited : eventDates (neverInForce.map Plan.account) (day 10) ((day 10).ahead 5) =
      [day 11] := by decide +kernel
  have inForce : outstandingOn neverInForce (day 11) = [⟨1, ⟨"GBP"⟩, whole 100⟩] := by
    decide +kernel
  have noRands : poundTerms.LacksPath ⟨"ZAR"⟩ := by
    unfold Terms.LacksPath
    decide +kernel
  have poundsConvert : ¬poundTerms.LacksPath ⟨"GBP"⟩ := by
    unfold Terms.LacksPath
    decide +kernel
  refine ⟨?slight, ?millionth, ?zero⟩
  case slight =>
    have inRange : ∀ error, run ⟨.haircut, poundTerms, {}⟩ (day 10) 5
        (neverInForce.map Plan.account) (rands slight) ≠ .error (.arithmetic error) := by
      have done : (run ⟨.haircut, poundTerms, {}⟩ (day 10) 5 (neverInForce.map Plan.account)
          (rands slight)).map (fun _ => ()) = .ok () := by decide +kernel
      intro error failed
      rw [failed] at done
      cases done
    rw [← visited]
    apply (run_noPath_iff_wantsPath poundTerms_atPar (day 10) 5 inRange).2.2
    rw [visited]
    rintro ⟨date, member, currency, wants⟩
    obtain rfl := List.mem_singleton.1 member
    cases wants with
    | exposure item outstanding lacks =>
      rw [inForce] at outstanding
      obtain rfl := List.mem_singleton.1 outstanding
      exact poundsConvert lacks
    | cash currency amount item outstanding foreign held large lacks =>
      cases List.mem_singleton.1 (Table.get?_eq_some_iff.1 held)
      revert large
      decide +kernel
  case millionth =>
    have inRange : ∀ error, run ⟨.haircut, poundTerms, {}⟩ (day 10) 5
        (neverInForce.map Plan.account) (rands .millionth) ≠ .error (.arithmetic error) := by
      have failed : run ⟨.haircut, poundTerms, {}⟩ (day 10) 5 (neverInForce.map Plan.account)
          (rands .millionth) = .error (.noPath ⟨⟨"ZAR"⟩, ⟨"USD"⟩⟩) := by decide +kernel
      rw [failed]
      nofun
    apply (run_noPath_iff_wantsPath poundTerms_atPar (day 10) 5 inRange).1.2
    refine ⟨day 11, by simp [visited], ⟨"ZAR"⟩, ?_⟩
    refine .cash _ Figure.millionth.value ⟨1, ⟨"GBP"⟩, whole 100⟩ ?_ ?_ ?_ ?_ noRands
    · simp [inForce]
    all_goals decide +kernel
  case zero =>
    have inRange : ∀ error, run ⟨.haircut, poundTerms, {}⟩ (day 10) 5
        (noneInForce.map Plan.account) .empty ≠ .error (.arithmetic error) := by
      have failed : run ⟨.haircut, poundTerms, {}⟩ (day 10) 5 (noneInForce.map Plan.account)
          .empty = .error (.noPath ⟨⟨"ZAR"⟩, ⟨"USD"⟩⟩) := by decide +kernel
      rw [failed]
      nofun
    apply (run_noPath_iff_wantsPath poundTerms_atPar (day 10) 5 inRange).1.2
    refine ⟨day 12, by decide +kernel, ⟨"ZAR"⟩, ?_⟩
    exact .exposure ⟨1, ⟨"ZAR"⟩, 0⟩ (by decide +kernel) noRands

end Projection

end Collateral

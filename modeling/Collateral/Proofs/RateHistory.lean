import Collateral.Proofs.Overflows
import Collateral.Proofs.Timeline

/-!
Contract: what a table of spot rates remembers of the requests made to it.

Both directions of two currencies share the table, and setting a rate overwrites both. So a table is
known from its requests alone: the last rate taken for two currencies decides both directions, and
the last anchor assigned is where the others are crossed. A refused rate leaves no trace.

Owns: requests, the table that they lead to, and its answers.
-/

namespace Collateral

namespace Spot

/-! ## Requests -/

/-- A call that can change a table: setting a rate, or assigning the anchor. -/
inductive Request where
  | set (pair : FxPair) (rate : Figure)
  | anchor (currency : Currency)

namespace Request

/-- The setting that a table takes from a request: a rate above zero. -/
def setting? : Request → Option (FxPair × Decimal)
  | .set pair rate => if rate.value ≤ 0 then none else some (pair, rate.value)
  | .anchor _ => none

def anchor? : Request → Option Currency
  | .set .. => none
  | .anchor currency => some currency

end Request

/-- The table after a request. A refused rate leaves it as it is. -/
def serve (spot : Spot) : Request → Spot
  | .set pair rate =>
    match spot.set pair rate with
    | .ok changed => changed
    | .error _ => spot
  | .anchor currency => { spot with anchor := currency }

def serveAll (spot : Spot) (requests : List Request) : Spot :=
  requests.foldl serve spot

theorem serveAll_append_singleton (spot : Spot) (requests : List Request) (request : Request) :
    spot.serveAll (requests ++ [request]) = (spot.serveAll requests).serve request := by
  rw [serveAll, List.foldl_append]
  rfl

/-- The last anchor assigned; the first one where there is none. -/
def lastAnchor (first : Currency) (requests : List Request) : Currency :=
  (requests.filterMap Request.anchor?).getLast?.getD first

/-- The last setting taken for two currencies, in whichever direction. -/
def lastSetting? (requests : List Request) (pair : FxPair) : Option (FxPair × Decimal) :=
  ((requests.filterMap Request.setting?).filter
    fun setting => setting.1 = pair ∨ setting.1 = pair.inverse).getLast?

/-- The rate of a pair without crossing, as the requests tell it. -/
inductive Quoted (requests : List Request) (pair : FxPair) : Decimal → Prop where
  | same (alike : pair.base = pair.quote) : Quoted requests pair 1
  | given {rate : Decimal} (differ : pair.base ≠ pair.quote)
    (last : lastSetting? requests pair = some (pair, rate)) : Quoted requests pair rate
  | inverted {rate quotient : Decimal} (differ : pair.base ≠ pair.quote)
    (last : lastSetting? requests pair = some (pair.inverse, rate))
    (divided : Decimal.div 1 rate = .ok quotient) : Quoted requests pair quotient

/-- The answer of a table to a pair, as the requests tell it. A rate that is crossed is the product
of two legs that are not, and it can leave the range of decimals. -/
inductive Told (requests : List Request) (anchor : Currency) (pair : FxPair) :
    Except Decimal.Error (Option Decimal) → Prop where
  | quoted {rate : Decimal} (found : Quoted requests pair rate) :
    Told requests anchor pair (.ok (some rate))
  | crossed {legIn legOut : Decimal} (unset : ∀ rate, ¬Quoted requests pair rate)
    (inward : Quoted requests ⟨pair.base, anchor⟩ legIn)
    (outward : Quoted requests ⟨anchor, pair.quote⟩ legOut) :
    Told requests anchor pair (some <$> legIn.mul legOut)
  | none (unset : ∀ rate, ¬Quoted requests pair rate)
    (apart : (∀ rate, ¬Quoted requests ⟨pair.base, anchor⟩ rate) ∨
      ∀ rate, ¬Quoted requests ⟨anchor, pair.quote⟩ rate) :
    Told requests anchor pair (.ok .none)

/-! ## One request -/

private theorem pos_of_not_le {number : Decimal} (positive : ¬number ≤ 0) : 0 < number.toRat := by
  simpa using not_le.1 (Decimal.le_iff.not.1 positive)

/-- A rate above zero has an inverse, since no decimal above zero is small enough for the quotient
to leave the range. -/
theorem exists_inverse {rate : Decimal} (positive : 0 < rate.toRat) :
    ∃ inverse, Decimal.div 1 rate = .ok inverse := by
  have least : 1 / 10 ^ 28 ≤ rate.toRat := Decimal.unit_le_toRat positive
  have small : |(1 : Decimal).toRat / rate.toRat| ≤ 10 ^ 28 := by
    rw [Decimal.toRat_one, abs_of_pos (by positivity), div_le_iff₀ positive]
    linarith
  obtain ⟨inverse, fit⟩ := Rounding.exists_fit_of_le small
  exact ⟨inverse, Decimal.div_ok.2 ⟨Decimal.toRat_eq_zero.not.1 positive.ne', fit⟩⟩

theorem set_refused (spot : Spot) (pair : FxPair) {rate : Figure} (refused : rate.value ≤ 0) :
    spot.set pair rate = .error (.notPositive pair rate) := by
  unfold set
  rw [if_pos refused]
  rfl

theorem set_taken (spot : Spot) (pair : FxPair) {rate : Figure} (taken : ¬rate.value ≤ 0) :
    ∃ inverse, Decimal.div 1 rate.value = .ok inverse ∧
      spot.set pair rate =
        .ok { spot with
          rates := (spot.rates.insert pair rate.value).insert pair.inverse inverse } := by
  obtain ⟨inverse, divided⟩ := exists_inverse (pos_of_not_le taken)
  refine ⟨inverse, divided, ?_⟩
  unfold set
  rw [if_neg taken, divided]
  rfl

/-- A rate is refused exactly when it is not above zero. -/
theorem set_error_iff (spot : Spot) (pair : FxPair) (rate : Figure) :
    (∃ error, spot.set pair rate = .error error) ↔ rate.value ≤ 0 := by
  constructor
  · rintro ⟨error, failed⟩
    by_contra taken
    obtain ⟨inverse, -, done⟩ := set_taken spot pair taken
    rw [done] at failed
    cases failed
  · intro refused
    exact ⟨_, set_refused spot pair refused⟩

theorem serve_refused (spot : Spot) (pair : FxPair) {rate : Figure} (refused : rate.value ≤ 0) :
    spot.serve (.set pair rate) = spot := by
  simp only [serve, set_refused spot pair refused]

/-- A rate that is taken decides both directions of its currencies, and no others. -/
private theorem direct?_serve_set (spot : Spot) (given : FxPair) {rate : Figure}
    (taken : ¬rate.value ≤ 0) :
    ∃ inverse, Decimal.div 1 rate.value = .ok inverse ∧
      ∀ pair : FxPair, pair.base ≠ pair.quote →
        (spot.serve (.set given rate)).direct? pair =
          if given = pair then some rate.value
          else if given = pair.inverse then some inverse
          else spot.direct? pair := by
  obtain ⟨inverse, divided, done⟩ := set_taken spot given taken
  refine ⟨inverse, divided, fun pair differ => ?_⟩
  have turned : given.inverse = pair ↔ given = pair.inverse :=
    ⟨fun same => same ▸ rfl, fun same => same ▸ rfl⟩
  simp only [serve, done, direct?, if_neg differ, Table.get?_insert, turned]
  by_cases same : given = pair
  · have notTurned : given ≠ pair.inverse := by
      intro both
      exact differ (congrArg FxPair.base (same.symm.trans both))
    rw [if_neg notTurned, if_pos same, if_pos same]
  · rw [if_neg same, if_neg same]

/-! ## The requests so far -/

theorem serveAll_anchor (spot : Spot) (requests : List Request) :
    (spot.serveAll requests).anchor = lastAnchor spot.anchor requests := by
  induction requests using List.reverseRecOn with
  | nil => rfl
  | append_singleton requests request inductionHypothesis =>
    rw [serveAll_append_singleton]
    cases request with
    | anchor currency => simp [serve, lastAnchor, Request.anchor?]
    | set pair rate =>
      have kept : ((spot.serveAll requests).serve (.set pair rate)).anchor =
          (spot.serveAll requests).anchor := by
        by_cases refused : rate.value ≤ 0
        · rw [serve_refused _ _ refused]
        · obtain ⟨inverse, -, done⟩ := set_taken (spot.serveAll requests) pair refused
          simp only [serve, done]
      rw [kept, inductionHypothesis]
      simp [lastAnchor, Request.anchor?]

/-- Only a setting of the same two currencies comes after the last one. -/
private theorem lastSetting?_append_singleton (requests : List Request) (request : Request)
    (pair : FxPair) :
    lastSetting? (requests ++ [request]) pair =
      match request.setting? with
      | some setting =>
        if setting.1 = pair ∨ setting.1 = pair.inverse then some setting
        else lastSetting? requests pair
      | none => lastSetting? requests pair := by
  unfold lastSetting?
  rw [List.filterMap_append, List.filter_append]
  cases taken : request.setting? with
  | none => simp [taken]
  | some setting =>
    by_cases concerned : setting.1 = pair ∨ setting.1 = pair.inverse
    · simp [taken, concerned]
    · simp [taken, concerned]

/-- The last setting was taken, and concerns the pair. -/
theorem of_lastSetting? {requests : List Request} {pair given : FxPair} {rate : Decimal}
    (last : lastSetting? requests pair = some (given, rate)) :
    0 < rate.toRat ∧ (given = pair ∨ given = pair.inverse) := by
  obtain ⟨member, concerned⟩ := List.mem_filter.1 (List.mem_of_getLast? last)
  obtain ⟨request, -, taken⟩ := List.mem_filterMap.1 member
  refine ⟨?_, of_decide_eq_true concerned⟩
  cases request with
  | anchor currency => cases taken
  | set pair rate =>
    by_cases refused : rate.value ≤ 0
    · simp [Request.setting?, refused] at taken
    · simp only [Request.setting?, if_neg refused, Option.some.injEq, Prod.mk.injEq] at taken
      exact taken.2 ▸ pos_of_not_le refused

theorem lastSetting?_inverse (requests : List Request) (pair : FxPair) :
    lastSetting? requests pair.inverse = lastSetting? requests pair := by
  unfold lastSetting?
  congr 2
  funext setting
  exact decide_eq_decide.2 or_comm

/-! ## What a table remembers -/

private theorem quoted_congr {requests requests' : List Request} {pair : FxPair}
    (alike : lastSetting? requests pair = lastSetting? requests' pair) {rate : Decimal} :
    Quoted requests pair rate ↔ Quoted requests' pair rate := by
  constructor
  · rintro (same | ⟨differ, last⟩ | ⟨differ, last, divided⟩)
    · exact .same same
    · exact .given differ (alike ▸ last)
    · exact .inverted differ (alike ▸ last) divided
  · rintro (same | ⟨differ, last⟩ | ⟨differ, last, divided⟩)
    · exact .same same
    · exact .given differ (alike.symm ▸ last)
    · exact .inverted differ (alike.symm ▸ last) divided

private theorem inverse_ne {pair : FxPair} (differ : pair.base ≠ pair.quote) :
    pair.inverse ≠ pair := by
  intro same
  exact differ (congrArg FxPair.quote same)

private theorem quoted_of_given {requests : List Request} {pair : FxPair} {last rate : Decimal}
    (differ : pair.base ≠ pair.quote) (lastIs : lastSetting? requests pair = some (pair, last)) :
    Quoted requests pair rate ↔ last = rate := by
  constructor
  · rintro (same | ⟨-, given⟩ | ⟨-, given, -⟩)
    · exact absurd same differ
    · rw [lastIs] at given
      cases given
      rfl
    · rw [lastIs] at given
      exact absurd (congrArg Prod.fst (Option.some.inj given)).symm (inverse_ne differ)
  · rintro rfl
    exact .given differ lastIs

private theorem quoted_of_inverted {requests : List Request} {pair : FxPair}
    {last inverse rate : Decimal} (differ : pair.base ≠ pair.quote)
    (lastIs : lastSetting? requests pair = some (pair.inverse, last))
    (inverseIs : Decimal.div 1 last = .ok inverse) :
    Quoted requests pair rate ↔ inverse = rate := by
  constructor
  · rintro (same | ⟨-, given⟩ | ⟨-, given, divided⟩)
    · exact absurd same differ
    · rw [lastIs] at given
      exact absurd (congrArg Prod.fst (Option.some.inj given)) (inverse_ne differ)
    · rw [lastIs] at given
      cases given
      exact Except.ok.inj (inverseIs.symm.trans divided)
  · rintro rfl
    exact .inverted differ lastIs inverseIs

/-- Both directions of the last setting are quoted. -/
theorem exists_quoted_iff {requests : List Request} {pair : FxPair} :
    (∃ rate, Quoted requests pair rate) ↔
      pair.base = pair.quote ∨ (lastSetting? requests pair).isSome := by
  constructor
  · rintro ⟨rate, same | ⟨differ, last⟩ | ⟨differ, last, -⟩⟩
    · exact .inl same
    · simp [last]
    · simp [last]
  · intro known
    by_cases same : pair.base = pair.quote
    · exact ⟨1, .same same⟩
    · obtain ⟨⟨given, rate⟩, last⟩ := Option.isSome_iff_exists.1 (known.resolve_left same)
      obtain ⟨positive, rfl | rfl⟩ := of_lastSetting? last
      · exact ⟨rate, .given same last⟩
      · obtain ⟨inverse, divided⟩ := exists_inverse positive
        exact ⟨inverse, .inverted same last divided⟩

/-- A pair is quoted if the opposite one is. -/
theorem forall_not_quoted_inverse {requests : List Request} {pair : FxPair} :
    (∀ rate, ¬Quoted requests pair.inverse rate) ↔ ∀ rate, ¬Quoted requests pair rate := by
  rw [← not_exists, ← not_exists, exists_quoted_iff, exists_quoted_iff, lastSetting?_inverse]
  exact not_congr (or_congr_left eq_comm)

/-- Without crossing, a table knows what the requests tell. -/
theorem direct?_serveAll (anchor : Currency) (requests : List Request) (pair : FxPair)
    (rate : Decimal) :
    (serveAll { anchor } requests).direct? pair = some rate ↔ Quoted requests pair rate := by
  by_cases same : pair.base = pair.quote
  · rw [direct?, if_pos same]
    constructor
    · intro one
      cases one
      exact .same same
    · rintro (same' | ⟨differ, -⟩ | ⟨differ, -, -⟩)
      · rfl
      · exact absurd same differ
      · exact absurd same differ
  induction requests using List.reverseRecOn with
  | nil =>
    rw [serveAll, List.foldl_nil, direct?, if_neg same]
    constructor
    · intro found
      simp at found
    · rintro (same' | ⟨-, last⟩ | ⟨-, last, -⟩)
      · exact absurd same' same
      · cases last
      · cases last
  | append_singleton requests request inductionHypothesis =>
    rw [serveAll_append_singleton]
    have remembered := lastSetting?_append_singleton requests request pair
    cases request with
    | anchor currency =>
      rw [quoted_congr remembered, ← inductionHypothesis]
      rfl
    | set given value =>
      by_cases refused : value.value ≤ 0
      · rw [Request.setting?, if_pos refused] at remembered
        rw [quoted_congr remembered, serve_refused _ _ refused, inductionHypothesis]
      · rw [Request.setting?, if_neg refused] at remembered
        obtain ⟨inverse, divided, direct⟩ :=
          direct?_serve_set (serveAll { anchor } requests) given refused
        dsimp only at remembered
        rw [direct pair same]
        by_cases onward : given = pair
        · subst onward
          rw [if_pos (.inl rfl)] at remembered
          rw [if_pos rfl, quoted_of_given same remembered, Option.some.injEq]
        by_cases backward : given = pair.inverse
        · subst backward
          rw [if_pos (.inr rfl)] at remembered
          rw [if_neg onward, if_pos rfl, quoted_of_inverted same remembered divided,
            Option.some.injEq]
        · rw [if_neg (not_or.2 ⟨onward, backward⟩)] at remembered
          rw [if_neg onward, if_neg backward, quoted_congr remembered, inductionHypothesis]

theorem Quoted.unique {requests : List Request} {pair : FxPair} {rate rate' : Decimal}
    (found : Quoted requests pair rate) (found' : Quoted requests pair rate') : rate = rate' := by
  have direct := (direct?_serveAll pair.base requests pair rate).2 found
  rw [(direct?_serveAll pair.base requests pair rate').2 found'] at direct
  exact (Option.some.inj direct).symm

/-- A table that knows what the requests tell answers as they tell. -/
private theorem rate?_iff_of_direct? {spot : Spot} {requests : List Request}
    (knows : ∀ pair rate, spot.direct? pair = some rate ↔ Quoted requests pair rate)
    (pair : FxPair) (answer : Except Decimal.Error (Option Decimal)) :
    spot.rate? pair = answer ↔ Told requests spot.anchor pair answer := by
  have unknown (pair : FxPair) :
      spot.direct? pair = none ↔ ∀ rate, ¬Quoted requests pair rate := by
    rw [Option.eq_none_iff_forall_ne_some]
    exact forall_congr' fun rate => not_congr (knows pair rate)
  constructor
  · rintro rfl
    unfold rate?
    cases direct : spot.direct? pair with
    | some rate => exact .quoted ((knows pair rate).1 direct)
    | none =>
      have unset := (unknown pair).1 direct
      cases inward : spot.direct? ⟨pair.base, spot.anchor⟩ with
      | none => exact .none unset (.inl ((unknown _).1 inward))
      | some legIn =>
        cases outward : spot.direct? ⟨spot.anchor, pair.quote⟩ with
        | none => exact .none unset (.inr ((unknown _).1 outward))
        | some legOut => exact .crossed unset ((knows _ _).1 inward) ((knows _ _).1 outward)
  · rintro (found | ⟨unset, inward, outward⟩ | ⟨unset, apart⟩)
    · rw [rate?, (knows _ _).2 found]
      rfl
    · rw [rate?, (unknown _).2 unset, (knows _ _).2 inward, (knows _ _).2 outward]
    · rw [rate?, (unknown _).2 unset]
      rcases apart with inward | outward
      · rw [(unknown _).2 inward]
        rfl
      · rw [(unknown _).2 outward]
        cases spot.direct? ⟨pair.base, spot.anchor⟩ <;> rfl

/-- Whether a pair has an answer does not depend on its direction. -/
private theorem told_none_inverse {requests : List Request} {anchor : Currency} {pair : FxPair}
    (told : Told requests anchor pair (.ok none)) : Told requests anchor pair.inverse (.ok none) := by
  generalize answerIs : (.ok none : Except Decimal.Error (Option Decimal)) = answer at told
  cases told with
  | quoted found => cases answerIs
  | crossed unset inward outward =>
    obtain ⟨product, -, some⟩ := Outcome.map_ok.1 answerIs.symm
    cases some
  | none unset apart =>
    refine .none (forall_not_quoted_inverse.2 unset) ?_
    rcases apart with inward | outward
    · exact .inr (forall_not_quoted_inverse.2 inward)
    · exact .inl (forall_not_quoted_inverse.2 outward)

/-- Only the product of two legs can fail. -/
private theorem told_error {requests : List Request} {anchor : Currency} {pair : FxPair}
    {error : Decimal.Error} (told : Told requests anchor pair (.error error)) :
    error = .overflow .multiplication := by
  generalize answerIs : (.error error : Except Decimal.Error (Option Decimal)) = answer at told
  cases told with
  | quoted found => cases answerIs
  | none unset apart => cases answerIs
  | @crossed legIn legOut unset inward outward =>
    cases product : legIn.mul legOut with
    | ok rate =>
      rw [product] at answerIs
      cases answerIs
    | error failure =>
      rw [product] at answerIs
      rw [Except.error.inj answerIs]
      exact Decimal.fitted_error product

/-- **What a table remembers.** Whatever the requests were, the anchor is the one last assigned, and
the answer to every pair is the one the requests tell; only the product of two legs can leave the
range of decimals. A rate is refused exactly when it is not above zero, and then nothing changes. A
pair has no rate exactly when the opposite one has none. -/
theorem answers_serveAll (first : Currency) (requests : List Request) :
    (serveAll { anchor := first } requests).anchor = lastAnchor first requests ∧
      (∀ pair answer, (serveAll { anchor := first } requests).rate? pair = answer ↔
        Told requests (lastAnchor first requests) pair answer) ∧
      (∀ pair error, (serveAll { anchor := first } requests).rate? pair = .error error →
        error = .overflow .multiplication) ∧
      (∀ pair rate,
        ((∃ error, (serveAll { anchor := first } requests).set pair rate = .error error) ↔
          rate.value ≤ 0) ∧
        (rate.value ≤ 0 →
          serveAll { anchor := first } (requests ++ [.set pair rate]) =
            serveAll { anchor := first } requests)) ∧
      ∀ pair, (serveAll { anchor := first } requests).rate? pair = .ok none ↔
        (serveAll { anchor := first } requests).rate? pair.inverse = .ok none := by
  have anchorIs := serveAll_anchor { anchor := first } requests
  have told := rate?_iff_of_direct? (direct?_serveAll first requests)
  rw [anchorIs] at told
  refine ⟨anchorIs, told, ?_, ?_, ?_⟩
  · intro pair error failed
    exact told_error ((told _ _).1 failed)
  · intro pair rate
    refine ⟨set_error_iff _ _ _, ?_⟩
    intro refused
    rw [serveAll_append_singleton, serve_refused _ _ refused]
  · intro pair
    rw [told, told]
    exact ⟨told_none_inverse, told_none_inverse⟩

/-- Two steep rates: ten to the fifteenth, and ten to the fourteenth. -/
private def steep : List Request :=
  [.set ⟨⟨"EUR"⟩, ⟨"USD"⟩⟩ (Projection.figure false 1000000000000000),
    .set ⟨⟨"USD"⟩, ⟨"JPY"⟩⟩ (Projection.figure false 100000000000000)]

/-- The requests tell of a crossed rate, and a rate of zero changes nothing. -/
theorem answers_serveAll_steep :
    Told steep ⟨"USD"⟩ ⟨⟨"JPY"⟩, ⟨"EUR"⟩⟩ (.ok (some 0)) ∧
      (0 : Figure).value ≤ 0 ∧
      serveAll { anchor := ⟨"USD"⟩ } (steep ++ [.set ⟨⟨"EUR"⟩, ⟨"USD"⟩⟩ 0]) =
        serveAll { anchor := ⟨"USD"⟩ } steep := by
  obtain ⟨-, told, -, refused, -⟩ := answers_serveAll ⟨"USD"⟩ steep
  have zero : (0 : Figure).value ≤ 0 := by decide +kernel
  exact ⟨(told _ _).1 (by decide +kernel), zero, (refused _ _).2 zero⟩

/-- The product of two legs leaves the range in one direction, while it is rounded to zero in the
other one. -/
theorem rate?_overflows_one_way :
    (serveAll { anchor := ⟨"USD"⟩ } steep).rate? ⟨⟨"JPY"⟩, ⟨"EUR"⟩⟩ = .ok (some 0) ∧
      (serveAll { anchor := ⟨"USD"⟩ } steep).rate? ⟨⟨"EUR"⟩, ⟨"JPY"⟩⟩ =
        .error (.overflow .multiplication) := by
  decide +kernel

/-! ## Rates that are rounded to zero -/

/-- What is fitted is zero exactly when at most half a unit of the last place was there. -/
private theorem fit_pos_iff {number : Rat} {result : Decimal} (nonneg : 0 ≤ number)
    (fit : Rounding.fit number = some result) :
    0 ≤ result.toRat ∧ (0 < result.toRat ↔ 1 / 2 / 10 ^ 28 < number) := by
  have resultNonneg : 0 ≤ result.toRat := Rounding.fit_nonneg nonneg fit
  refine ⟨resultNonneg, ?_⟩
  rw [lt_iff_le_and_ne, and_iff_right resultNonneg, ← not_le, ne_comm, ne_eq,
    Decimal.toRat_eq_zero, Decimal.nearest?_eq_zero_iff fit, abs_of_nonneg nonneg]

/-- A quoted rate is zero exactly when it is the inverse of a rate so large that it vanishes. -/
private theorem quoted_pos_iff {requests : List Request} {pair : FxPair} {rate : Decimal}
    (found : Quoted requests pair rate) :
    0 ≤ rate.toRat ∧
      (0 < rate.toRat ↔
        pair.base = pair.quote ∨ (∃ given, lastSetting? requests pair = some (pair, given)) ∨
          ∃ given : Decimal, lastSetting? requests pair = some (pair.inverse, given) ∧
            given.toRat < 2 * 10 ^ 28) := by
  cases found with
  | same alike => simp [alike]
  | given differ last =>
    have positive := (of_lastSetting? last).1
    exact ⟨positive.le, iff_of_true positive (.inr (.inl ⟨_, last⟩))⟩
  | @inverted given quotient differ last divided =>
    have positive := (of_lastSetting? last).1
    obtain ⟨-, fit⟩ := Decimal.div_ok.1 divided
    rw [Decimal.toRat_one] at fit
    obtain ⟨nonneg, vanishes⟩ := fit_pos_iff (by positivity) fit
    refine ⟨nonneg, vanishes.trans ?_⟩
    have large : 1 / 2 / 10 ^ 28 < 1 / given.toRat ↔ given.toRat < 2 * 10 ^ 28 := by
      rw [lt_div_iff₀ positive]
      constructor <;> intro bound <;> linarith
    rw [large]
    constructor
    · intro bound
      exact .inr (.inr ⟨given, last, bound⟩)
    · rintro (same | ⟨other, last'⟩ | ⟨other, last', bound⟩)
      · exact absurd same differ
      · rw [last] at last'
        exact absurd (congrArg Prod.fst (Option.some.inj last')) (inverse_ne differ)
      · rw [last] at last'
        cases last'
        exact bound

/-- A balance is converted at the rate of its pair. -/
theorem convert_ok_iff_mul [Rounding] {spot : Spot} {pair : FxPair} {rate : Decimal}
    (answered : spot.rate? pair = .ok (some rate)) {amount value : Decimal} :
    spot.convert amount pair = .ok value ↔ amount.mul rate = .ok value := by
  have found : spot.quotes.rate pair = .ok rate :=
    Outcome.bind_ok.2 ⟨some rate, Outcome.liftIntoConversion_ok.2 answered, rfl⟩
  rw [convert, Quotes.convert, found]
  exact Outcome.liftIntoConversion_ok

/-- A rate is quoted, or else it is the product of two legs. -/
private theorem of_told_some {requests : List Request} {anchor : Currency} {pair : FxPair}
    {rate : Decimal} (told : Told requests anchor pair (.ok (some rate))) :
    Quoted requests pair rate ∨
      ∃ legIn legOut : Decimal, (∀ other, ¬Quoted requests pair other) ∧
        Quoted requests ⟨pair.base, anchor⟩ legIn ∧ Quoted requests ⟨anchor, pair.quote⟩ legOut ∧
        legIn.mul legOut = .ok rate := by
  generalize answerIs : (.ok (some rate) : Except Decimal.Error (Option Decimal)) = answer at told
  cases told with
  | quoted found =>
    cases answerIs
    exact .inl found
  | crossed unset inward outward =>
    obtain ⟨product, multiplied, same⟩ := Outcome.map_ok.1 answerIs.symm
    cases same
    exact .inr ⟨_, _, unset, inward, outward, multiplied⟩
  | none unset apart => cases answerIs

private theorem mul_eq_zero_iff {left right : Decimal} :
    left.mul right = .ok 0 ↔ |left.toRat * right.toRat| ≤ 1 / 2 / 10 ^ 28 := by
  constructor
  · intro product
    exact (Decimal.nearest?_eq_zero_iff (Decimal.mul_ok.1 product)).1 rfl
  · intro small
    obtain ⟨result, fit⟩ := Rounding.exists_fit_of_le (small.trans (by norm_num))
    obtain rfl := (Decimal.nearest?_eq_zero_iff fit).2 small
    exact Decimal.mul_ok.2 fit

/-- **Where a rate vanishes.** A rate that a table answers is never below zero. It is above zero
unless it is the stored inverse of a rate of twice ten to the twenty-eighth or more, or else crossed
from two legs whose exact product is no more than half a unit of the last place. A balance is
converted to zero exactly when its exact worth at the rate is no more than that. -/
theorem rate_pos_iff_serveAll {first : Currency} {requests : List Request} {pair : FxPair}
    {rate : Decimal}
    (answered : (serveAll { anchor := first } requests).rate? pair = .ok (some rate)) :
    0 ≤ rate.toRat ∧
      (0 < rate.toRat ↔
        (pair.base = pair.quote ∨ (∃ given, lastSetting? requests pair = some (pair, given)) ∨
          ∃ given : Decimal, lastSetting? requests pair = some (pair.inverse, given) ∧
            given.toRat < 2 * 10 ^ 28) ∨
          ∃ legIn legOut : Decimal, (∀ other, ¬Quoted requests pair other) ∧
            Quoted requests ⟨pair.base, lastAnchor first requests⟩ legIn ∧
            Quoted requests ⟨lastAnchor first requests, pair.quote⟩ legOut ∧
            1 / 2 / 10 ^ 28 < legIn.toRat * legOut.toRat) ∧
      ∀ amount : Decimal,
        (serveAll { anchor := first } requests).convert amount pair = .ok 0 ↔
          |amount.toRat * rate.toRat| ≤ 1 / 2 / 10 ^ 28 := by
  have told := (rate?_iff_of_direct? (direct?_serveAll first requests) pair _).1 answered
  rw [serveAll_anchor] at told
  rw [← and_assoc]
  refine ⟨?_, fun amount => (convert_ok_iff_mul answered).trans mul_eq_zero_iff⟩
  rcases of_told_some told with found | ⟨legIn, legOut, unset, inward, outward, multiplied⟩
  · obtain ⟨nonneg, positive⟩ := quoted_pos_iff found
    refine ⟨nonneg, positive.trans (or_iff_left ?_).symm⟩
    rintro ⟨_, _, unset, -⟩
    exact unset rate found
  · have nonneg : 0 ≤ legIn.toRat * legOut.toRat :=
      mul_nonneg (quoted_pos_iff inward).1 (quoted_pos_iff outward).1
    obtain ⟨rateNonneg, positive⟩ := fit_pos_iff nonneg (Decimal.mul_ok.1 multiplied)
    refine ⟨rateNonneg, positive.trans ?_⟩
    constructor
    · intro bound
      exact .inr ⟨legIn, legOut, unset, inward, outward, bound⟩
    · rintro (known | ⟨legIn', legOut', -, inward', outward', bound⟩)
      · have known : pair.base = pair.quote ∨ (lastSetting? requests pair).isSome := by
          rcases known with same | ⟨given, last⟩ | ⟨given, last, -⟩
          · exact .inl same
          · simp [last]
          · simp [last]
        obtain ⟨other, found⟩ := exists_quoted_iff.2 known
        exact absurd found (unset other)
      · rwa [inward.unique inward', outward.unique outward']

/-- Cash in a currency whose crossed rate vanished is worth nothing. -/
theorem rate_pos_iff_serveAll_steep :
    (serveAll { anchor := ⟨"USD"⟩ } steep).rate? ⟨⟨"JPY"⟩, ⟨"EUR"⟩⟩ = .ok (some 0) ∧
      ((serveAll { anchor := ⟨"USD"⟩ } steep).convert (Projection.whole 1000000)
          ⟨⟨"JPY"⟩, ⟨"EUR"⟩⟩ = .ok 0 ↔
        |(Projection.whole 1000000).toRat * (0 : Decimal).toRat| ≤ 1 / 2 / 10 ^ 28) := by
  have answered :
      (serveAll { anchor := ⟨"USD"⟩ } steep).rate? ⟨⟨"JPY"⟩, ⟨"EUR"⟩⟩ = .ok (some 0) := by
    decide +kernel
  exact ⟨answered, (rate_pos_iff_serveAll answered).2.2 _⟩

/-- A table holds the zero inverse of a rate of five times ten to the twenty-eighth, and crosses two
other currencies at zero. All of the cash is then worth nothing, and nothing fails. -/
theorem convert_eq_zero_vanished :
    (serveAll { anchor := ⟨"USD"⟩ }
        [.set ⟨⟨"EUR"⟩, ⟨"USD"⟩⟩ ⟨false, 5 * 10 ^ 28, 0, by decide, by decide⟩]).rate?
          ⟨⟨"USD"⟩, ⟨"EUR"⟩⟩ = .ok (some 0) ∧
      (serveAll { anchor := ⟨"USD"⟩ } steep).rate? ⟨⟨"JPY"⟩, ⟨"EUR"⟩⟩ = .ok (some 0) ∧
      (serveAll { anchor := ⟨"USD"⟩ } steep).convert (Projection.whole 1000000)
        ⟨⟨"JPY"⟩, ⟨"EUR"⟩⟩ = .ok 0 := by
  decide +kernel

end Spot

end Collateral

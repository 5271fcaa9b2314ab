import Collateral.Margin
import Collateral.Proofs.Level
import Collateral.Proofs.Outcome

/-!
Contract: the worth and the margin of a book as its domestic balance moves.

A book is worth what its balances convert to. Its margin looks at the foreign balances that are not
flat, and at the domestic one. The latter is one bucket among the others, so the laws of the charge
as the worth of one bucket moves are laws of the margin as domestic cash moves.

Owns: the worth of balances, the buckets of a book whose domestic balance has been set, and the
distance of the total and the margin from exact numbers.
-/

namespace Collateral

/-! ## Tables with an entry set -/

/-- Setting an entry puts it among those of the other keys. -/
theorem Table.place_perm {κ α : Type} [DecidableEq κ] (key : κ) (value : α)
    {entries : List (κ × α)} (distinct : (entries.map Prod.fst).Nodup) :
    (Table.place key value entries).Perm
      ((key, value) :: entries.filter fun entry => entry.1 ≠ key) := by
  induction entries with
  | nil => exact .refl _
  | cons head rest inductionHypothesis =>
    obtain ⟨headApart, restDistinct⟩ := List.nodup_cons.1 distinct
    unfold place
    split
    next same =>
      have others : rest.filter (fun entry => entry.1 ≠ key) = rest := by
        apply List.filter_eq_self.2
        intro entry member
        have apart : entry.1 ≠ key := fun alike =>
          headApart (same ▸ alike ▸ List.mem_map_of_mem member)
        simpa using apart
      rw [List.filter_cons_of_neg (by simpa using same), others]
    next differs =>
      rw [List.filter_cons_of_pos (by simpa using differs)]
      exact ((inductionHypothesis restDistinct).cons head).trans (.swap _ _ _)

/-- A sum over all entries, with that of one key taken out. -/
theorem Table.sum_eq_add_sum_filter {κ α : Type} [DecidableEq κ] (key : κ) (amount : κ × α → Rat)
    {entries : List (κ × α)} (distinct : (entries.map Prod.fst).Nodup) :
    (entries.map amount).sum = (entries.find? (·.1 = key)).elim 0 amount +
      ((entries.filter fun entry => entry.1 ≠ key).map amount).sum := by
  induction entries with
  | nil => simp
  | cons head rest inductionHypothesis =>
    obtain ⟨headApart, restDistinct⟩ := List.nodup_cons.1 distinct
    by_cases same : head.1 = key
    · have others : rest.filter (fun entry => entry.1 ≠ key) = rest := by
        apply List.filter_eq_self.2
        intro entry member
        have apart : entry.1 ≠ key := fun alike =>
          headApart (same ▸ alike ▸ List.mem_map_of_mem member)
        simpa using apart
      rw [List.filter_cons_of_neg (by simpa using same), others, List.find?_cons_of_pos (by simpa)]
      simp
    · rw [List.filter_cons_of_pos (by simpa using same), List.find?_cons_of_neg (by simpa),
        List.map_cons, List.sum_cons, inductionHypothesis restDistinct, List.map_cons,
        List.sum_cons]
      ring

namespace Book

/-- What the entry of a currency adds to a sum is what its balance adds, if zero adds nothing. -/
theorem elim_find? (book : Book) (currency : Currency) {amount : Currency × Decimal → Rat}
    (nothing : amount (currency, 0) = 0) :
    (book.balances.entries.find? (·.1 = currency)).elim 0 amount =
      amount (currency, book.balance currency) := by
  unfold balance Table.get?
  cases found : book.balances.entries.find? (·.1 = currency) with
  | none => exact nothing.symm
  | some entry =>
    obtain ⟨other, number⟩ := entry
    obtain rfl : other = currency := by simpa using List.find?_some found
    rfl

/-- A sum over all balances: that of one currency, and of the others those that are not flat and
those that are. -/
theorem sum_eq_add (book : Book) (currency : Currency) {amount : Currency × Decimal → Rat}
    (nothing : amount (currency, 0) = 0) :
    (book.balances.entries.map amount).sum = amount (currency, book.balance currency) +
      (((book.balances.entries.filter fun entry =>
          entry.1 ≠ currency && !Margin.isFlat entry.2).map amount).sum +
        ((book.balances.entries.filter fun entry =>
          entry.1 ≠ currency && Margin.isFlat entry.2).map amount).sum) := by
  have sides := ((List.filter_append_perm (fun entry : Currency × Decimal => !Margin.isFlat entry.2)
    (book.balances.entries.filter fun entry => entry.1 ≠ currency)).map amount).sum_eq
  rw [List.map_append, List.sum_append, List.filter_filter, List.filter_filter] at sides
  simp only [Bool.and_comm (Margin.isFlat _), Bool.and_comm (!Margin.isFlat _), Bool.not_not]
    at sides
  rw [Table.sum_eq_add_sum_filter currency amount book.balances.distinct,
    book.elim_find? currency nothing, sides]

end Book

/-! ## Rates -/

namespace Haircuts

/-- The highest haircut of a table. -/
def highest (table : Haircuts) : Rat :=
  (table.rates.values.map Decimal.toRat).foldr max table.default.toRat

private theorem le_foldr_max (start : Rat) (numbers : List Rat) :
    start ≤ numbers.foldr max start ∧ ∀ number ∈ numbers, number ≤ numbers.foldr max start := by
  induction numbers with
  | nil => simp
  | cons head rest inductionHypothesis =>
    refine ⟨le_max_of_le_right inductionHypothesis.1, List.forall_mem_cons.2
      ⟨le_max_left _ _, fun number member => ?_⟩⟩
    exact le_max_of_le_right (inductionHypothesis.2 number member)

/-- Every haircut of a table lies between zero and the highest one. -/
theorem rate_bounds (table : Haircuts) (pair : FxPair) :
    0 ≤ (table.rate pair).toRat ∧ (table.rate pair).toRat ≤ table.highest := by
  obtain ⟨defaultLe, ratesLe⟩ := le_foldr_max table.default.toRat
    (table.rates.values.map Decimal.toRat)
  unfold rate Table.get?
  cases found : table.rates.entries.find? (·.1 = pair) with
  | none => exact ⟨by simpa using Decimal.le_iff.1 table.default_nonneg, defaultLe⟩
  | some entry =>
    have member := List.mem_of_find?_eq_some found
    refine ⟨by simpa using Decimal.le_iff.1 (table.rates_nonneg entry member), ratesLe _ ?_⟩
    exact List.mem_map_of_mem (List.mem_map_of_mem member)

theorem highest_nonneg (table : Haircuts) : 0 ≤ table.highest :=
  (table.rate_bounds ⟨⟨""⟩, ⟨""⟩⟩).1.trans (table.rate_bounds _).2

private theorem empty_nonneg :
    ∀ entry ∈ (Table.empty : Table FxPair Decimal).entries, 0 ≤ entry.2 :=
  List.forall_mem_nil _

/-- A table that publishes nothing, so that its default counts for every pair. -/
def uniform (broker : BrokerId) (default : Decimal) (nonneg : 0 ≤ default) : Haircuts :=
  ⟨broker, default, .empty, nonneg, empty_nonneg⟩

end Haircuts

private theorem abs_sum_map_le {α : Type} (amount : α → Rat) (entries : List α) :
    |(entries.map amount).sum| ≤ (entries.map fun entry => |amount entry|).sum := by
  induction entries with
  | nil => simp
  | cons entry entries inductionHypothesis =>
    rw [List.map_cons, List.sum_cons, List.map_cons, List.sum_cons]
    exact (abs_add_le _ _).trans (by linarith)

section Worth

variable [Rounding]

/-! ## What balances are worth -/

/-- The domestic worth of a balance; nothing, where it cannot be converted. -/
def worthOf (spot : Quotes) (domestic : Currency) (entry : Currency × Decimal) : Rat :=
  match spot.convert entry.2 ⟨entry.1, domestic⟩ with
  | .ok value => value.toRat
  | .error _ => 0

namespace Book

/-- The worth of all balances. -/
def worth (book : Book) (spot : Quotes) (domestic : Currency) : Rat :=
  (book.balances.entries.map (worthOf spot domestic)).sum

/-- The worth of all balances, whatever their sign. -/
def gross (book : Book) (spot : Quotes) (domestic : Currency) : Rat :=
  (book.balances.entries.map fun entry => |worthOf spot domestic entry|).sum

/-- The worth of the foreign balances that are flat, whatever their sign. -/
def flatWorth (book : Book) (spot : Quotes) (domestic : Currency) : Rat :=
  ((book.balances.entries.filter fun entry => entry.1 ≠ domestic && Margin.isFlat entry.2).map
    fun entry => |worthOf spot domestic entry|).sum

theorem gross_nonneg (book : Book) (spot : Quotes) (domestic : Currency) :
    0 ≤ book.gross spot domestic := by
  apply List.sum_nonneg
  intro size member
  obtain ⟨entry, -, rfl⟩ := List.mem_map.1 member
  exact abs_nonneg _

theorem abs_worthOf_le_gross {book : Book} {spot : Quotes} {domestic : Currency}
    {entry : Currency × Decimal} (member : entry ∈ book.balances.entries) :
    |worthOf spot domestic entry| ≤ book.gross spot domestic := by
  refine List.single_le_sum (fun size sizeMember => ?_) _ (List.mem_map.2 ⟨entry, member, rfl⟩)
  obtain ⟨other, -, rfl⟩ := List.mem_map.1 sizeMember
  exact abs_nonneg _

theorem abs_worth_le_gross (book : Book) (spot : Quotes) (domestic : Currency) :
    |book.worth spot domestic| ≤ book.gross spot domestic :=
  abs_sum_map_le _ _

theorem flatWorth_nonneg (book : Book) (spot : Quotes) (domestic : Currency) :
    0 ≤ book.flatWorth spot domestic := by
  apply List.sum_nonneg
  intro size member
  obtain ⟨entry, -, rfl⟩ := List.mem_map.1 member
  exact abs_nonneg _

end Book

theorem worthOf_ok {spot : Quotes} {domestic currency : Currency} {amount value : Decimal}
    (converted : spot.convert amount ⟨currency, domestic⟩ = .ok value) :
    worthOf spot domestic (currency, amount) = value.toRat := by
  simp [worthOf, converted]

variable {grain : Rat} [Rounding.Lawful grain]

/-- The total of a book is its worth, but for one rounding for every balance, in whatever order the
balances are added up. -/
theorem Book.near_totalIn [SummationOrder] {book : Book} {domestic : Currency} {spot : Quotes}
    {total : Decimal} (totaled : book.totalIn domestic spot = .ok total) :
    Near grain book.balances.entries.length (1 + book.gross spot domestic) total.toRat
      (book.worth spot domestic) := by
  have grainNonneg : 0 ≤ grain := Rounding.Lawful.grain_nonneg
  have near := Decimal.near_foldlM (worthOf spot domestic)
    (fun entry => |worthOf spot domestic entry|) (fun entry _ total next stepped => ?_)
    (fun _ _ => le_rfl) (Nat.le_refl 0) (by simp) (Near.zero grainNonneg zero_le_one 0) totaled
  · -- The exact sums do not see the order.
    have arranged := book.summands_perm
    rwa [zero_add, zero_add, arranged.length_eq, (arranged.map _).sum_eq,
      (arranged.map (worthOf spot domestic)).sum_eq] at near
  · obtain ⟨value, converted, added⟩ := Outcome.bind_ok.1 stepped
    refine ⟨value, Outcome.liftIntoConversion_ok.1 added, ?_⟩
    rw [show entry = (entry.1, entry.2) from rfl, worthOf_ok converted]
    exact Near.refl grain _ _

/-! ## The domestic currency -/

/-- The domestic currency is worth one of itself. -/
def Terms.AtPar (terms : Terms) : Prop :=
  terms.spot.rate? ⟨terms.domestic, terms.domestic⟩ = .ok (some 1)

/-- A currency is worth one of itself by every table, whatever rates have been set. -/
theorem Spot.quotes_atPar {terms : Terms} {spot : Spot} (same : terms.spot = spot.quotes) :
    terms.AtPar := by
  rw [Terms.AtPar, same]
  simp [Spot.quotes, Spot.rate?, Spot.direct?, pure, Except.pure]

section Par

variable {terms : Terms}

include grain

theorem Terms.AtPar.convert (par : terms.AtPar) (amount : Decimal) :
    terms.spot.convert amount ⟨terms.domestic, terms.domestic⟩ = .ok amount := by
  have fit : amount.mul 1 = .ok amount := by
    rw [Decimal.mul_ok, Decimal.toRat_one, mul_one]
    exact Rounding.Lawful.fit_toRat amount
  refine Outcome.bind_ok.2 ⟨1, ?_, Outcome.liftIntoConversion_ok.2 fit⟩
  exact Outcome.bind_ok.2 ⟨some 1, Outcome.liftIntoConversion_ok.2 par, rfl⟩

end Par

/-! ## Buckets -/

namespace Margin

theorem bucket_ok {terms : Terms} {currency : Currency} {amount : Decimal} {result : Bucket} :
    bucket terms currency amount = .ok result ↔
      result.currency = currency ∧ result.rate = terms.haircuts.rate ⟨currency, terms.domestic⟩ ∧
        terms.spot.convert amount ⟨currency, terms.domestic⟩ = .ok result.value := by
  simp only [bucket, Outcome.bind_ok, Outcome.liftConversion_ok, Outcome.pure_ok]
  constructor
  · rintro ⟨value, converted, rfl⟩
    exact ⟨rfl, rfl, converted⟩
  · rintro ⟨rfl, rateIs, converted⟩
    exact ⟨_, converted, by rw [← rateIs]⟩

/-- The buckets of the foreign balances that are not flat. -/
def foreign (terms : Terms) (book : Book) : Except Failure (List Bucket) :=
  (book.balances.entries.filter fun entry => entry.1 ≠ terms.domestic && !isFlat entry.2).mapM
    fun (currency, amount) => bucket terms currency amount

/-- What is left of a domestic balance when a flat one is left out. -/
def settled (amount : Decimal) : Rat :=
  if isFlat amount then 0 else amount.toRat

omit [Rounding] in
theorem isFlat_iff {amount : Decimal} : isFlat amount ↔ |amount.toRat| < 1 / 10 ^ 6 := by
  have limit : flatBelow.toRat = 1 / 10 ^ 6 := by
    rw [flatBelow, Figure.value, Decimal.toRat_signed]
    norm_num [Figure.millionth]
  simp only [isFlat, decide_eq_true_eq, Decimal.lt_iff, Decimal.toRat_abs, limit]

omit [Rounding] in
theorem isFlat_zero : isFlat 0 := by
  rw [isFlat_iff, Decimal.toRat_zero, abs_zero]
  positivity

omit [Rounding] in
/-- Leaving out flat balances keeps the order of balances. -/
theorem settled_mono {left right : Decimal} (ordered : left.toRat ≤ right.toRat) :
    settled left ≤ settled right := by
  unfold settled
  split
  next leftFlat =>
    split
    next => exact le_rfl
    next rightLarge =>
      rw [isFlat_iff, abs_lt] at leftFlat
      rw [isFlat_iff, not_lt, le_abs'] at rightLarge
      rcases rightLarge with negative | positive <;> linarith
  next leftLarge =>
    split
    next rightFlat =>
      rw [isFlat_iff, abs_lt] at rightFlat
      rw [isFlat_iff, not_lt, le_abs'] at leftLarge
      rcases leftLarge with negative | positive <;> linarith
    next => exact ordered

omit [Rounding] in
theorem sub_le_settled (amount : Decimal) : amount.toRat - 1 / 10 ^ 6 ≤ settled amount := by
  unfold settled
  split
  next flat =>
    rw [isFlat_iff, abs_lt] at flat
    linarith
  next => linarith

omit [Rounding] in
/-- Leaving out a flat balance moves it by no more than what is flat. -/
theorem settled_near (amount : Decimal) : |settled amount - amount.toRat| ≤ 1 / 10 ^ 6 := by
  unfold settled
  split
  next flat =>
    rw [zero_sub, abs_neg]
    exact (isFlat_iff.1 flat).le
  next =>
    rw [sub_self, abs_zero]
    positivity

/-- The bucket of the domestic balance, its worth left open. -/
def slot (terms : Terms) : Bucket :=
  ⟨terms.domestic, terms.haircuts.rate ⟨terms.domestic, terms.domestic⟩, 0⟩

omit [Rounding] in
theorem slot_rate_bounds (terms : Terms) :
    0 ≤ (slot terms).rate.toRat ∧ (slot terms).rate.toRat ≤ terms.haircuts.highest :=
  terms.haircuts.rate_bounds ⟨terms.domestic, terms.domestic⟩

/-- Every balance has a bucket of its own currency. -/
theorem buckets_distinct {terms : Terms} {book : Book} {results : List Bucket}
    (built : buckets terms book = .ok results) : (results.map Bucket.currency).Nodup := by
  have currencies : results.map Bucket.currency =
      (book.balances.entries.filter fun entry => !isFlat entry.2).map Prod.fst :=
    Outcome.map_of_mapM (fun _ _ done => (bucket_ok.1 done).1) built
  rw [currencies]
  exact book.balances.distinct.sublist (List.filter_sublist.map Prod.fst)

include grain in
/-- The domestic balance is one bucket among those of the foreign balances, unless it is flat. -/
theorem buckets_insert {terms : Terms} (par : terms.AtPar) {book : Book} {balance : Decimal}
    {results : List Bucket}
    (built : buckets terms ⟨book.balances.insert terms.domestic balance⟩ = .ok results) :
    ∃ others, foreign terms book = .ok others ∧
      results.Perm (if isFlat balance then others
        else { slot terms with value := balance } :: others) ∧
      Netting.exactCharge results = Netting.level (slot terms) others (settled balance) := by
  have distinct := buckets_distinct built
  have entries := (Table.place_perm terms.domestic balance book.balances.distinct).filter
    fun entry => !isFlat entry.2
  rw [List.filter_cons, List.filter_filter] at entries
  obtain ⟨arranged, arrangedBuilt, permutation⟩ := Outcome.mapM_perm entries built
  have foreignIs : foreign terms book = (book.balances.entries.filter fun entry =>
      !isFlat entry.2 && decide (entry.1 ≠ terms.domestic)).mapM
        fun (currency, amount) => bucket terms currency amount := by
    simp only [foreign, Bool.and_comm]
  rw [foreignIs]
  by_cases flat : isFlat balance
  · rw [if_neg (by simp [flat])] at arrangedBuilt
    refine ⟨arranged, arrangedBuilt, by rwa [if_pos flat], ?_⟩
    rw [settled, if_pos flat, Netting.exactCharge_perm distinct permutation]
    exact Netting.exactCharge_eq_level (slot terms) arranged
  · rw [if_pos (by simp [flat]), List.mapM_cons] at arrangedBuilt
    obtain ⟨first, firstBuilt, rest⟩ := Outcome.bind_ok.1 arrangedBuilt
    obtain ⟨others, othersBuilt, collected⟩ := Outcome.bind_ok.1 rest
    have firstIs : first = { slot terms with value := balance } := by
      obtain ⟨currencyIs, rateIs, converted⟩ := bucket_ok.1 firstBuilt
      have valueIs := Except.ok.inj ((par.convert balance).symm.trans converted)
      cases first
      simp_all [slot]
    rw [← Outcome.pure_ok.1 collected, firstIs] at permutation
    refine ⟨others, othersBuilt, by rwa [if_neg flat], ?_⟩
    rw [settled, if_neg flat, Netting.exactCharge_perm distinct permutation]
    exact Netting.exactCharge_cons (slot terms) others balance

/-! ## The worth of the buckets -/

section Foreign

variable {terms : Terms} {book : Book} {others : List Bucket}

omit [Rounding.Lawful grain] in
theorem values_foreign (built : foreign terms book = .ok others) :
    others.map (fun bucket => bucket.value.toRat) =
      (book.balances.entries.filter fun entry => entry.1 ≠ terms.domestic && !isFlat entry.2).map
        (worthOf terms.spot terms.domestic) :=
  Outcome.map_of_mapM (fun _ _ done => (worthOf_ok (bucket_ok.1 done).2.2).symm) built

include grain in
/-- The domestic balance is a part of what a book holds. -/
theorem abs_balance_le_gross (par : terms.AtPar) (book : Book) :
    |(book.balance terms.domestic).toRat| ≤ book.gross terms.spot terms.domestic := by
  unfold Book.balance Table.get?
  cases found : book.balances.entries.find? (·.1 = terms.domestic) with
  | none => simpa using book.gross_nonneg terms.spot terms.domestic
  | some entry =>
    obtain ⟨currency, amount⟩ := entry
    obtain rfl : currency = terms.domestic := by simpa using List.find?_some found
    rw [show ((some (terms.domestic, amount)).map Prod.snd).getD 0 = amount from rfl,
      ← worthOf_ok (par.convert amount)]
    exact Book.abs_worthOf_le_gross (List.mem_of_find?_eq_some found)

include grain in
/-- A book is worth its domestic balance and the buckets of the foreign ones, but for those that are
flat. -/
theorem abs_worth_sub_le (par : terms.AtPar) (built : foreign terms book = .ok others) :
    |book.worth terms.spot terms.domestic -
        ((book.balance terms.domestic).toRat + Netting.net others)| ≤
      book.flatWorth terms.spot terms.domestic := by
  have atPar : ∀ amount, worthOf terms.spot terms.domestic (terms.domestic, amount) = amount.toRat :=
    fun amount => worthOf_ok (par.convert amount)
  have nothing : worthOf terms.spot terms.domestic (terms.domestic, 0) = 0 := by
    rw [atPar, Decimal.toRat_zero]
  rw [Netting.net, values_foreign built, Book.worth, book.sum_eq_add terms.domestic nothing, atPar,
    add_sub_add_left_eq_sub, add_sub_cancel_left]
  exact abs_sum_map_le _ _

end Foreign

/-! ## The margin -/

/-- The exact margin of a domestic balance among the buckets of the foreign ones. -/
def exactAt (terms : Terms) (others : List Bucket) (balance : Decimal) : Rat :=
  terms.multiplier.toRat * Netting.level (slot terms) others (settled balance)

/-- The size to which all numbers in a margin keep. -/
def size (terms : Terms) (entries : Nat) (peak : Rat) : Rat :=
  1 + terms.multiplier.toRat * Netting.chargeSize entries terms.haircuts.highest peak

omit [Rounding] in
theorem size_mono {terms : Terms} (multiplierNonneg : 0 ≤ terms.multiplier.toRat) (entries : Nat)
    {low high : Rat} (lowNonneg : 0 ≤ low) (lowLe : low ≤ high) :
    size terms entries low ≤ size terms entries high :=
  add_le_add_right (mul_le_mul_of_nonneg_left
    (Netting.chargeSize_mono terms.haircuts.highest_nonneg lowNonneg le_rfl lowLe)
    multiplierNonneg) 1

omit [Rounding] in
theorem size_nonneg {terms : Terms} (multiplierNonneg : 0 ≤ terms.multiplier.toRat)
    (entries : Nat) {peak : Rat} (peakNonneg : 0 ≤ peak) : 0 ≤ size terms entries peak := by
  have topNonneg := terms.haircuts.highest_nonneg
  unfold size Netting.chargeSize
  positivity

section Margined

variable {terms : Terms} {book : Book} {others : List Bucket}

omit [Rounding.Lawful grain] in
/-- The buckets of some balances of a book keep to its haircuts and its worth. -/
private theorem bounded_of_mapM {kept : Currency × Decimal → Bool} {found : List Bucket}
    (built : (book.balances.entries.filter kept).mapM (fun (currency, amount) =>
      bucket terms currency amount) = .ok found) :
    ∀ bucket ∈ found, Netting.Bounded terms.haircuts.highest
      (book.gross terms.spot terms.domestic) bucket := by
  intro bucket member
  obtain ⟨entry, entryMember, done⟩ := Outcome.exists_of_mem_mapM built member
  obtain ⟨-, rateIs, converted⟩ := bucket_ok.1 done
  obtain ⟨rateNonneg, rateLe⟩ := terms.haircuts.rate_bounds ⟨entry.1, terms.domestic⟩
  refine ⟨rateIs ▸ rateNonneg, rateIs ▸ rateLe, ?_⟩
  rw [← worthOf_ok converted]
  exact Book.abs_worthOf_le_gross (List.mem_of_mem_filter entryMember)

omit [Rounding.Lawful grain] in
theorem buckets_bounded {found : List Bucket} (built : buckets terms book = .ok found) :
    ∀ bucket ∈ found, Netting.Bounded terms.haircuts.highest
      (book.gross terms.spot terms.domestic) bucket :=
  bounded_of_mapM built

omit [Rounding.Lawful grain] in
theorem foreign_bounded (built : foreign terms book = .ok others) :
    ∀ bucket ∈ others, Netting.Bounded terms.haircuts.highest
      (book.gross terms.spot terms.domestic) bucket :=
  bounded_of_mapM built

include grain in
/-- No margin is below zero. -/
theorem ofBook_nonneg (multiplierNonneg : 0 ≤ terms.multiplier.toRat) {result : Decimal}
    (margined : ofBook terms book = .ok result) : 0 ≤ result.toRat := by
  obtain ⟨found, built, onward⟩ := Outcome.bind_ok.1 margined
  obtain ⟨charged, chargedDone, scaled⟩ := Outcome.bind_ok.1 onward
  rw [Outcome.liftArithmetic_ok] at chargedDone scaled
  exact Rounding.fit_nonneg
    (mul_nonneg (Netting.charge_nonneg (buckets_bounded built) chargedDone) multiplierNonneg)
    (Decimal.mul_ok.1 scaled)

omit [Rounding.Lawful grain] in
private theorem length_foreign_le (built : foreign terms book = .ok others) :
    others.length ≤ book.balances.entries.length := by
  have filtered := congrArg List.length (values_foreign built)
  rw [List.length_map, List.length_map] at filtered
  exact filtered.trans_le (List.length_filter_le _ _)

omit [Rounding.Lawful grain] in
/-- What bounds the foreign buckets and the domestic balance bounds the buckets of both. -/
theorem bounded_of_perm {balance : Decimal} {found : List Bucket}
    (built : foreign terms book = .ok others)
    (permutation : found.Perm (if isFlat balance then others
      else { slot terms with value := balance } :: others)) :
    (∀ bucket ∈ found, Netting.Bounded terms.haircuts.highest
        (book.gross terms.spot terms.domestic + |balance.toRat|) bucket) ∧
      found.length ≤ book.balances.entries.length + 1 := by
  have count := length_foreign_le built
  constructor
  · intro bucket member
    have inArranged := permutation.mem_iff.1 member
    have among : bucket ∈ others ∨ bucket = { slot terms with value := balance } := by
      split at inArranged
      · exact .inl inArranged
      · exact (List.mem_cons.1 inArranged).symm
    rcases among with inOthers | rfl
    · obtain ⟨rateNonneg, rateLe, sizeLe⟩ := foreign_bounded built bucket inOthers
      exact ⟨rateNonneg, rateLe, by linarith [abs_nonneg balance.toRat]⟩
    · obtain ⟨rateNonneg, rateLe⟩ := terms.haircuts.rate_bounds ⟨terms.domestic, terms.domestic⟩
      exact ⟨rateNonneg, rateLe, le_add_of_nonneg_left (book.gross_nonneg _ _)⟩
  · rw [permutation.length_eq]
    split
    · omega
    · simpa using count

/-- The margin of a book whose domestic balance has been set is the charge at that level, scaled, but
for a few roundings for every balance. -/
theorem near_ofBook (par : terms.AtPar) (multiplierNonneg : 0 ≤ terms.multiplier.toRat)
    {balance result : Decimal}
    (margined : ofBook terms ⟨book.balances.insert terms.domestic balance⟩ = .ok result) :
    ∃ others, foreign terms book = .ok others ∧
      Near grain (book.balances.entries.length + 3)
        (size terms (book.balances.entries.length + 1)
          (book.gross terms.spot terms.domestic + |balance.toRat|))
        result.toRat (exactAt terms others balance) ∧
      0 ≤ exactAt terms others balance ∧
      1 + exactAt terms others balance ≤
        size terms (book.balances.entries.length + 1)
          (book.gross terms.spot terms.domestic + |balance.toRat|) := by
  have grainNonneg : 0 ≤ grain := Rounding.Lawful.grain_nonneg
  obtain ⟨found, built, onward⟩ := Outcome.bind_ok.1 margined
  obtain ⟨charged, chargedDone, scaled⟩ := Outcome.bind_ok.1 onward
  rw [Outcome.liftArithmetic_ok] at chargedDone scaled
  obtain ⟨others, othersBuilt, permutation, charge⟩ := buckets_insert par built
  obtain ⟨bounded, count⟩ := bounded_of_perm othersBuilt permutation
  have topNonneg := terms.haircuts.highest_nonneg
  have peakNonneg : 0 ≤ book.gross terms.spot terms.domestic + |balance.toRat| :=
    add_nonneg (book.gross_nonneg _ _) (abs_nonneg _)
  have sizes := Netting.chargeSize_mono topNonneg peakNonneg count le_rfl
  have exactNonneg := Netting.exactCharge_nonneg bounded
  have exactLe := (Netting.exactCharge_le bounded topNonneg peakNonneg).trans sizes
  have scaledNonneg := mul_nonneg multiplierNonneg exactNonneg
  have scaledLe : 1 + terms.multiplier.toRat * Netting.exactCharge found ≤
      size terms (book.balances.entries.length + 1)
        (book.gross terms.spot terms.domestic + |balance.toRat|) :=
    add_le_add_right (mul_le_mul_of_nonneg_left exactLe multiplierNonneg) 1
  have nearCharge := ((Netting.near_charge bounded topNonneg peakNonneg chargedDone).mono grainNonneg
    (by linarith [Netting.exactCharge_le bounded topNonneg peakNonneg])
    (Nat.succ_le_succ count) sizes).mul terms.multiplier.toRat
  rw [abs_of_nonneg multiplierNonneg] at nearCharge
  have fit := Decimal.mul_ok.1 scaled
  rw [mul_comm] at fit
  have exactIs : exactAt terms others balance =
      terms.multiplier.toRat * Netting.exactCharge found := by rw [exactAt, charge]
  refine ⟨others, othersBuilt, ?_⟩
  rw [exactIs]
  refine ⟨Rounding.near_fit fit (nearCharge.mono grainNonneg ?_ le_rfl ?_) ?_, scaledNonneg,
    scaledLe⟩
  · exact mul_nonneg multiplierNonneg (exactNonneg.trans exactLe)
  · rw [size]
    linarith
  · rwa [abs_of_nonneg scaledNonneg]

end Margined

end Margin

end Worth

end Collateral

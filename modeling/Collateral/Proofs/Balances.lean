import Collateral.Proofs.Books
import Collateral.Proofs.ServingOrder

/-!
Contract: a book is known by its balances.

How a book came about shows in the order of its entries, and in entries that stand at zero. A margin
sees neither: collateral and debts are served in orders of their own, and what is zero is flat. So
equal balances make equal margins, and cash that is held beside positions may be listed in any order
and with any zeros.

Owns: the entries of a table by look-up, the balances of a book after bookings, and the margins of
books and of holdings whose balances are equal.
-/

namespace Collateral

/-- A key is found with the value of its entry. -/
theorem Table.get?_eq_some_iff {κ α : Type} [DecidableEq κ] {table : Table κ α} {key : κ}
    {value : α} : table.get? key = some value ↔ (key, value) ∈ table.entries := by
  unfold get?
  constructor
  · intro found
    obtain ⟨entry, entryFound, rfl⟩ := Option.map_eq_some_iff.1 found
    have same : entry.1 = key := by simpa using List.find?_some entryFound
    rw [← same]
    exact List.mem_of_find?_eq_some entryFound
  · intro member
    cases found : table.entries.find? (·.1 = key) with
    | none => simpa using List.find?_eq_none.1 found _ member
    | some entry =>
      have same : entry.1 = key := by simpa using List.find?_some found
      have alike := List.inj_on_of_nodup_map table.distinct (List.mem_of_find?_eq_some found)
        member same
      rw [alike]
      rfl

/-! ## Margins -/

namespace Book

/-- A balance that is not flat has an entry, and an entry has the balance of its currency. -/
theorem mem_filter_not_isFlat {book : Book} {entry : Currency × Decimal} :
    (entry ∈ book.balances.entries.filter fun entry => !Margin.isFlat entry.2) ↔
      book.balance entry.1 = entry.2 ∧ ¬Margin.isFlat entry.2 := by
  rw [List.mem_filter, Bool.not_eq_true', Bool.not_eq_true, and_congr_left_iff]
  intro large
  unfold balance
  constructor
  · intro member
    rw [Table.get?_eq_some_iff.2 member]
    rfl
  · intro balanceIs
    cases found : book.balances.get? entry.1 with
    | none =>
      rw [found] at balanceIs
      rw [← balanceIs] at large
      exact absurd Margin.isFlat_zero (Bool.eq_false_iff.1 large)
    | some value =>
      rw [found] at balanceIs
      rw [← Table.get?_eq_some_iff, found, ← balanceIs]
      rfl

end Book

namespace Margin

variable {left right : Book}

/-- The entries that count of books with equal balances are rearranged. -/
theorem filter_perm_of_balances
    (same : ∀ currency, left.balance currency = right.balance currency) :
    (left.balances.entries.filter fun entry => !isFlat entry.2).Perm
      (right.balances.entries.filter fun entry => !isFlat entry.2) := by
  apply (List.perm_ext_iff_of_nodup (left.balances.distinct.of_map.filter _)
    (right.balances.distinct.of_map.filter _)).2
  intro entry
  rw [Book.mem_filter_not_isFlat, Book.mem_filter_not_isFlat, same]

/-- **Books with equal balances have the same margin.** -/
theorem ofBook_of_balances [Rounding] {terms : Terms}
    (same : ∀ currency, left.balance currency = right.balance currency) {margin : Decimal}
    (margined : ofBook terms left = .ok margin) : ofBook terms right = .ok margin := by
  obtain ⟨found, built, charged⟩ := Outcome.bind_ok.1 margined
  obtain ⟨found', built', rearranged⟩ := Outcome.mapM_perm (filter_perm_of_balances same) built
  rw [Netting.charge_perm (buckets_distinct built) rearranged] at charged
  exact Outcome.bind_ok.2 ⟨found', built', charged⟩

end Margin

/-! ## Bookings -/

namespace Book

theorem balance_insert (book : Book) (currency other : Currency) (amount : Decimal) :
    Book.balance ⟨book.balances.insert currency amount⟩ other =
      if currency = other then amount else book.balance other := by
  unfold balance
  rw [Table.get?_insert]
  split <;> rfl

private theorem balance_cons {entry : Currency × Decimal} {entries : List (Currency × Decimal)}
    (distinct : ((entry :: entries).map Prod.fst).Nodup) (currency : Currency) :
    Book.balance ⟨⟨entry :: entries, distinct⟩⟩ currency =
      if entry.1 = currency then entry.2
      else Book.balance ⟨⟨entries, (List.nodup_cons.1 distinct).2⟩⟩ currency := by
  unfold balance Table.get?
  by_cases same : entry.1 = currency
  · simp [same]
  · simp [same]

private theorem balance_of_absent {book : Book} {currency : Currency}
    (absent : currency ∉ book.balances.keys) : book.balance currency = 0 := by
  unfold balance
  cases found : book.balances.get? currency with
  | none => rfl
  | some value =>
    exact absurd (List.mem_map_of_mem (Table.get?_eq_some_iff.1 found)) absent

variable [Rounding]

theorem add_ok {book result : Book} {currency : Currency} {amount : Decimal} :
    book.add currency amount = .ok result ↔
      ∃ balance, (book.balance currency).add amount = .ok balance ∧
        result = ⟨book.balances.insert currency balance⟩ := by
  simp only [add, Outcome.bind_ok, Outcome.pure_ok, @eq_comm _ result]

/-- A booking touches the balance of its own currency alone. -/
theorem balance_of_add_of_ne {book result : Book} {currency other : Currency} {amount : Decimal}
    (added : book.add currency amount = .ok result) (apart : currency ≠ other) :
    result.balance other = book.balance other := by
  obtain ⟨balance, -, rfl⟩ := add_ok.1 added
  rw [balance_insert, if_neg apart]

variable {grain : Rat} [Rounding.Lawful grain]

include grain

/-- Cash that is booked adds to the balance of its own currency. -/
theorem balance_of_addAll {book result : Book} {cash : Table Currency Decimal}
    (added : book.addAll cash.entries = .ok result) (currency : Currency) :
    (book.balance currency).add (Book.balance ⟨cash⟩ currency) =
      .ok (result.balance currency) := by
  cases cash with
  | mk entries distinct =>
    unfold addAll at added
    induction entries generalizing book with
    | nil =>
      rw [Outcome.pure_ok.1 added]
      exact Decimal.add_zero_ok _
    | cons entry entries inductionHypothesis =>
      obtain ⟨absent, restDistinct⟩ := List.nodup_cons.1 distinct
      obtain ⟨next, first, rest⟩ := Outcome.foldlM_cons_ok.1 added
      obtain ⟨sum, summed, rfl⟩ := add_ok.1 first
      have onward := inductionHypothesis restDistinct rest
      rw [balance_insert] at onward
      rw [balance_cons]
      by_cases same : entry.1 = currency
      · subst same
        -- No later entry has this currency again.
        have nothing : Book.balance ⟨⟨entries, restDistinct⟩⟩ entry.1 = 0 :=
          balance_of_absent absent
        rw [if_pos rfl, nothing, Decimal.add_zero_ok] at onward
        rw [if_pos rfl, summed, onward]
      · rw [if_neg same] at onward ⊢
        exact onward

/-- Cash can be booked where every balance can take its part. -/
theorem exists_addAll {book : Book} {cash : Table Currency Decimal}
    (fits : ∀ currency, ∃ sum,
      (book.balance currency).add (Book.balance ⟨cash⟩ currency) = .ok sum) :
    ∃ result, book.addAll cash.entries = .ok result := by
  cases cash with
  | mk entries distinct =>
    unfold addAll
    induction entries generalizing book with
    | nil => exact ⟨book, rfl⟩
    | cons entry entries inductionHypothesis =>
      obtain ⟨absent, restDistinct⟩ := List.nodup_cons.1 distinct
      obtain ⟨sum, summed⟩ := fits entry.1
      rw [balance_cons, if_pos rfl] at summed
      have first : book.add entry.1 entry.2 = .ok ⟨book.balances.insert entry.1 sum⟩ :=
        add_ok.2 ⟨sum, summed, rfl⟩
      have restFits : ∀ currency, ∃ total,
          (Book.balance ⟨book.balances.insert entry.1 sum⟩ currency).add
            (Book.balance ⟨⟨entries, restDistinct⟩⟩ currency) = .ok total := by
        intro currency
        rw [balance_insert]
        by_cases same : entry.1 = currency
        · subst same
          have nothing : Book.balance ⟨⟨entries, restDistinct⟩⟩ entry.1 = 0 :=
            balance_of_absent absent
          rw [if_pos rfl, nothing]
          exact ⟨sum, Decimal.add_zero_ok sum⟩
        · have own := fits currency
          rw [balance_cons, if_neg same] at own
          rwa [if_neg same]
      obtain ⟨result, rest⟩ := inductionHypothesis restDistinct restFits
      exact ⟨result, Outcome.foldlM_cons_ok.2 ⟨_, first, rest⟩⟩

end Book

/-! ## Holdings -/

section Holdings

variable [Rounding] {grain : Rat} [Rounding.Lawful grain]

include grain

/-- The balances of positions held together with cash. -/
theorem Book.balance_of_ofHoldings {positions : List FxPosition} {cash : Table Currency Decimal}
    {book : Book} (booked : Book.ofHoldings positions cash = .ok book) :
    ∃ held, Book.ofPositions positions = .ok held ∧ ∀ currency,
      (held.balance currency).add (Book.balance ⟨cash⟩ currency) = .ok (book.balance currency) := by
  obtain ⟨held, positioned, added⟩ := Outcome.bind_ok.1 booked
  exact ⟨held, positioned, Book.balance_of_addAll added⟩

/-- **Cash with equal balances makes the same margin**, in whatever order it is listed. -/
theorem Margin.ofHoldings_of_balances {terms : Terms} {positions : List FxPosition}
    {cash cash' : Table Currency Decimal}
    (same : ∀ currency, Book.balance ⟨cash⟩ currency = Book.balance ⟨cash'⟩ currency)
    {margin : Decimal}
    (margined : Calculator.haircut.ofHoldings terms positions cash = .ok margin) :
    Calculator.haircut.ofHoldings terms positions cash' = .ok margin := by
  obtain ⟨book, booked, charged⟩ := Outcome.bind_ok.1 margined
  obtain ⟨held, positioned, balances⟩ :=
    Book.balance_of_ofHoldings (Outcome.liftArithmetic_ok.1 booked)
  simp only [same] at balances
  obtain ⟨book', added⟩ := Book.exists_addAll fun currency => ⟨_, balances currency⟩
  have alike : ∀ currency, book.balance currency = book'.balance currency := by
    intro currency
    have balance := balances currency
    rw [Book.balance_of_addAll added currency] at balance
    exact (Except.ok.inj balance).symm
  have booked' : Book.ofHoldings positions cash' = .ok book' :=
    Outcome.bind_ok.2 ⟨held, positioned, added⟩
  exact Outcome.bind_ok.2 ⟨book', Outcome.liftArithmetic_ok.2 booked',
    Margin.ofBook_of_balances alike charged⟩

end Holdings

end Collateral

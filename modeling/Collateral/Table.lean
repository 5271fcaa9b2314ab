/-!
Contract: finite maps that keep their keys in the order of arrival.

The order stands for no order of what is modelled. A figure that is computed over all entries either
does not depend on it, as a margin, or takes an order as a parameter, as a total. Which of several
failures is reported may rest on it.

Owns: look-up, insertion in place, building from a list, and the invariant that every key occurs
once. A key that is inserted again keeps its position and takes the new value.

Does not own: any order by key; a reader who wants one sorts the entries.
-/

namespace Collateral

universe u v

/-- A finite map as the list of its entries in the order in which their keys first arrived. -/
structure Table (κ : Type u) (α : Type v) where
  entries : List (κ × α)
  distinct : (entries.map Prod.fst).Nodup
deriving DecidableEq, Repr

namespace Table

variable {κ : Type u} {α : Type v}

def empty : Table κ α := ⟨[], .nil⟩

instance : Inhabited (Table κ α) := ⟨empty⟩

def size (table : Table κ α) : Nat := table.entries.length

def isEmpty (table : Table κ α) : Bool := table.entries.isEmpty

/-- The keys in order of arrival. -/
def keys (table : Table κ α) : List κ := table.entries.map Prod.fst

/-- The values in order of the arrival of their keys. -/
def values (table : Table κ α) : List α := table.entries.map Prod.snd

variable [DecidableEq κ]

def get? (table : Table κ α) (key : κ) : Option α :=
  (table.entries.find? (·.1 = key)).map Prod.snd

/-- Puts a value into the entry of its key, or at the end where there is none. -/
def place (key : κ) (value : α) : List (κ × α) → List (κ × α)
  | [] => [(key, value)]
  | entry :: rest =>
    if entry.1 = key then (key, value) :: rest else entry :: place key value rest

theorem mem_place
    {key : κ} {value : α} {entry : κ × α} {entries : List (κ × α)}
    (member : entry ∈ place key value entries) :
    entry = (key, value) ∨ entry ∈ entries := by
  induction entries with
  | nil => simpa [place] using member
  | cons head rest inductionHypothesis =>
    unfold place at member
    split at member
    · rcases List.mem_cons.1 member with same | old
      · exact .inl same
      · exact .inr (List.mem_cons_of_mem _ old)
    · rcases List.mem_cons.1 member with same | old
      · exact .inr (same ▸ List.mem_cons_self)
      · exact (inductionHypothesis old).imp_right (List.mem_cons_of_mem _)

theorem map_fst_place (key : κ) (value : α) (entries : List (κ × α)) :
    (place key value entries).map Prod.fst =
      if key ∈ entries.map Prod.fst then entries.map Prod.fst
      else entries.map Prod.fst ++ [key] := by
  induction entries with
  | nil => simp [place]
  | cons head rest inductionHypothesis =>
    unfold place
    split
    next same => simp [same]
    next differs =>
      have differs : ¬key = head.1 := fun same => differs same.symm
      rw [List.map_cons, inductionHypothesis]
      by_cases present : key ∈ rest.map Prod.fst
      · simp [present]
      · simp [present, differs]

def insert (table : Table κ α) (key : κ) (value : α) : Table κ α where
  entries := place key value table.entries
  distinct := by
    rw [map_fst_place]
    split
    · exact table.distinct
    next absent =>
      refine List.nodup_append.2 ⟨table.distinct, List.nodup_cons.2 ⟨nofun, .nil⟩, ?_⟩
      rintro old present new single rfl
      exact absent (List.mem_singleton.1 single ▸ present)

@[simp] theorem get?_empty (key : κ) : (empty : Table κ α).get? key = none := rfl

private theorem find?_place (key other : κ) (value : α) (entries : List (κ × α)) :
    (place key value entries).find? (·.1 = other) =
      if key = other then some (key, value) else entries.find? (·.1 = other) := by
  induction entries with
  | nil => by_cases same : key = other <;> simp [place, same]
  | cons head rest inductionHypothesis =>
    unfold place
    split
    next found =>
      by_cases same : key = other <;> simp [found, same]
    next differs =>
      by_cases same : key = other
      · subst same
        simp [differs, inductionHypothesis]
      · simp [List.find?_cons, inductionHypothesis, same]

/-- Only the look-up of the inserted key changes. -/
theorem get?_insert (table : Table κ α) (key other : κ) (value : α) :
    (table.insert key value).get? other =
      if key = other then some value else table.get? other := by
  simp only [get?, insert, find?_place]
  split <;> rfl

/-- The map of a list of entries, in which the last entry of a key counts. -/
def ofList (entries : List (κ × α)) : Table κ α :=
  entries.foldl (fun table entry => table.insert entry.1 entry.2) empty

end Table

end Collateral

import Collateral.Sorting
import Mathlib.Data.List.Sort

/-!
Contract: what insertion sorting does to a list.

Owns: that the sorted list holds the same entries, that it is in order where the order is total and
transitive, that entries which may stand in any order among themselves keep the one they had, and
that a list whose entries are told apart by the order has only one sorted form.
-/

namespace Collateral

universe u

variable {α : Type u} {mayPrecede : α → α → Bool}

/-! ## The same entries -/

theorem insertBy_perm (mayPrecede : α → α → Bool) (entry : α) (entries : List α) :
    (insertBy mayPrecede entry entries).Perm (entry :: entries) := by
  induction entries with
  | nil => exact .refl _
  | cons head rest inductionHypothesis =>
    unfold insertBy
    split
    · exact .refl _
    · exact (inductionHypothesis.cons head).trans (.swap entry head rest)

theorem sortBy_perm (mayPrecede : α → α → Bool) (entries : List α) :
    (sortBy mayPrecede entries).Perm entries := by
  induction entries with
  | nil => exact .refl _
  | cons head rest inductionHypothesis =>
    exact (insertBy_perm mayPrecede head _).trans (inductionHypothesis.cons head)

theorem mem_sortBy {entry : α} {entries : List α} :
    entry ∈ sortBy mayPrecede entries ↔ entry ∈ entries :=
  (sortBy_perm mayPrecede entries).mem_iff

/-- Insertion parts the list in front of the first entry that may follow. -/
theorem insertBy_eq_append (mayPrecede : α → α → Bool) (entry : α) (entries : List α) :
    insertBy mayPrecede entry entries =
      entries.takeWhile (fun other => !mayPrecede entry other) ++
        entry :: entries.dropWhile (fun other => !mayPrecede entry other) := by
  induction entries with
  | nil => rfl
  | cons head rest inductionHypothesis =>
    unfold insertBy
    split
    next precedes => simp [precedes]
    next follows => simp [follows, inductionHypothesis]

/-! ## In order -/

theorem insertBy_pairwise {entry : α} {entries : List α}
    (total : ∀ left right, mayPrecede left right ∨ mayPrecede right left)
    (transitive : ∀ first second third,
      mayPrecede first second → mayPrecede second third → mayPrecede first third)
    (sorted : entries.Pairwise fun left right => mayPrecede left right) :
    (insertBy mayPrecede entry entries).Pairwise fun left right => mayPrecede left right := by
  induction entries with
  | nil => simp [insertBy]
  | cons head rest inductionHypothesis =>
    obtain ⟨headFirst, restSorted⟩ := List.pairwise_cons.1 sorted
    unfold insertBy
    split
    next precedes =>
      refine List.pairwise_cons.2 ⟨fun other member => ?_, sorted⟩
      rcases List.mem_cons.1 member with rfl | inRest
      · exact precedes
      · exact transitive _ _ _ precedes (headFirst other inRest)
    next follows =>
      have headPrecedes : mayPrecede head entry := (total head entry).resolve_right follows
      refine List.pairwise_cons.2 ⟨fun other member => ?_, inductionHypothesis restSorted⟩
      rcases List.mem_cons.1 ((insertBy_perm mayPrecede entry rest).mem_iff.1 member)
        with rfl | inRest
      · exact headPrecedes
      · exact headFirst other inRest

theorem sortBy_pairwise
    (total : ∀ left right, mayPrecede left right ∨ mayPrecede right left)
    (transitive : ∀ first second third,
      mayPrecede first second → mayPrecede second third → mayPrecede first third)
    (entries : List α) :
    (sortBy mayPrecede entries).Pairwise fun left right => mayPrecede left right := by
  induction entries with
  | nil => exact .nil
  | cons head rest inductionHypothesis =>
    exact insertBy_pairwise total transitive inductionHypothesis

/-! ## Stability -/

private theorem filter_insertBy {chosen : α → Bool} {entry : α} {entries : List α}
    (alike : ∀ other ∈ entries, chosen entry → chosen other → mayPrecede entry other) :
    (insertBy mayPrecede entry entries).filter chosen = (entry :: entries).filter chosen := by
  induction entries with
  | nil => rfl
  | cons head rest inductionHypothesis =>
    unfold insertBy
    split
    · rfl
    next follows =>
      have restAlike := inductionHypothesis fun other member =>
        alike other (List.mem_cons_of_mem head member)
      by_cases both : chosen entry ∧ chosen head
      · exact absurd (alike head List.mem_cons_self both.1 both.2) follows
      · rw [List.filter_cons, restAlike]
        by_cases entryChosen : chosen entry <;> by_cases headChosen : chosen head <;>
          simp_all

/-- Entries that may all precede each other keep the order in which they were given. -/
theorem filter_sortBy {chosen : α → Bool}
    (alike : ∀ left right, chosen left → chosen right → mayPrecede left right)
    (entries : List α) :
    (sortBy mayPrecede entries).filter chosen = entries.filter chosen := by
  induction entries with
  | nil => rfl
  | cons head rest inductionHypothesis =>
    change (insertBy mayPrecede head (sortBy mayPrecede rest)).filter chosen = _
    rw [filter_insertBy fun other _ => alike head other, List.filter_cons, List.filter_cons,
      inductionHypothesis]

/-! ## One sorted form -/

/-- Lists of the same entries have the same sorted form, if entries that may precede each other
both ways are equal. -/
theorem sortBy_eq_of_perm {left right : List α}
    (total : ∀ left right, mayPrecede left right ∨ mayPrecede right left)
    (transitive : ∀ first second third,
      mayPrecede first second → mayPrecede second third → mayPrecede first third)
    (apart : ∀ first ∈ left, ∀ second ∈ left,
      mayPrecede first second → mayPrecede second first → first = second)
    (permutation : left.Perm right) :
    sortBy mayPrecede left = sortBy mayPrecede right := by
  refine List.Perm.eq_of_pairwise ?_ (sortBy_pairwise total transitive left)
    (sortBy_pairwise total transitive right)
    ((sortBy_perm mayPrecede left).trans
      (permutation.trans (sortBy_perm mayPrecede right).symm))
  intro first second firstMember secondMember forward backward
  exact apart first (mem_sortBy.1 firstMember) second
    (permutation.mem_iff.2 (mem_sortBy.1 secondMember)) forward backward

end Collateral

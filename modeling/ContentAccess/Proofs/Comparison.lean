import Mathlib.Order.Lattice
import ContentAccess.Rule.Vocabulary

/-!
# Comparisons as relations

A comparison is decided from the order of two things.  In a linear order it says what its name
says, and what holds of one comparison follows from a table over the three orders.
-/

namespace ContentAccess

namespace Comparison

/-- What a comparison says of two things. -/
def Relates [LE α] [LT α] : Comparison → α → α → Prop
  | equal, left, right => left = right
  | atLeast, left, right => right ≤ left
  | atMost, left, right => left ≤ right
  | greater, left, right => right < left
  | less, left, right => left < right

theorem holds_compare_iff
    [LinearOrder α]
    {comparison : Comparison}
    {left right : α} :
    comparison.holds (compare left right) = true ↔ comparison.Relates left right := by
  cases comparison with
  | equal => simp [Relates]
  | atLeast => simp [Relates, compare_lt_iff_lt]
  | atMost => simp [Relates, compare_gt_iff_gt]
  | greater => simp [Relates, compare_gt_iff_gt]
  | less => simp [Relates, compare_lt_iff_lt]

/-- A lower bound of the left side holds of everything further up. -/
theorem Relates.of_le
    [Preorder α]
    {comparison : Comparison}
    {left further right : α}
    (relates : comparison.Relates left right)
    (boundsBelow : comparison = .atLeast ∨ comparison = .greater)
    (ordered : left ≤ further) :
    comparison.Relates further right := by
  rcases boundsBelow with rfl | rfl
  · exact le_trans relates ordered
  · exact lt_of_lt_of_le relates ordered

/-- An upper bound of the left side holds of everything further down. -/
theorem Relates.of_ge
    [Preorder α]
    {comparison : Comparison}
    {left further right : α}
    (relates : comparison.Relates left right)
    (boundsAbove : comparison = .atMost ∨ comparison = .less)
    (ordered : further ≤ left) :
    comparison.Relates further right := by
  rcases boundsAbove with rfl | rfl
  · exact le_trans ordered relates
  · exact lt_of_le_of_lt ordered relates

/-- The one comparison that is no union of others and holds of the order. -/
def ofOrder : Ordering → Comparison
  | .lt => less
  | .eq => equal
  | .gt => greater

theorem eq_ofOrder_iff
    {comparison : Comparison}
    {order : Ordering} :
    comparison = ofOrder order ↔
      comparison ∈ [less, equal, greater] ∧ comparison.holds order = true := by
  cases comparison <;> cases order <;> decide

/-- Of equality and the two strict comparisons exactly one holds. -/
theorem existsUnique_holds
    (order : Ordering) :
    ∃! comparison, comparison ∈ [less, equal, greater] ∧ comparison.holds order = true :=
  ⟨ofOrder order, eq_ofOrder_iff.mp rfl, fun _ => eq_ofOrder_iff.mpr⟩

/-- The comparison that says the same with its sides exchanged. -/
def mirrored : Comparison → Comparison
  | equal => equal
  | atLeast => atMost
  | atMost => atLeast
  | greater => less
  | less => greater

theorem holds_mirrored
    (comparison : Comparison)
    (order : Ordering) :
    comparison.mirrored.holds order = comparison.holds order.swap := by
  cases comparison <;> cases order <;> rfl

theorem holds_atMost_eq_less_or_equal
    (order : Ordering) :
    atMost.holds order = (less.holds order || equal.holds order) := by
  cases order <;> rfl

theorem holds_atLeast_eq_greater_or_equal
    (order : Ordering) :
    atLeast.holds order = (greater.holds order || equal.holds order) := by
  cases order <;> rfl

theorem holds_atMost_eq_not_greater
    (order : Ordering) :
    atMost.holds order = !greater.holds order := by
  cases order <;> rfl

theorem holds_atLeast_eq_not_less
    (order : Ordering) :
    atLeast.holds order = !less.holds order := by
  cases order <;> rfl

theorem boundsAbove_eq_true_iff
    {comparison : Comparison} :
    comparison.boundsAbove = true ↔ comparison = .less ∨ comparison = .atMost := by
  cases comparison <;> simp [boundsAbove]

end Comparison

end ContentAccess

import ContentAccess.Proofs.Content.Boundary
import ContentAccess.Proofs.Matcher.Level

/-!
# Level rules along a tree

Every step down adds one level, wherever the anchor is.  So a lower bound that holds for a node
holds for all nodes below it, and an upper bound for all nodes above it that are still below the
anchor.  Below the anchor the comparisons divide the nodes as they divide the numbers.
-/

namespace ContentAccess

open ContentNode

/-! ## One level for every step -/

namespace Store

variable {store : Store} {place above : store.Place} {steps : Nat} {anchor : String}

/-- A node below one that lies within an anchor lies within it too, as many levels deeper as
there are steps between the nodes. -/
theorem WellLinked.descent_of_ancestor?
    (linked : store.WellLinked)
    (reached : ancestor? steps place = some above)
    (within : Path.isWithin anchor (path above) = true) :
    Path.isWithin anchor (path place) = true ∧
      Path.descent anchor (path place) = Path.descent anchor (path above) + steps := by
  obtain ⟨levels, aboveLevels⟩ := Path.exists_levelsBelow?_of_isWithin within
  have placeLevels : Path.levelsBelow? anchor (path place) = some (levels + steps) := by
    obtain ⟨names, longer, rfl⟩ := linked.ancestor?_eq_some_iff.mp reached
    obtain ⟨extra, cut, rfl⟩ := Path.levelsBelow?_eq_some_iff.mp aboveLevels
    refine Path.levelsBelow?_eq_some_iff.mpr ⟨extra ++ names.map String.toList, ?_, ?_⟩
    · rw [linked.pieces_bare_path, longer, List.map_append, ← List.cons_append,
        ← linked.pieces_bare_path, cut, List.append_assoc]
    · rw [List.length_append, List.length_map]
  constructor
  · rw [← Path.isSome_levelsBelow?, placeLevels]
    rfl
  · rw [Path.descent_of_levelsBelow? placeLevels, Path.descent_of_levelsBelow? aboveLevels]
    exact Int.natCast_add levels steps

end Store

/-! ## Bounds -/

namespace Comparison

variable {comparison : Comparison} {anchor path deeper : String} {level : Int}

/-- A lower bound that holds for a path holds for deeper ones. -/
theorem LiesAt.of_deeper
    (lies : comparison.LiesAt anchor level path)
    (boundsBelow : comparison = .atLeast ∨ comparison = .greater)
    (within : Path.isWithin anchor deeper = true)
    (further : Path.descent anchor path ≤ Path.descent anchor deeper) :
    comparison.LiesAt anchor level deeper := by
  refine ⟨lies.nonnegative, within, lies.relates.of_le boundsBelow further, ?_⟩
  rcases boundsBelow with rfl | rfl <;> simp

/-- An upper bound that holds for a path holds for those above it, as far as they are strictly
below the anchor. -/
theorem LiesAt.of_higher
    (lies : comparison.LiesAt anchor level deeper)
    (boundsAbove : comparison = .atMost ∨ comparison = .less)
    (below : 1 ≤ Path.descent anchor path)
    (further : Path.descent anchor path ≤ Path.descent anchor deeper) :
    comparison.LiesAt anchor level path := by
  have within := (Path.one_le_descent_iff.mp below).1
  exact ⟨lies.nonnegative, within, lies.relates.of_ge boundsAbove further, fun _ => below⟩

end Comparison

/-! ## Rules -/

namespace LevelMatcher

section Plain

variable {Node : Type u} [ContentNode Node] {node : Node} {access : Access}
  {comparison : Comparison} {level : UInt32} {anchor : String}

/-- The matcher of a rule that is not negated. -/
def plain (access : Access) (comparison : Comparison) (level : UInt32) (anchor : String) :
    LevelMatcher :=
  ⟨⟨access, false, comparison, level, anchor⟩⟩

/-- Without negation a rule applies where it is satisfied, whether it grants access or
withholds it. -/
theorem applies_plain :
    (plain access comparison level anchor).applies node =
      comparison.holdsForLevel (some anchor) level.toNat (some (path node)) := by
  cases access with
  | allow => rfl
  | deny => exact Bool.false_bne _

theorem applies_plain_iff :
    (plain access comparison level anchor).applies node = true ↔
      comparison.LiesAt anchor level.toNat (path node) := by
  rw [applies_plain, Comparison.holdsForLevel_iff_liesAt]

/-- Strictly below the anchor, levels are compared as numbers. -/
theorem applies_plain_of_isBelow
    (below : Path.IsBelow anchor (path node)) :
    (plain access comparison level anchor).applies node =
      comparison.holds (compare (Path.descent anchor (path node)) level.toNat) := by
  have positive : ¬Path.descent anchor (path node) ≤ 0 :=
    Int.not_le.mpr (Path.one_le_descent_iff.mpr below)
  rw [applies_plain, Comparison.holdsForLevel_eq_holds_descent, decide_eq_false positive,
    decide_eq_true (Int.natCast_nonneg _), Bool.and_false, Bool.not_false, Bool.and_self,
    Bool.true_and]

/-- A rule that withholds access is reversed by negation, wherever the node lies. -/
theorem applies_negated_deny :
    (LevelMatcher.mk ⟨.deny, true, comparison, level, anchor⟩).applies node =
      !(plain .deny comparison level anchor).applies node := by
  rw [applies_plain]
  exact Bool.true_bne _

end Plain

/-- Lower bounds pass from a node to all nodes below it, and upper bounds to those above it that
are strictly below the anchor.  There exactly one strict comparison holds, and the others are
complements of strict ones.  Negation takes the complement of a rule that withholds access,
anywhere. -/
theorem bounds_follow_tree
    {store : Store}
    (built : store.Built)
    (anchor : String)
    (level : UInt32) :
    (∀ (access : Access) (steps : Nat) (place above : store.Place),
      ancestor? steps place = some above →
      (∀ comparison, comparison = .atLeast ∨ comparison = .greater →
        (plain access comparison level anchor).applies above = true →
          (plain access comparison level anchor).applies place = true) ∧
      (∀ comparison, comparison = .atMost ∨ comparison = .less →
        (plain access comparison level anchor).applies place = true →
        Path.IsBelow anchor (path above) →
          (plain access comparison level anchor).applies above = true)) ∧
    (∀ (access : Access) (place : store.Place), Path.IsBelow anchor (path place) →
      (∃! comparison, comparison ∈ [.less, .equal, .greater] ∧
        (plain access comparison level anchor).applies place = true) ∧
      (plain access .atMost level anchor).applies place =
        !(plain access .greater level anchor).applies place ∧
      (plain access .atLeast level anchor).applies place =
        !(plain access .less level anchor).applies place) ∧
    (∀ (comparison : Comparison) (place : store.Place),
      (LevelMatcher.mk ⟨.deny, true, comparison, level, anchor⟩).applies place =
        !(plain .deny comparison level anchor).applies place) := by
  refine ⟨fun access steps place above reached => ⟨?_, ?_⟩, fun access place below => ?_,
    fun comparison place => applies_negated_deny⟩
  · intro comparison boundsBelow onAbove
    rw [applies_plain_iff] at onAbove ⊢
    obtain ⟨within, deeper⟩ := built.linked.descent_of_ancestor? reached onAbove.within
    exact onAbove.of_deeper boundsBelow within (by omega)
  · intro comparison boundsAbove onPlace below
    rw [applies_plain_iff] at onPlace ⊢
    obtain ⟨_, deeper⟩ := built.linked.descent_of_ancestor? reached below.1
    exact onPlace.of_higher boundsAbove (Path.one_le_descent_iff.mpr below) (by omega)
  · simp only [applies_plain_of_isBelow below]
    exact ⟨Comparison.existsUnique_holds _, Comparison.holds_atMost_eq_not_greater _,
      Comparison.holds_atLeast_eq_not_less _⟩

/-- Under an anchor with a slash to spare, a node at the second level and the one above it. -/
theorem bounds_follow_tree_under_spare_slash :
    let store := Store.replayed [.insert "a/b/c"]
    let above : store.Place := ⟨⟨2, by decide +kernel⟩⟩
    let place : store.Place := ⟨⟨3, by decide +kernel⟩⟩
    (plain .deny .greater 0 "/a/").applies above = true ∧
      (plain .deny .greater 0 "/a/").applies place = true ∧
      (plain .allow .atMost 2 "/a/").applies place = true ∧
      (plain .allow .atMost 2 "/a/").applies above = true ∧
      (∃! comparison, comparison ∈ [.less, .equal, .greater] ∧
        (plain .allow comparison 2 "/a/").applies place = true) := by
  intro store above place
  have built : store.Built := Store.built_replayed _
  have reached : ancestor? 1 place = some above := by decide +kernel
  have aboveIsBelow : Path.IsBelow "/a/" (path above) := ⟨by decide +kernel, by decide +kernel⟩
  have placeIsBelow : Path.IsBelow "/a/" (path place) := ⟨by decide +kernel, by decide +kernel⟩
  obtain ⟨lower, _, _⟩ := bounds_follow_tree built "/a/" 0
  obtain ⟨upper, divided, _⟩ := bounds_follow_tree built "/a/" 2
  have onAbove : (plain .deny .greater 0 "/a/").applies above = true := by decide +kernel
  have onPlace : (plain .allow .atMost 2 "/a/").applies place = true := by decide +kernel
  refine ⟨onAbove, ?_, onPlace, ?_, (divided .allow place placeIsBelow).1⟩
  · exact (lower .deny 1 place above reached).1 .greater (.inr rfl) onAbove
  · exact (upper .allow 1 place above reached).2 .atMost (.inl rfl) onPlace aboveIsBelow

end LevelMatcher
end ContentAccess

import Mathlib.Algebra.Order.Ring.Int
import Mathlib.Logic.Basic
import ContentAccess.Matcher.Level
import ContentAccess.Proofs.Comparison
import ContentAccess.Proofs.Content.Log

/-!
# What a level rule decides

A level rule holds for the paths within its anchor whose number of levels below it stands in
the relation to the level of the rule.  Paths outside could be given the level `-1`, and the
rule would not hold for them all the same, since upper bounds ask for a positive level.  A rule
that withholds access may be reversed by negation, and so holds outside its anchor.
-/

namespace ContentAccess

/-! ## Levels as numbers -/

namespace Path

variable {anchor candidate : String} {levels : Nat}

/-- The number of levels from the anchor down to the candidate, and `-1` outside. -/
def descent (anchor candidate : String) : Int :=
  (levelsBelow? anchor candidate).elim (-1) Int.ofNat

theorem descent_of_levelsBelow?
    (below : levelsBelow? anchor candidate = some levels) :
    descent anchor candidate = levels := by
  rw [descent, below]
  rfl

theorem exists_levelsBelow?_of_isWithin
    (within : isWithin anchor candidate = true) :
    ∃ levels, levelsBelow? anchor candidate = some levels := by
  rwa [← Option.isSome_iff_exists, isSome_levelsBelow?]

theorem descent_of_not_isWithin
    (outside : isWithin anchor candidate = false) :
    descent anchor candidate = -1 := by
  rw [← isSome_levelsBelow?, Option.isSome_eq_false_iff, Option.isNone_iff_eq_none] at outside
  rw [descent, outside]
  rfl

/-- No level lies between paths that are the same up to slashes at the end. -/
theorem levelsBelow?_eq_some_zero_iff :
    levelsBelow? anchor candidate = some 0 ↔ same anchor candidate = true := by
  rw [levelsBelow?_eq_some_iff, same_iff_pieces_eq, eq_comm]
  simp only [List.length_eq_zero_iff]
  constructor
  · rintro ⟨_, cut, rfl⟩
    rw [cut, List.append_nil]
  · intro equal
    exact ⟨[], by rw [equal, List.append_nil], rfl⟩

theorem descent_of_same
    (equal : same anchor candidate = true) :
    descent anchor candidate = 0 :=
  descent_of_levelsBelow? (levelsBelow?_eq_some_zero_iff.mpr equal)

/-- The candidate lies within the anchor and is another path, up to slashes at the end. -/
def IsBelow (anchor candidate : String) : Prop :=
  isWithin anchor candidate = true ∧ same anchor candidate = false

theorem one_le_descent_iff : 1 ≤ descent anchor candidate ↔ IsBelow anchor candidate := by
  unfold IsBelow
  cases within : isWithin anchor candidate with
  | false => simp [descent_of_not_isWithin within]
  | true =>
      obtain ⟨levels, below⟩ := exists_levelsBelow?_of_isWithin within
      have atAnchor : levels = 0 ↔ same anchor candidate = true := by
        rw [← levelsBelow?_eq_some_zero_iff, below, Option.some_inj]
      rw [descent_of_levelsBelow? below, ← Bool.not_eq_true, ← atAnchor, and_iff_right rfl]
      omega

end Path

/-! ## The verdict -/

namespace Comparison

variable {comparison : Comparison} {anchor path : String} {level : Int}

/-- The path lies at a level below the anchor that the comparison asks for. -/
structure LiesAt (comparison : Comparison) (anchor : String) (level : Int) (path : String) :
    Prop where
  /-- No level is negative. -/
  nonnegative : 0 ≤ level
  within : Path.isWithin anchor path = true
  relates : comparison.Relates (Path.descent anchor path) level
  /-- An upper bound is for paths strictly below the anchor. -/
  strictly : comparison = .less ∨ comparison = .atMost → 1 ≤ Path.descent anchor path

theorem holdsForLevel_of_levelsBelow?
    {levels : Nat}
    (below : Path.levelsBelow? anchor path = some levels) :
    comparison.holdsForLevel (some anchor) level (some path) =
      (decide (0 ≤ level) && !(comparison.boundsAbove && (levels : Int) == 0) &&
        comparison.holds (compare (levels : Int) level)) := by
  simp only [holdsForLevel, below]
  rfl

theorem holdsForLevel_of_not_isWithin
    (outside : Path.isWithin anchor path = false) :
    comparison.holdsForLevel (some anchor) level (some path) = false := by
  rw [← Path.isSome_levelsBelow?, Option.isSome_eq_false_iff, Option.isNone_iff_eq_none]
    at outside
  simp only [holdsForLevel, outside]
  rfl

theorem holdsForLevel_iff_liesAt :
    comparison.holdsForLevel (some anchor) level (some path) = true ↔
      comparison.LiesAt anchor level path := by
  cases within : Path.isWithin anchor path with
  | false =>
      rw [holdsForLevel_of_not_isWithin within]
      refine iff_of_false Bool.false_ne_true fun lies => ?_
      rw [lies.within] at within
      contradiction
  | true =>
      obtain ⟨levels, below⟩ := Path.exists_levelsBelow?_of_isWithin within
      have isDescent := Path.descent_of_levelsBelow? below
      have guarded : (comparison.boundsAbove && (levels : Int) == 0) = false ↔
          (comparison = .less ∨ comparison = .atMost → 1 ≤ Path.descent anchor path) := by
        rw [isDescent, ← boundsAbove_eq_true_iff]
        cases comparison.boundsAbove with
        | false => simp
        | true => simp only [Bool.true_and, beq_eq_false_iff_ne, forall_const]; omega
      rw [holdsForLevel_of_levelsBelow? below, Bool.and_eq_true, Bool.and_eq_true,
        decide_eq_true_iff, Bool.not_eq_true', guarded, holds_compare_iff, ← isDescent]
      constructor
      · rintro ⟨⟨nonnegative, strictly⟩, relates⟩
        exact ⟨nonnegative, within, relates, strictly⟩
      · rintro ⟨nonnegative, _, relates, strictly⟩
        exact ⟨⟨nonnegative, strictly⟩, relates⟩

/-- A path outside may take part with the level `-1`, and the verdict is the same. -/
theorem holdsForLevel_eq_holds_descent
    (comparison : Comparison)
    (anchor : String)
    (level : Int)
    (path : String) :
    comparison.holdsForLevel (some anchor) level (some path) =
      (decide (0 ≤ level) &&
        !(comparison.boundsAbove && decide (Path.descent anchor path ≤ 0)) &&
        comparison.holds (compare (Path.descent anchor path) level)) := by
  cases within : Path.isWithin anchor path with
  | true =>
      obtain ⟨levels, below⟩ := Path.exists_levelsBelow?_of_isWithin within
      have atAnchor : ((levels : Int) == 0) = decide ((levels : Int) ≤ 0) := by
        rw [Bool.eq_iff_iff, beq_iff_eq, decide_eq_true_iff]
        omega
      rw [holdsForLevel_of_levelsBelow? below, Path.descent_of_levelsBelow? below, atAnchor]
  | false =>
      rw [holdsForLevel_of_not_isWithin within, Path.descent_of_not_isWithin within, eq_comm,
        Bool.eq_false_iff, ne_eq, Bool.and_eq_true, Bool.and_eq_true, holds_compare_iff,
        decide_eq_true_iff]
      rintro ⟨⟨nonnegative, notBound⟩, relates⟩
      -- Only an upper bound could hold between `-1` and the level, and it is ruled out.
      cases comparison with
      | equal =>
          obtain rfl : (-1 : Int) = level := relates
          exact absurd nonnegative (by decide)
      | atLeast => exact absurd (Int.le_trans nonnegative relates) (by decide)
      | greater => exact absurd (Int.lt_of_le_of_lt nonnegative relates) (by decide)
      | atMost => simp [boundsAbove] at notBound
      | less => simp [boundsAbove] at notBound

end Comparison

/-! ## Decisions -/

namespace LevelMatcher

open ContentNode

variable {Node : Type u} [ContentNode Node] {matcher : LevelMatcher} {node : Node}

/-- What a rule decides for the node. -/
def Decides (matcher : LevelMatcher) (node : Node) : Prop :=
  let lies := matcher.rule.comparison.LiesAt matcher.rule.anchorPath matcher.rule.level.toNat
    (path node)
  match matcher.rule.access with
  | .allow => lies
  | .deny => Xor (matcher.rule.negated = true) lies

theorem isSatisfied_iff_liesAt :
    matcher.isSatisfied node = true ↔
      matcher.rule.comparison.LiesAt matcher.rule.anchorPath matcher.rule.level.toNat
        (path node) :=
  Comparison.holdsForLevel_iff_liesAt

theorem applies_iff_decides :
    matcher.applies node = true ↔ matcher.Decides node := by
  unfold applies Decides LevelRule.withholds
  cases matcher.rule.access with
  | allow => exact isSatisfied_iff_liesAt
  | deny =>
      simp only [← isSatisfied_iff_liesAt]
      change (matcher.rule.negated != matcher.isSatisfied node) = true ↔ _
      rw [bne_iff_ne, xor_iff_not_iff, ne_eq, Bool.eq_iff_iff]

/-- A comparison of levels holds for the paths that lie at a level it asks for, and for no
others.  Outside the anchor it fails though it is given the level `-1` there, and an upper bound
fails for the anchor itself.  A level rule decides so for the path of a node.  Negation only
reverses a rule that withholds access, which then applies to all nodes outside. -/
theorem applies_at_asked_levels
    (matcher : LevelMatcher)
    (node : Node) :
    (∀ (comparison : Comparison) (anchor : String) (level : Int) (path : String),
      (comparison.holdsForLevel (some anchor) level (some path) = true ↔
        comparison.LiesAt anchor level path) ∧
      comparison.holdsForLevel (some anchor) level (some path) =
        (decide (0 ≤ level) &&
          !(comparison.boundsAbove && decide (Path.descent anchor path ≤ 0)) &&
          comparison.holds (compare (Path.descent anchor path) level)) ∧
      (Path.isWithin anchor path = false →
        Path.descent anchor path = -1 ∧
        comparison.holdsForLevel (some anchor) level (some path) = false) ∧
      (Path.same anchor path = true → comparison = .less ∨ comparison = .atMost →
        comparison.holdsForLevel (some anchor) level (some path) = false)) ∧
    (matcher.applies node = true ↔ matcher.Decides node) ∧
    (matcher.rule.access = .deny → matcher.rule.negated = true →
      Path.isWithin matcher.rule.anchorPath (path node) = false →
        matcher.applies node = true) := by
  refine ⟨fun comparison anchor level path => ⟨Comparison.holdsForLevel_iff_liesAt,
    comparison.holdsForLevel_eq_holds_descent anchor level path, fun outside => ?_,
    fun atAnchor bounds => ?_⟩, applies_iff_decides, fun deny negated outside => ?_⟩
  · exact ⟨Path.descent_of_not_isWithin outside,
      Comparison.holdsForLevel_of_not_isWithin outside⟩
  · rw [Bool.eq_false_iff, ne_eq, Comparison.holdsForLevel_iff_liesAt]
    intro lies
    have positive := lies.strictly bounds
    rw [Path.descent_of_same atAnchor] at positive
    exact absurd positive (by decide)
  · have unsatisfied : matcher.isSatisfied node = false :=
      Comparison.holdsForLevel_of_not_isWithin outside
    rw [applies, LevelRule.withholds, deny, negated, unsatisfied]
    rfl

/-- Another name that begins with that of the anchor lies outside, and slashes at the end make
no level. -/
theorem applies_at_asked_levels_of_similar_names :
    let store := Store.replayed [.insert "a/bc"]
    let place : store.Place := ⟨⟨2, by decide +kernel⟩⟩
    let matcher : LevelMatcher := ⟨⟨.deny, true, .atLeast, 0, "/a/b"⟩⟩
    matcher.applies place = true ∧
      Comparison.equal.holdsForLevel (some "/a/b") (-1) (some "/a/bc") = false ∧
      Comparison.atMost.holdsForLevel (some "/a/b/") 3 (some "/a/b") = false := by
  intro store place matcher
  obtain ⟨levels, _, outside⟩ := applies_at_asked_levels matcher place
  refine ⟨outside rfl rfl (by decide +kernel), ?_, ?_⟩
  · exact ((levels .equal "/a/b" (-1) "/a/bc").2.2.1 (by decide +kernel)).2
  · exact (levels .atMost "/a/b/" 3 "/a/b").2.2.2 (by decide +kernel) (.inr rfl)

end LevelMatcher
end ContentAccess

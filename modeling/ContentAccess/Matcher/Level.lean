import ContentAccess.Content.Node
import ContentAccess.Path
import ContentAccess.Rule.Basic

/-!
# Matching by level

A level rule compares how many levels a node lies below the anchor path with the
level of the rule.
-/

namespace ContentAccess

/-- The levels between the anchor and the path stand in this relation to
`level`.  Nothing holds outside the anchor, below level zero, or where something
is missing, and an upper bound does not hold for the anchor itself. -/
def Comparison.holdsForLevel (comparison : Comparison) (anchor : Option String) (level : Int)
    (path : Option String) : Bool :=
  match anchor, path with
  | some anchor, some path =>
      (Path.levelsBelow? anchor path).any fun levels =>
        0 ≤ level && !(comparison.boundsAbove && levels == 0) &&
          comparison.holds (compare (levels : Int) level)
  | _, _ => false

/-- A level rule, applied to nodes. -/
structure LevelMatcher where
  rule : LevelRule
  deriving DecidableEq, Repr

namespace LevelMatcher

variable {Node : Type u} [ContentNode Node]

/-- The node lies at a level that the rule asks for. -/
def isSatisfied (matcher : LevelMatcher) (node : Node) : Bool :=
  matcher.rule.comparison.holdsForLevel (some matcher.rule.anchorPath)
    matcher.rule.level.toNat (some (ContentNode.path node))

/-- The rule applies to the node.  Only a rule that withholds access can be
negated. -/
def applies (matcher : LevelMatcher) (node : Node) : Bool :=
  if matcher.rule.withholds then matcher.rule.negated != matcher.isSatisfied node
  else matcher.isSatisfied node

end LevelMatcher
end ContentAccess

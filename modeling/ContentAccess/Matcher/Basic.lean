import ContentAccess.Matcher.Level
import ContentAccess.Matcher.Metadata

/-!
# Matchers

What decides whether a restriction applies to a node.  Without a usable
restriction everything matches.
-/

namespace ContentAccess

/-- What decides whether a restriction applies. -/
inductive Matcher where
  /-- Applies everywhere. -/
  | everything
  | metadata (matcher : MetadataMatcher)
  | level (matcher : LevelMatcher)
  deriving DecidableEq, Repr

namespace Matcher

variable {Node : Type u} [ContentNode Node]

/-- The matcher applies everywhere. -/
def isEverything : Matcher → Bool
  | everything => true
  | metadata _ | level _ => false

/-- The restriction applies to the node at this instant. -/
def applies (now : Instant) (node : Node) : Matcher → Bool
  | everything => true
  | metadata matcher => matcher.applies now node
  | level matcher => matcher.applies node

/-- The restriction applies to a bare path, with no node to look at. -/
def appliesToPath (_path : String) (matcher : Matcher) : Bool :=
  matcher.isEverything

/-- The restriction applies with no target at all. -/
def appliesToNothing (matcher : Matcher) : Bool :=
  matcher.isEverything

end Matcher
end ContentAccess

import ContentAccess.Rule.Vocabulary

/-!
# Rules

A metadata rule speaks of one property of a metadata record.  A level rule
speaks of how deep a node lies below the path the rule was declared on.
-/

namespace ContentAccess

/-- A rule over a property of the metadata record of a node. -/
structure MetadataRule where
  access : Access
  negated : Bool
  operandType : OperandType
  comparison : Comparison
  /-- Name of the property. -/
  property : String
  /-- The operands; integers and dates use the first one only. -/
  values : List String
  /-- Path the rule was declared on. -/
  anchorPath : String
  deriving DecidableEq, Repr

/-- A rule over the number of levels between a node and the anchor path. -/
structure LevelRule where
  access : Access
  negated : Bool
  comparison : Comparison
  level : UInt32
  /-- Path the rule was declared on. -/
  anchorPath : String
  deriving DecidableEq, Repr

/-- The rule withholds access. -/
def MetadataRule.withholds (rule : MetadataRule) : Bool :=
  rule.access == .deny

/-- The rule withholds access. -/
def LevelRule.withholds (rule : LevelRule) : Bool :=
  rule.access == .deny

end ContentAccess

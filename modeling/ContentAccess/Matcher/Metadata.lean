import ContentAccess.Operand
import ContentAccess.Rule.Basic
import ContentAccess.Walk

/-!
# Matching by metadata

A metadata rule is satisfied by the metadata record of a node.  A rule that
withholds access looks at the node itself.  A rule that grants access looks at
the leaf resource or container the node lies in, and a container stands for its
children.
-/

namespace ContentAccess

/-- A metadata rule and the layout it is applied under. -/
structure MetadataMatcher where
  rule : MetadataRule
  layout : Layout
  deriving DecidableEq, Repr

namespace MetadataMatcher

open ContentNode

variable {Node : Type u} [ContentNode Node]

/-- A value satisfies the condition of the rule. -/
def accepts (matcher : MetadataMatcher) (now : Instant) (value : String) : Bool :=
  matcher.rule.operandType.accepts matcher.rule.comparison matcher.rule.values
    matcher.layout.dateFormat now value

/-- A metadata record satisfies the condition of the rule.  One of several
values has to satisfy it.  A value that stands alone has to be one of the
operands, whatever the comparison. -/
def acceptsRecord (matcher : MetadataMatcher) (now : Instant) (metadata : Node) : Bool :=
  let property := matcher.rule.property
  if !hasProperty metadata property then
    false
  else if hasSeveral metadata property then
    (values metadata property).any (matcher.accepts now)
  else
    (value? metadata property).any matcher.rule.values.contains

/-- The node has a metadata record that satisfies the condition of the rule. -/
def isSatisfied (matcher : MetadataMatcher) (now : Instant) (node : Node) : Bool :=
  (matcher.layout.metadata? node).any (matcher.acceptsRecord now)

/-- A rule that withholds access applies to the node.  It needs a record, and a
negated rule applies where the condition fails. -/
def denies (matcher : MetadataMatcher) (now : Instant) (node : Node) : Bool :=
  (matcher.layout.metadata? node).isSome &&
    (matcher.rule.negated != matcher.isSatisfied now node)

/-- A rule that grants access applies to the node.  A container needs a child
that satisfies the condition, negated or not. -/
def allows (matcher : MetadataMatcher) (now : Instant) (node : Node) : Bool :=
  let lifted := matcher.layout.lifted node
  match matcher.layout.kind lifted with
  | .container => (children lifted).any (matcher.isSatisfied now)
  | .leafResource | .other => matcher.rule.negated != matcher.isSatisfied now lifted

/-- The rule applies to the node at this instant. -/
def applies (matcher : MetadataMatcher) (now : Instant) (node : Node) : Bool :=
  if matcher.rule.withholds then matcher.denies now node else matcher.allows now node

end MetadataMatcher
end ContentAccess

import ContentAccess.Matcher.Metadata
import Mathlib.Logic.Basic

/-!
# What a metadata rule decides

The condition of a rule speaks of the metadata record of a node.  A rule that
withholds access needs a record and may be reversed by negation.  A rule that
grants access decides for the lifted node: a container stands for its children,
whatever the negation, and any other node for itself, with a record or without.
-/

namespace ContentAccess

open ContentNode

variable {Node : Type u} [ContentNode Node]

/-! ## Records -/

namespace Layout

/-- `record` is the child for metadata of the child for content of the node. -/
def IsRecord
    (layout : Layout)
    (node record : Node) : Prop :=
  ∃ content, child? node layout.contentName = some content ∧
    child? content layout.metadataName = some record

theorem metadata?_eq_some_iff
    {layout : Layout}
    {node record : Node} :
    layout.metadata? node = some record ↔ layout.IsRecord node record := by
  rw [metadata?, IsRecord, Option.bind_eq_some_iff]

theorem isSome_metadata?_iff
    {layout : Layout}
    {node : Node} :
    (layout.metadata? node).isSome = true ↔ ∃ record, layout.IsRecord node record := by
  rw [Option.isSome_iff_exists]
  simp only [metadata?_eq_some_iff]

/-- A leaf resource is no container, even if its type marker is in both lists. -/
theorem kind_eq_container_iff
    {layout : Layout}
    {node : Node} :
    layout.kind node = .container ↔
      layout.isLeaf node = false ∧ layout.isContainer node = true := by
  unfold kind
  cases layout.isLeaf node <;> cases layout.isContainer node <;> simp

end Layout

namespace MetadataMatcher

/-! ## The condition -/

/-- The record has the property.  Of several values one stands in the relation
to the operands, and a value that stands alone is one of the operands. -/
def RecordSatisfies
    (matcher : MetadataMatcher)
    (now : Instant)
    (record : Node) : Prop :=
  hasProperty record matcher.rule.property = true ∧
    ((hasSeveral record matcher.rule.property = true ∧
        ∃ value ∈ values record matcher.rule.property,
          matcher.rule.operandType.accepts matcher.rule.comparison matcher.rule.values
            matcher.layout.dateFormat now value = true) ∨
      (hasSeveral record matcher.rule.property = false ∧
        ∃ value, value? record matcher.rule.property = some value ∧
          value ∈ matcher.rule.values))

/-- The node has a metadata record that satisfies the condition. -/
def Satisfies
    (matcher : MetadataMatcher)
    (now : Instant)
    (node : Node) : Prop :=
  ∃ record, matcher.layout.IsRecord node record ∧ matcher.RecordSatisfies now record

variable {matcher : MetadataMatcher} {now : Instant} {node : Node}

theorem acceptsRecord_iff
    {record : Node} :
    matcher.acceptsRecord now record = true ↔ matcher.RecordSatisfies now record := by
  simp only [acceptsRecord, RecordSatisfies]
  cases present : hasProperty record matcher.rule.property with
  | false => simp
  | true =>
      cases several : hasSeveral record matcher.rule.property with
      | true => simp [accepts]
      | false => simp [Option.any_eq_true]

theorem isSatisfied_iff :
    matcher.isSatisfied now node = true ↔ matcher.Satisfies now node := by
  rw [isSatisfied, Option.any_eq_true, Satisfies]
  simp only [Layout.metadata?_eq_some_iff, acceptsRecord_iff]

/-- A value that stands alone in the record satisfies the condition at every instant if it is an
operand. -/
theorem isSatisfied_of_alone
    {record : Node}
    {value : String}
    (isRecord : matcher.layout.IsRecord node record)
    (present : hasProperty record matcher.rule.property = true)
    (alone : hasSeveral record matcher.rule.property = false)
    (isValue : value? record matcher.rule.property = some value)
    (isOperand : value ∈ matcher.rule.values) :
    matcher.isSatisfied now node = true :=
  isSatisfied_iff.mpr ⟨record, isRecord, present, .inr ⟨alone, value, isValue, isOperand⟩⟩

/-! ## The decision -/

/-- What a rule decides for the node. -/
def Decides
    (matcher : MetadataMatcher)
    (now : Instant)
    (node : Node) : Prop :=
  match matcher.rule.access with
  | .deny =>
      (∃ record, matcher.layout.IsRecord node record) ∧
        Xor (matcher.rule.negated = true) (matcher.Satisfies now node)
  | .allow =>
      let lifted := matcher.layout.lifted node
      if matcher.layout.isLeaf lifted = false ∧ matcher.layout.isContainer lifted = true then
        ∃ child ∈ children lifted, matcher.Satisfies now child
      else
        Xor (matcher.rule.negated = true) (matcher.Satisfies now lifted)

theorem negated_bne_isSatisfied_iff :
    (matcher.rule.negated != matcher.isSatisfied now node) = true ↔
      Xor (matcher.rule.negated = true) (matcher.Satisfies now node) := by
  rw [← isSatisfied_iff, bne_iff_ne, xor_iff_not_iff, ne_eq, Bool.eq_iff_iff]

theorem denies_iff :
    matcher.denies now node = true ↔
      (∃ record, matcher.layout.IsRecord node record) ∧
        Xor (matcher.rule.negated = true) (matcher.Satisfies now node) := by
  rw [denies, Bool.and_eq_true, Layout.isSome_metadata?_iff, negated_bne_isSatisfied_iff]

theorem allows_iff_of_container
    (container : matcher.layout.kind (matcher.layout.lifted node) = .container) :
    matcher.allows now node = true ↔
      ∃ child ∈ children (matcher.layout.lifted node), matcher.Satisfies now child := by
  rw [allows, container]
  simp only [List.any_eq_true, isSatisfied_iff]

theorem allows_eq_of_not_container
    (single : matcher.layout.kind (matcher.layout.lifted node) ≠ .container) :
    matcher.allows now node =
      (matcher.rule.negated != matcher.isSatisfied now (matcher.layout.lifted node)) := by
  unfold allows
  cases kind : matcher.layout.kind (matcher.layout.lifted node) with
  | container => exact absurd kind single
  | leafResource => simp only [kind]
  | other => simp only [kind]

theorem applies_iff_decides :
    matcher.applies now node = true ↔ matcher.Decides now node := by
  unfold applies Decides MetadataRule.withholds
  cases matcher.rule.access with
  | deny => exact denies_iff
  | allow =>
      change matcher.allows now node = true ↔ _
      by_cases container : matcher.layout.kind (matcher.layout.lifted node) = .container
      · rw [allows_iff_of_container container]
        simp only [if_pos (Layout.kind_eq_container_iff.mp container)]
      · rw [allows_eq_of_not_container container, negated_bne_isSatisfied_iff]
        rw [Layout.kind_eq_container_iff] at container
        simp only [if_neg container]

/-! ## Negation -/

/-- The same matcher with its rule negated, or no longer negated. -/
def negate (matcher : MetadataMatcher) : MetadataMatcher :=
  { matcher with rule := { matcher.rule with negated := !matcher.rule.negated } }

@[simp] theorem negate_layout : matcher.negate.layout = matcher.layout :=
  rfl

@[simp] theorem negate_access : matcher.negate.rule.access = matcher.rule.access :=
  rfl

@[simp] theorem negate_negated : matcher.negate.rule.negated = !matcher.rule.negated :=
  rfl

@[simp] theorem isSatisfied_negate :
    matcher.negate.isSatisfied now node = matcher.isSatisfied now node :=
  rfl

theorem not_denies_of_no_record
    (unrecorded : ¬∃ record, matcher.layout.IsRecord node record) :
    matcher.denies now node = false := by
  rw [Bool.eq_false_iff, ne_eq, denies_iff]
  rintro ⟨recorded, _⟩
  exact unrecorded recorded

theorem denies_negate_eq_not_iff :
    matcher.negate.denies now node = !matcher.denies now node ↔
      ∃ record, matcher.layout.IsRecord node record := by
  rw [← Layout.isSome_metadata?_iff]
  simp only [denies, negate_layout, negate_negated, isSatisfied_negate]
  cases (matcher.layout.metadata? node).isSome with
  | false => simp
  | true => simp

theorem allows_negate :
    matcher.negate.allows now node =
      if matcher.layout.kind (matcher.layout.lifted node) = .container then
        matcher.allows now node
      else
        !matcher.allows now node := by
  unfold allows
  simp only [negate_layout, negate_negated]
  cases matcher.layout.kind (matcher.layout.lifted node) with
  | container => rfl
  | leafResource => simp
  | other => simp

/-- A matcher applies exactly where its rule decides so.  Negation reverses a rule
that withholds access on the nodes with a record alone, and a rule that grants
access on all nodes but those lifted to a container. -/
theorem applies_as_decided
    (matcher : MetadataMatcher)
    (now : Instant)
    (node : Node) :
    (matcher.applies now node = true ↔ matcher.Decides now node) ∧
      (matcher.rule.access = .deny →
        (matcher.negate.applies now node = !matcher.applies now node ↔
          ∃ record, matcher.layout.IsRecord node record) ∧
        ((¬∃ record, matcher.layout.IsRecord node record) →
          matcher.applies now node = false ∧ matcher.negate.applies now node = false)) ∧
      (matcher.rule.access = .allow →
        matcher.negate.applies now node =
          if matcher.layout.kind (matcher.layout.lifted node) = .container then
            matcher.applies now node
          else
            !matcher.applies now node) := by
  refine ⟨applies_iff_decides, ?_, ?_⟩
  · intro deny
    have withholding (other : MetadataMatcher) (same : other.rule.access = .deny) :
        other.applies now node = other.denies now node := by
      simp [applies, MetadataRule.withholds, same]
    rw [withholding matcher deny, withholding matcher.negate (negate_access.trans deny)]
    refine ⟨denies_negate_eq_not_iff, fun unrecorded => ⟨?_, ?_⟩⟩
    · exact not_denies_of_no_record unrecorded
    · exact not_denies_of_no_record unrecorded
  · intro allow
    have granting (other : MetadataMatcher) (same : other.rule.access = .allow) :
        other.applies now node = other.allows now node := by
      simp [applies, MetadataRule.withholds, same]
    rw [granting matcher allow, granting matcher.negate (negate_access.trans allow)]
    exact allows_negate

end MetadataMatcher
end ContentAccess

import ContentAccess.Proofs.Walk
import Mathlib.Data.List.Forall2

/-!
# Trees of the same shape

Two trees have the same shape when their nodes are related so that the operations give the same
texts and related nodes, whatever the type markers are.  Each tree may have a layout of its own.
If the layouts take related nodes for the same, walks from related nodes lead to related nodes.
-/

namespace ContentAccess

/-! ## Related results -/

section Results

variable {related : α → β → Prop} {one : Option α} {other : Option β}

theorem rel_bind
    {relatedResults : γ → δ → Prop}
    {first : α → Option γ}
    {second : β → Option δ}
    (alike : Option.Rel related one other)
    (further : ∀ element ∈ one, ∀ next, related element next →
      Option.Rel relatedResults (first element) (second next)) :
    Option.Rel relatedResults (one.bind first) (other.bind second) := by
  cases alike with
  | none => exact .none
  | some alike => exact further _ rfl _ alike

theorem rel_map_self
    {change : α → β}
    (alike : ∀ element ∈ one, related element (change element)) :
    Option.Rel related one (one.map change) := by
  cases one with
  | none => exact .none
  | some element => exact .some (alike element rfl)

theorem rel_map_eq
    {first : α → γ}
    {second : β → γ}
    (alike : Option.Rel related one other)
    (same : ∀ element next, related element next → first element = second next) :
    one.map first = other.map second := by
  cases alike with
  | none => rfl
  | some alike => exact congrArg some (same _ _ alike)

theorem rel_any
    {first : α → Bool}
    {second : β → Bool}
    (alike : Option.Rel related one other)
    (same : ∀ element next, related element next → first element = second next) :
    one.any first = other.any second := by
  cases alike with
  | none => rfl
  | some alike => exact same _ _ alike

theorem rel_or_getD
    {first second : Option α}
    {third fourth : Option β}
    {default : α}
    {otherDefault : β}
    (alike : Option.Rel related first third)
    (alikeElse : Option.Rel related second fourth)
    (alikeDefault : related default otherDefault) :
    related ((first.or second).getD default) ((third.or fourth).getD otherDefault) := by
  cases alike with
  | some alike => exact alike
  | none =>
      cases alikeElse with
      | some alike => exact alike
      | none => exact alikeDefault

theorem forall₂_any
    {list : List α}
    {others : List β}
    {first : α → Bool}
    {second : β → Bool}
    (alike : List.Forall₂ related list others)
    (same : ∀ element next, related element next → first element = second next) :
    list.any first = others.any second := by
  induction alike with
  | nil => rfl
  | cons alike _ further => rw [List.any_cons, List.any_cons, same _ _ alike, further]

end Results

/-! ## Layouts that differ in types -/

namespace Layout

/-- Two layouts differ at most in the type markers of leaf resources and of containers. -/
structure SameButTypes (layout other : Layout) : Prop where
  root : layout.root = other.root
  contentName : layout.contentName = other.contentName
  metadataName : layout.metadataName = other.metadataName
  dateFormat : layout.dateFormat = other.dateFormat

theorem SameButTypes.refl (layout : Layout) : SameButTypes layout layout :=
  ⟨rfl, rfl, rfl, rfl⟩

end Layout

namespace ContentNode

variable {First : Type u} {Second : Type v} [ContentNode First] [ContentNode Second]

/-! ## Shapes -/

/-- Related nodes of two trees answer alike, but for their type markers. -/
structure SameShape (related : First → Second → Prop) : Prop where
  path : ∀ one other, related one other → path one = path other
  name : ∀ one other, related one other → ContentNode.name one = ContentNode.name other
  hasProperty : ∀ one other, related one other → ∀ property,
    hasProperty one property = hasProperty other property
  hasSeveral : ∀ one other, related one other → ∀ property,
    hasSeveral one property = hasSeveral other property
  /-- A property that is there and has one value has the same value. -/
  value : ∀ one other, related one other → ∀ property,
    ContentNode.hasProperty one property = true → ContentNode.hasSeveral one property = false →
      value? one property = value? other property
  /-- A property that has several values has the same values. -/
  values : ∀ one other, related one other → ∀ property,
    ContentNode.hasSeveral one property = true → values one property = values other property
  parent : ∀ one other, related one other → Option.Rel related (parent? one) (parent? other)
  child : ∀ one other, related one other → ∀ name,
    Option.Rel related (child? one name) (child? other name)
  children : ∀ one other, related one other →
    List.Forall₂ related (children one) (children other)

/-- Two layouts take related nodes for the same, each the nodes of its own tree. -/
structure SameRoles (related : First → Second → Prop) (layout other : Layout) : Prop where
  isLeaf : ∀ one next, related one next → layout.isLeaf one = other.isLeaf next
  isContainer : ∀ one next, related one next → layout.isContainer one = other.isContainer next
  isRepositoryRoot : ∀ one next, related one next →
    layout.isRepositoryRoot one = other.isRepositoryRoot next

variable {related : First → Second → Prop} {layout otherLayout : Layout}
  {one : First} {other : Second}

theorem SameRoles.kind_eq
    (roles : SameRoles related layout otherLayout)
    (alike : related one other) :
    layout.kind one = otherLayout.kind other := by
  rw [Layout.kind, Layout.kind, roles.isLeaf one other alike, roles.isContainer one other alike]

namespace SameShape

/-! ## Walks -/

theorem isRepositoryRoot_eq
    (shape : SameShape related)
    (sameRoot : layout.root = otherLayout.root)
    (alike : related one other) :
    layout.isRepositoryRoot one = otherLayout.isRepositoryRoot other := by
  rw [Layout.isRepositoryRoot, Layout.isRepositoryRoot, shape.path one other alike, sameRoot]

theorem rel_nearestLeaf?
    (shape : SameShape related)
    (roles : SameRoles related layout otherLayout)
    (alike : related one other) :
    Option.Rel related (layout.nearestLeaf? one) (otherLayout.nearestLeaf? other) := by
  induction one using induction_up generalizing other with
  | step one further =>
      -- Both walks ask the same of related nodes, so they stop together or go on together.
      rw [layout.nearestLeaf?_eq one, otherLayout.nearestLeaf?_eq other,
        roles.isLeaf one other alike, roles.isRepositoryRoot one other alike]
      split
      · exact .some alike
      · split
        · exact .none
        · refine rel_bind (shape.parent one other alike)
            fun above isAbove otherAbove alikeAbove => ?_
          rw [roles.isRepositoryRoot above otherAbove alikeAbove]
          split
          · exact .none
          · exact further above isAbove alikeAbove

theorem rel_nearestContainer?
    (shape : SameShape related)
    (roles : SameRoles related layout otherLayout)
    (alike : related one other) :
    Option.Rel related (layout.nearestContainer? one) (otherLayout.nearestContainer? other) := by
  induction one using induction_up generalizing other with
  | step one further =>
      rw [layout.nearestContainer?_eq one, otherLayout.nearestContainer?_eq other,
        roles.isContainer one other alike, roles.isRepositoryRoot one other alike]
      split
      · exact .some alike
      · exact rel_bind (shape.parent one other alike)
          fun above isAbove otherAbove alikeAbove => further above isAbove alikeAbove

theorem related_lifted
    (shape : SameShape related)
    (roles : SameRoles related layout otherLayout)
    (alike : related one other) :
    related (layout.lifted one) (otherLayout.lifted other) :=
  rel_or_getD (shape.rel_nearestLeaf? roles alike) (shape.rel_nearestContainer? roles alike) alike

theorem rel_metadata?
    (shape : SameShape related)
    (alike : related one other)
    (layout : Layout) :
    Option.Rel related (layout.metadata? one) (layout.metadata? other) :=
  rel_bind (shape.child one other alike layout.contentName)
    fun content _ otherContent alikeContent =>
      shape.child content otherContent alikeContent layout.metadataName

end SameShape
end ContentNode
end ContentAccess

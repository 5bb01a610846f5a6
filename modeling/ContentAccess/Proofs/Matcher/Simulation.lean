import ContentAccess.Proofs.Content.Outline
import ContentAccess.Proofs.Content.Log
import ContentAccess.Restriction

/-!
# Decisions on trees that answer alike

Decisions see a tree through the operations on its nodes alone, and ask for the one value or
the several values of a property as it has them.  So they are the same on related nodes.
-/

namespace ContentAccess
namespace ContentNode

/-! ## Properties -/

section Properties

variable {Node : Type u} [ContentNode Node]

/-- What decisions read of a property. -/
def readProperty? (node : Node) (name : String) : Option PropertyValue :=
  if !hasProperty node name then none
  else if hasSeveral node name then some (.multiple (values node name))
  else (value? node name).map .single

theorem ofNode?_eq_map_readProperty?
    (node : Node)
    (name : String) :
    Restriction.ofNode? node name =
      (readProperty? node name).map fun value => ⟨name, value.texts⟩ := by
  unfold Restriction.ofNode? readProperty?
  cases hasProperty node name with
  | false => rfl
  | true =>
      cases hasSeveral node name with
      | true => rfl
      | false => cases value? node name <;> rfl

end Properties
end ContentNode

/-! ## What a rule reads -/

namespace MetadataMatcher

open ContentNode

variable {First : Type u} {Second : Type v} [ContentNode First] [ContentNode Second]
  {matcher : MetadataMatcher} {now : Instant} {one : First} {other : Second}

/-- The values of a property satisfy the condition of the rule. -/
def acceptsValue (matcher : MetadataMatcher) (now : Instant) : PropertyValue → Bool
  | .single text => matcher.rule.values.contains text
  | .multiple texts => texts.any (matcher.accepts now)

theorem acceptsRecord_eq_any_readProperty?
    (matcher : MetadataMatcher)
    (now : Instant)
    (record : First) :
    matcher.acceptsRecord now record =
      (readProperty? record matcher.rule.property).any (matcher.acceptsValue now) := by
  simp only [acceptsRecord, readProperty?]
  cases hasProperty record matcher.rule.property with
  | false => rfl
  | true =>
      cases hasSeveral record matcher.rule.property with
      | true => rfl
      | false => cases value? record matcher.rule.property <;> rfl

/-- What the metadata record of a node says of the property of the rule, if there is a
record. -/
def reading? (matcher : MetadataMatcher) (node : First) : Option (Option PropertyValue) :=
  (matcher.layout.metadata? node).map fun record => readProperty? record matcher.rule.property

/-- The condition of a rule depends on the record by this reading alone. -/
theorem isSatisfied_eq_any_reading?
    (matcher : MetadataMatcher)
    (now : Instant)
    (node : First) :
    matcher.isSatisfied now node =
      (matcher.reading? node).any (Option.any (matcher.acceptsValue now)) := by
  rw [isSatisfied, reading?, Option.any_map]
  congr 1
  funext record
  exact acceptsRecord_eq_any_readProperty? matcher now record

theorem isSatisfied_eq_of_reading?_eq
    (same : matcher.reading? one = matcher.reading? other) :
    matcher.isSatisfied now one = matcher.isSatisfied now other := by
  rw [isSatisfied_eq_any_reading?, isSatisfied_eq_any_reading?, same]

theorem denies_eq_of_reading?_eq
    (same : matcher.reading? one = matcher.reading? other) :
    matcher.denies now one = matcher.denies now other := by
  have sameRecord : (matcher.layout.metadata? one).isSome =
      (matcher.layout.metadata? other).isSome := by
    simpa only [reading?, Option.isSome_map] using congrArg Option.isSome same
  rw [denies, denies, sameRecord, isSatisfied_eq_of_reading?_eq same]

/-! ## Layouts that differ in types -/

section Types

variable {layout otherLayout : Layout} (same : layout.SameButTypes otherLayout)

include same

theorem isSatisfied_eq_of_sameButTypes
    (rule : MetadataRule)
    (now : Instant)
    (node : First) :
    (mk rule layout).isSatisfied now node = (mk rule otherLayout).isSatisfied now node := by
  obtain ⟨sameRoot, sameContent, sameMetadata, sameFormat⟩ := same
  cases layout
  cases otherLayout
  subst sameRoot sameContent sameMetadata sameFormat
  rfl

theorem denies_eq_of_sameButTypes
    (rule : MetadataRule)
    (now : Instant)
    (node : First) :
    (mk rule layout).denies now node = (mk rule otherLayout).denies now node := by
  have sameRecord : layout.metadata? node = otherLayout.metadata? node := by
    rw [Layout.metadata?, Layout.metadata?, same.contentName, same.metadataName]
  rw [denies, denies, isSatisfied_eq_of_sameButTypes same, sameRecord]

end Types

end MetadataMatcher

/-! ## Decisions -/

namespace ContentNode
namespace SameShape

variable {First : Type u} {Second : Type v} [ContentNode First] [ContentNode Second]
  {related : First → Second → Prop} {one : First} {other : Second} {layout otherLayout : Layout}

/-- The value and the values are only read where related nodes agree on them. -/
theorem readProperty?_eq
    (shape : SameShape related)
    (alike : related one other)
    (name : String) :
    readProperty? one name = readProperty? other name := by
  unfold readProperty?
  rw [← shape.hasProperty one other alike, ← shape.hasSeveral one other alike]
  cases present : ContentNode.hasProperty one name with
  | false => rfl
  | true =>
      cases several : ContentNode.hasSeveral one name with
      | true => simp [shape.values one other alike name several]
      | false => simp [shape.value one other alike name present several]

theorem reading?_eq
    (shape : SameShape related)
    (alike : related one other)
    (matcher : MetadataMatcher) :
    matcher.reading? one = matcher.reading? other :=
  rel_map_eq (shape.rel_metadata? alike matcher.layout)
    fun _ _ alikeRecord => shape.readProperty?_eq alikeRecord matcher.rule.property

/-- Type markers make no difference for the record of a node. -/
theorem isSatisfied_eq
    (shape : SameShape related)
    (alike : related one other)
    (same : layout.SameButTypes otherLayout)
    (rule : MetadataRule)
    (now : Instant) :
    (MetadataMatcher.mk rule layout).isSatisfied now one =
      (MetadataMatcher.mk rule otherLayout).isSatisfied now other := by
  rw [MetadataMatcher.isSatisfied_eq_of_reading?_eq (shape.reading?_eq alike ⟨rule, layout⟩),
    MetadataMatcher.isSatisfied_eq_of_sameButTypes same]

theorem denies_eq
    (shape : SameShape related)
    (alike : related one other)
    (same : layout.SameButTypes otherLayout)
    (rule : MetadataRule)
    (now : Instant) :
    (MetadataMatcher.mk rule layout).denies now one =
      (MetadataMatcher.mk rule otherLayout).denies now other := by
  rw [MetadataMatcher.denies_eq_of_reading?_eq (shape.reading?_eq alike ⟨rule, layout⟩),
    MetadataMatcher.denies_eq_of_sameButTypes same]

theorem allows_eq
    (shape : SameShape related)
    (roles : SameRoles related layout otherLayout)
    (alike : related one other)
    (same : layout.SameButTypes otherLayout)
    (rule : MetadataRule)
    (now : Instant) :
    (MetadataMatcher.mk rule layout).allows now one =
      (MetadataMatcher.mk rule otherLayout).allows now other := by
  have alikeLifted := shape.related_lifted roles alike
  have satisfied :
      (ContentNode.children (layout.lifted one)).any
          ((MetadataMatcher.mk rule layout).isSatisfied now) =
        (ContentNode.children (otherLayout.lifted other)).any
          ((MetadataMatcher.mk rule otherLayout).isSatisfied now) :=
    forall₂_any (shape.children _ _ alikeLifted)
      fun _ _ alikeChild => shape.isSatisfied_eq alikeChild same rule now
  simp only [MetadataMatcher.allows, roles.kind_eq alikeLifted, satisfied,
    shape.isSatisfied_eq alikeLifted same rule now]

theorem applies_eq
    (shape : SameShape related)
    (roles : SameRoles related layout otherLayout)
    (alike : related one other)
    (same : layout.SameButTypes otherLayout)
    (rule : MetadataRule)
    (now : Instant) :
    (MetadataMatcher.mk rule layout).applies now one =
      (MetadataMatcher.mk rule otherLayout).applies now other := by
  rw [MetadataMatcher.applies, MetadataMatcher.applies, shape.denies_eq alike same,
    shape.allows_eq roles alike same]

end SameShape

namespace Simulation

variable {First : Type u} {Second : Type v} [ContentNode First] [ContentNode Second]
  {related : First → Second → Prop} {one : First} {other : Second}

theorem isSatisfied_eq
    (simulation : Simulation related)
    (alike : related one other)
    (matcher : MetadataMatcher)
    (now : Instant) :
    matcher.isSatisfied now one = matcher.isSatisfied now other :=
  simulation.toSameShape.isSatisfied_eq alike (.refl matcher.layout) matcher.rule now

theorem metadataMatcher_applies_eq
    (simulation : Simulation related)
    (alike : related one other)
    (matcher : MetadataMatcher)
    (now : Instant) :
    matcher.applies now one = matcher.applies now other :=
  simulation.toSameShape.applies_eq (simulation.sameRoles matcher.layout) alike
    (.refl matcher.layout) matcher.rule now

theorem levelMatcher_applies_eq
    (simulation : Simulation related)
    (alike : related one other)
    (matcher : LevelMatcher) :
    matcher.applies one = matcher.applies other := by
  simp only [LevelMatcher.applies, LevelMatcher.isSatisfied, simulation.path one other alike]

theorem matcher_applies_eq
    (simulation : Simulation related)
    (alike : related one other)
    (matcher : Matcher)
    (now : Instant) :
    matcher.applies now one = matcher.applies now other := by
  cases matcher with
  | everything => rfl
  | metadata matcher => exact simulation.metadataMatcher_applies_eq alike matcher now
  | level matcher => exact simulation.levelMatcher_applies_eq alike matcher

theorem ofNode?_eq
    (simulation : Simulation related)
    (alike : related one other)
    (name : String) :
    Restriction.ofNode? one name = Restriction.ofNode? other name := by
  rw [ofNode?_eq_map_readProperty?, ofNode?_eq_map_readProperty?,
    simulation.toSameShape.readProperty?_eq alike]

theorem matcherAt_eq
    (simulation : Simulation related)
    (alike : related one other)
    (kind : RestrictionKind)
    (layout : Layout)
    (anchorPath : Option String) :
    kind.matcherAt layout anchorPath one = kind.matcherAt layout anchorPath other := by
  rw [RestrictionKind.matcherAt, RestrictionKind.matcherAt, simulation.ofNode?_eq alike]

/-- On related nodes of trees that answer alike, walks lead to related nodes, and nodes are of
one kind and store the same restrictions.  Every matcher decides the same for them. -/
theorem decides_alike
    (simulation : Simulation related)
    (alike : related one other) :
    (∀ layout : Layout,
      layout.kind one = layout.kind other ∧
      Option.Rel related (layout.nearestLeaf? one) (layout.nearestLeaf? other) ∧
      Option.Rel related (layout.nearestContainer? one) (layout.nearestContainer? other) ∧
      related (layout.lifted one) (layout.lifted other) ∧
      Option.Rel related (layout.metadata? one) (layout.metadata? other)) ∧
    (∀ (matcher : MetadataMatcher) (now : Instant),
      matcher.isSatisfied now one = matcher.isSatisfied now other ∧
      matcher.applies now one = matcher.applies now other) ∧
    (∀ matcher : LevelMatcher, matcher.applies one = matcher.applies other) ∧
    (∀ (matcher : Matcher) (now : Instant),
      matcher.applies now one = matcher.applies now other) ∧
    (∀ name, Restriction.ofNode? one name = Restriction.ofNode? other name) ∧
    (∀ (kind : RestrictionKind) (layout : Layout) (anchorPath : Option String),
      kind.matcherAt layout anchorPath one = kind.matcherAt layout anchorPath other) := by
  refine ⟨fun layout => ?_, fun matcher now => ?_, simulation.levelMatcher_applies_eq alike,
    simulation.matcher_applies_eq alike, simulation.ofNode?_eq alike,
    simulation.matcherAt_eq alike⟩
  · exact ⟨simulation.kind_eq alike layout, simulation.rel_nearestLeaf? alike layout,
      simulation.rel_nearestContainer? alike layout, simulation.related_lifted alike layout,
      simulation.rel_metadata? alike layout⟩
  · exact ⟨simulation.isSatisfied_eq alike matcher now,
      simulation.metadataMatcher_applies_eq alike matcher now⟩

/-- A store and its outline give different answers for the one value of a list and for the
list of one value, and still have the same matchers and decisions. -/
theorem decides_alike_on_outline :
    let store := Store.replayed [
      .insertProperty "/a/jcr:content/metadata" "tags" (.multiple ["x", "y"]),
      .insertProperty "/a/jcr:content/metadata" "title" (.single "T"),
      .insertProperty "/a" "rep:subFolder" (.single "deny#>=1")]
    let asset : store.Place := ⟨⟨1, by decide +kernel⟩⟩
    let record : store.Place := ⟨⟨3, by decide +kernel⟩⟩
    ContentNode.value? record "tags" = some "x" ∧
      ContentNode.value? (Store.outlined record) "tags" = none ∧
      ContentNode.values record "title" = ["T"] ∧
      ContentNode.values (Store.outlined record) "title" = [] ∧
      (∀ (matcher : MetadataMatcher) (now : Instant),
        matcher.applies now asset = matcher.applies now (Store.outlined asset)) ∧
      RestrictionKind.level.matcherAt .standard (some "/") (Store.outlined asset) =
        .ok (.level ⟨⟨.deny, false, .atLeast, 1, "/"⟩⟩) := by
  intro store asset record
  have linked : store.WellLinked := (Store.built_replayed _).linked
  obtain ⟨_, metadata, _, _, _, stored⟩ :=
    decides_alike linked.simulation_outlined (Store.isOutlined asset)
  refine ⟨by decide +kernel, ?_, by decide +kernel, ?_, fun matcher now => ?_, ?_⟩
  · rw [linked.value?_outlined]
    decide +kernel
  · rw [linked.values_outlined]
    decide +kernel
  · exact (metadata matcher now).2
  · rw [← stored]
    rfl

end Simulation
end ContentNode
end ContentAccess

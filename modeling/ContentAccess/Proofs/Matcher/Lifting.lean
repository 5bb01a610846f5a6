import ContentAccess.Proofs.Content.Boundary
import ContentAccess.Proofs.Matcher.Metadata

/-!
# Lifting

The node that decides for a node decides for itself, so lifting twice is lifting once.  A rule
that grants access therefore decides for a node as for the node it is lifted to, and for
everything in a leaf resource as for the leaf resource.
-/

namespace ContentAccess

open ContentNode

variable {Node : Type u} [ContentNode Node]

/-! ## Lifting twice -/

namespace Layout

variable {layout : Layout} {node above found leaf : Node} {steps : Nat}

/-- The walk for a leaf resource ends where it starts at one. -/
theorem nearestLeaf?_of_isLeaf
    (isLeaf : layout.isLeaf node = true) :
    layout.nearestLeaf? node = some node := by
  rw [nearestLeaf?_eq, if_pos isLeaf]

/-- The walk for a leaf resource goes on above a node that ends it in neither way. -/
theorem nearestLeaf?_of_parent?
    (noLeaf : ¬layout.isLeaf node = true)
    (notRoot : ¬layout.isRepositoryRoot node = true)
    (isAbove : parent? node = some above)
    (aboveNotRoot : ¬layout.isRepositoryRoot above = true) :
    layout.nearestLeaf? node = layout.nearestLeaf? above := by
  rw [nearestLeaf?_eq, if_neg noLeaf, if_neg notRoot, isAbove, Option.bind_some,
    if_neg aboveNotRoot]

theorem nearestContainer?_of_passed
    (passed : layout.isContainer node = true ∨ layout.isRepositoryRoot node = true) :
    layout.nearestContainer? node = some node := by
  rw [nearestContainer?_eq, if_pos (Bool.or_eq_true _ _ ▸ passed)]

/-- The walk for a leaf resource finds one. -/
theorem isLeaf_of_nearestLeaf?
    (walked : layout.nearestLeaf? node = some leaf) :
    layout.isLeaf leaf = true := by
  obtain ⟨_, nearest⟩ := nearestLeaf?_eq_some_iff.mp walked
  exact nearest.passed

/-- A walk that finds no leaf resource finds none from any node that it comes by either. -/
theorem nearestLeaf?_eq_none_of_ancestor?
    (missed : layout.nearestLeaf? node = none)
    (reached : ancestor? steps node = some above)
    (within : NoneBefore (fun other => layout.isRepositoryRoot other = true) node steps)
    (notRoot : ¬layout.isRepositoryRoot above = true) :
    layout.nearestLeaf? above = none := by
  induction steps generalizing node with
  | zero =>
      obtain rfl := Option.some.inj reached
      exact missed
  | succ steps further =>
      obtain ⟨parent, isAbove, reachedAbove⟩ := Option.bind_eq_some_iff.mp reached
      obtain ⟨nodeNotRoot, withinAbove⟩ := (noneBefore_succ_iff isAbove).mp within
      have parentNotRoot : ¬layout.isRepositoryRoot parent = true := by
        cases steps with
        | zero =>
            obtain rfl := Option.some.inj reachedAbove
            exact notRoot
        | succ steps => exact withinAbove 0 (Nat.zero_lt_succ _) parent rfl
      have noLeaf : ¬layout.isLeaf node = true := by
        intro isLeaf
        rw [nearestLeaf?_of_isLeaf isLeaf] at missed
        contradiction
      rw [nearestLeaf?_of_parent? noLeaf nodeNotRoot isAbove parentNotRoot] at missed
      exact further missed reachedAbove withinAbove

/-- A node in a leaf resource is lifted to it. -/
theorem lifted_of_nearestLeaf?
    (walked : layout.nearestLeaf? node = some leaf) :
    layout.lifted node = leaf :=
  lifted_eq_iff.mpr (.inl walked)

theorem lifted_of_isLeaf
    (isLeaf : layout.isLeaf node = true) :
    layout.lifted node = node :=
  lifted_of_nearestLeaf? (nearestLeaf?_of_isLeaf isLeaf)

/-- The container that a node is lifted to decides for itself.  It is a leaf resource if it
is the root of the repository and has the type of one. -/
theorem lifted_of_nearestContainer?
    (missed : layout.nearestLeaf? node = none)
    (walked : layout.nearestContainer? node = some found) :
    layout.lifted found = found := by
  obtain ⟨steps, nearest⟩ := nearestContainer?_eq_some_iff.mp walked
  by_cases isLeaf : layout.isLeaf found = true
  · exact lifted_of_isLeaf isLeaf
  · have missedAbove : layout.nearestLeaf? found = none := by
      by_cases isRoot : layout.isRepositoryRoot found = true
      · rw [nearestLeaf?_eq, if_neg isLeaf, if_pos isRoot]
      · refine nearestLeaf?_eq_none_of_ancestor? missed nearest.reached ?_ isRoot
        intro fewer less below isBelow belowRoot
        exact nearest.first fewer less below isBelow (.inr belowRoot)
    exact lifted_eq_iff.mpr
      (.inr (.inl ⟨missedAbove, nearestContainer?_of_passed nearest.passed⟩))

/-- Lifting twice is lifting once. -/
@[simp] theorem lifted_lifted
    (layout : Layout)
    (node : Node) :
    layout.lifted (layout.lifted node) = layout.lifted node := by
  generalize isLifted : layout.lifted node = found
  rcases lifted_eq_iff.mp isLifted with isLeaf | ⟨missed, isContainer⟩ | ⟨_, _, rfl⟩
  · exact lifted_of_isLeaf (isLeaf_of_nearestLeaf? isLeaf)
  · exact lifted_of_nearestContainer? missed isContainer
  · exact isLifted

end Layout

/-! ## Decisions for lifted nodes -/

namespace MetadataMatcher

variable {matcher : MetadataMatcher} {now : Instant} {node leaf : Node}

theorem applies_of_allow
    (allow : matcher.rule.access = .allow) :
    matcher.applies now node = matcher.allows now node := by
  rw [applies, MetadataRule.withholds, allow]
  rfl

theorem applies_of_deny
    (deny : matcher.rule.access = .deny) :
    matcher.applies now node = matcher.denies now node := by
  rw [applies, MetadataRule.withholds, deny]
  rfl

/-- A rule that grants access looks at nothing but the lifted node. -/
theorem allows_lifted
    (matcher : MetadataMatcher)
    (now : Instant)
    (node : Node) :
    matcher.allows now (matcher.layout.lifted node) = matcher.allows now node := by
  rw [allows, allows, Layout.lifted_lifted]

/-- In a leaf resource, the record of the leaf resource decides. -/
theorem applies_of_nearestLeaf?
    (allow : matcher.rule.access = .allow)
    (walked : matcher.layout.nearestLeaf? node = some leaf) :
    matcher.applies now node = (matcher.rule.negated != matcher.isSatisfied now leaf) := by
  have isLifted := Layout.lifted_of_nearestLeaf? walked
  rw [applies_of_allow allow, allows_eq_of_not_container, isLifted]
  rw [isLifted, ne_eq, Layout.kind_eq_container_iff, Layout.isLeaf_of_nearestLeaf? walked]
  simp

end MetadataMatcher

namespace Layout

/-- A node is lifted to itself or to a node above it, and from there no further.  So a rule
that grants access decides for it as for the lifted node, and for all nodes from which the
walk finds a leaf resource as for that leaf resource. -/
theorem lifting_keeps_decisions
    (layout : Layout)
    (node : Node) :
    (∀ found, layout.lifted node = found →
      layout.lifted found = found ∧ ∃ steps, ancestor? steps node = some found) ∧
    ∀ (rule : MetadataRule) (now : Instant), rule.access = .allow →
      (MetadataMatcher.mk rule layout).applies now node =
        (MetadataMatcher.mk rule layout).applies now (layout.lifted node) ∧
      ∀ leaf, layout.nearestLeaf? node = some leaf →
        (MetadataMatcher.mk rule layout).applies now node =
          (MetadataMatcher.mk rule layout).applies now leaf := by
  refine ⟨?_, fun rule now allow => ?_⟩
  · rintro found rfl
    obtain ⟨steps, reached, _⟩ := leadsTo_lifted layout node
    exact ⟨lifted_lifted layout node, steps, reached⟩
  · have asLifted : (MetadataMatcher.mk rule layout).applies now node =
        (MetadataMatcher.mk rule layout).applies now (layout.lifted node) := by
      rw [MetadataMatcher.applies_of_allow allow, MetadataMatcher.applies_of_allow allow]
      exact (MetadataMatcher.allows_lifted ⟨rule, layout⟩ now node).symm
    refine ⟨asLifted, fun leaf walked => ?_⟩
    rw [asLifted, lifted_of_nearestLeaf? walked]

/-- A rendition lies in a container of its own, and still the asset grants access to it.  A node
that is lifted to the root of the repository goes no further, though that root has the type of
a leaf resource. -/
theorem lifting_keeps_decisions_in_container :
    let store := Store.replayed [
      .setTypeMarker "r" "dam:Asset", .setTypeMarker "r/a" "DAM:asset",
      .setTypeMarker "r/a/f" "nt:folder", .insert "r/a/f/p", .insert "r/l",
      .insertProperty "r/a/c/m" "s" (.single "x")]
    let layout : Layout :=
      { Layout.standard with root := "/r/", contentName := "c", metadataName := "m" }
    let rule : MetadataRule := ⟨.allow, false, .text, .equal, "s", ["x"], "/r"⟩
    let root : store.Place := ⟨⟨1, by decide +kernel⟩⟩
    let asset : store.Place := ⟨⟨2, by decide +kernel⟩⟩
    let rendition : store.Place := ⟨⟨4, by decide +kernel⟩⟩
    let loose : store.Place := ⟨⟨5, by decide +kernel⟩⟩
    layout.nearestLeaf? rendition = some asset ∧
    (∀ now, (MetadataMatcher.mk rule layout).applies now asset = true ∧
      (MetadataMatcher.mk rule layout).applies now rendition = true) ∧
    layout.lifted loose = root ∧ layout.lifted root = root := by
  intro store layout rule root asset rendition loose
  have inAsset : layout.nearestLeaf? rendition = some asset := by
    let folder : store.Place := ⟨⟨3, by decide +kernel⟩⟩
    have inFolder : parent? rendition = some folder := by decide +kernel
    have folderInAsset : parent? folder = some asset := by decide +kernel
    calc layout.nearestLeaf? rendition
      _ = layout.nearestLeaf? folder :=
          nearestLeaf?_of_parent? (by decide +kernel) (by decide +kernel) inFolder
            (by decide +kernel)
      _ = layout.nearestLeaf? asset :=
          nearestLeaf?_of_parent? (by decide +kernel) (by decide +kernel) folderInAsset
            (by decide +kernel)
      _ = some asset := nearestLeaf?_of_isLeaf (by decide +kernel)
  have looseLifted : layout.lifted loose = root := by
    refine lifted_eq_iff.mpr (.inr (.inl ⟨?_, ?_⟩))
    · rw [nearestLeaf?_eq]
      decide +kernel
    · have inRoot : parent? loose = some root := by decide +kernel
      rw [nearestContainer?_eq, if_neg (by decide +kernel), inRoot, Option.bind_some,
        nearestContainer?_of_passed (by decide +kernel)]
  have granted (now : Instant) : (MetadataMatcher.mk rule layout).applies now asset = true := by
    let record : store.Place := ⟨⟨7, by decide +kernel⟩⟩
    have isRecord : layout.IsRecord asset record :=
      ⟨⟨⟨6, by decide +kernel⟩⟩, by decide +kernel, by decide +kernel⟩
    have satisfied : (MetadataMatcher.mk rule layout).isSatisfied now asset = true :=
      MetadataMatcher.isSatisfied_of_alone isRecord (by decide +kernel) (by decide +kernel)
        (by decide +kernel) (List.mem_singleton_self "x")
    calc (MetadataMatcher.mk rule layout).applies now asset
      _ = (false != (MetadataMatcher.mk rule layout).isSatisfied now asset) :=
          MetadataMatcher.applies_of_nearestLeaf? rfl (nearestLeaf?_of_isLeaf (by decide +kernel))
      _ = true := by rw [satisfied, Bool.false_bne]
  refine ⟨inAsset, fun now => ⟨granted now, ?_⟩, looseLifted, ?_⟩
  · rw [((lifting_keeps_decisions layout rendition).2 rule now rfl).2 asset inAsset, granted now]
  · exact ((lifting_keeps_decisions layout loose).1 root looseLifted).1

end Layout
end ContentAccess

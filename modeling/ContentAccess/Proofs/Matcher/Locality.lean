import ContentAccess.Proofs.Content.Updates
import ContentAccess.Proofs.Matcher.Lifting
import ContentAccess.Proofs.Matcher.Simulation

/-!
# Decisions and changes elsewhere

A decision reads one property of one metadata record, and a rule that grants access reads the
type markers on the way up to the leaf resource as well.  A change of a store that touches none
of these leaves the decision as it was, whatever it does to siblings, other assets or the nodes
above the leaf resource.
-/

namespace ContentAccess

open ContentNode

/-! ## What the walk for a leaf resource reads -/

namespace Layout

variable {First : Type u} {Second : Type v} [ContentNode First] [ContentNode Second]
  {layout : Layout} {one leaf : First} {other : Second} {steps : Nat}

/-- A walk finds the leaf resource as many steps up as one in another tree, if the nodes up to
there look alike. -/
theorem IsNearestLeaf.transport
    (nearest : layout.IsNearestLeaf one steps leaf)
    (alike : ∀ fewer ≤ steps,
      Option.Rel LookAlike (ancestor? fewer one) (ancestor? fewer other)) :
    ∃ otherLeaf, layout.IsNearestLeaf other steps otherLeaf ∧ LookAlike leaf otherLeaf := by
  have here : LookAlike one other := by
    cases alike 0 (Nat.zero_le _) with
    | some here => exact here
  induction steps generalizing one other with
  | zero =>
      obtain ⟨rfl, isLeaf⟩ := isNearestLeaf_zero_iff.mp nearest
      rw [here.isLeaf_eq] at isLeaf
      exact ⟨other, isNearestLeaf_zero_iff.mpr ⟨rfl, isLeaf⟩, here⟩
  | succ steps further =>
      obtain ⟨noLeaf, notRoot, above, isAbove, aboveNotRoot, nearestAbove⟩ :=
        isNearestLeaf_succ_iff.mp nearest
      rw [here.isLeaf_eq] at noLeaf
      rw [here.isRepositoryRoot_eq] at notRoot
      cases otherParent : parent? other with
      | none =>
          have next := alike 1 (Nat.succ_le_succ (Nat.zero_le _))
          rw [ancestor?, ancestor?, isAbove, otherParent] at next
          cases next
      | some otherAbove =>
          have alikeAbove (fewer : Nat) (less : fewer ≤ steps) :
              Option.Rel LookAlike (ancestor? fewer above) (ancestor? fewer otherAbove) := by
            have next := alike (fewer + 1) (Nat.succ_le_succ less)
            rwa [ancestor?, ancestor?, isAbove, otherParent] at next
          have hereAbove : LookAlike above otherAbove := by
            cases alikeAbove 0 (Nat.zero_le _) with
            | some hereAbove => exact hereAbove
          rw [hereAbove.isRepositoryRoot_eq] at aboveNotRoot
          obtain ⟨otherLeaf, otherNearest, alikeLeaf⟩ :=
            further nearestAbove alikeAbove hereAbove
          exact ⟨otherLeaf, isNearestLeaf_succ_iff.mpr
            ⟨noLeaf, notRoot, otherAbove, otherParent, aboveNotRoot, otherNearest⟩, alikeLeaf⟩

end Layout

/-! ## Stores -/

namespace Store

variable {store : Store} {place leaf : store.Place} {change : Change}
  {matcher : MetadataMatcher} {now : Instant}

/-- The route at which the metadata record of a node would stand. -/
def recordRoute (layout : Layout) (place : store.Place) : List String :=
  Path.segments (path place) ++ [layout.contentName, layout.metadataName]

theorem readProperty?_eq_get?
    (place : store.Place)
    (name : String) :
    readProperty? place name = place.entry.properties.get? name := by
  simp only [readProperty?, hasProperty, hasSeveral, value?, values]
  rcases place.entry.properties.get? name with _ | text | texts <;> rfl

namespace WellLinked

theorem metadata?_eq_some_iff
    (linked : store.WellLinked)
    {layout : Layout}
    {record : store.Place} :
    layout.metadata? place = some record ↔
      Path.segments (path record) = recordRoute layout place := by
  rw [Layout.metadata?_eq_some_iff, Layout.IsRecord, recordRoute]
  simp only [linked.child?_eq_some_iff_segments]
  constructor
  · rintro ⟨content, isContent, isRecord⟩
    rw [isRecord, isContent, List.append_assoc]
    rfl
  · intro isRoute
    rw [List.append_cons] at isRoute
    obtain ⟨content, _, isContent, _⟩ := linked.exists_parent?_of_segments_path isRoute
    exact ⟨content, isContent, by rw [isRoute, isContent]⟩

/-- A rule reads the property that stands at the route of the record. -/
theorem reading?_eq
    (linked : store.WellLinked)
    (matcher : MetadataMatcher)
    (place : store.Place) :
    matcher.reading? place =
      store.propertyAt? (recordRoute matcher.layout place) matcher.rule.property := by
  rw [MetadataMatcher.reading?, propertyAt?]
  cases isRecord : matcher.layout.metadata? place with
  | some record =>
      rw [← linked.metadata?_eq_some_iff.mp isRecord, linked.contents?_path, Option.map_some,
        Option.map_some, readProperty?_eq_get?]
  | none =>
      have nowhere : store.contents? (recordRoute matcher.layout place) = none := by
        refine linked.contents?_eq_none_iff.mpr fun record isRoute => ?_
        rw [linked.metadata?_eq_some_iff.mpr isRoute] at isRecord
        contradiction
      rw [nowhere]
      rfl

theorem reading?_kept
    (linked : store.WellLinked)
    {kept : (change.apply store).Place}
    (samePath : path kept = path place)
    (undisturbed : ¬change.Disturbs store (recordRoute matcher.layout place)
      matcher.rule.property) :
    matcher.reading? kept = matcher.reading? place := by
  have sameRoute : recordRoute matcher.layout kept = recordRoute matcher.layout place := by
    rw [recordRoute, recordRoute, samePath]
  rw [(linked.apply change).reading?_eq, linked.reading?_eq, sameRoute,
    linked.propertyAt?_apply undisturbed]

end WellLinked

/-- The change sets the type marker of a node on the way up from one node to another. -/
def Change.MarksBetween (place above : store.Place) (change : Change) : Prop :=
  ∃ steps further passed, ancestor? steps place = some passed ∧
    ancestor? further passed = some above ∧
    change.target? = some (Path.segments (ContentNode.path passed), none)

/-- The walk for a leaf resource ends at the same path if no type marker on its way is set. -/
theorem WellLinked.exists_nearestLeaf?_kept
    (linked : store.WellLinked)
    {layout : Layout}
    {kept : (change.apply store).Place}
    (samePath : path kept = path place)
    (walked : layout.nearestLeaf? place = some leaf)
    (unmarked : ¬change.MarksBetween place leaf) :
    ∃ keptLeaf, layout.nearestLeaf? kept = some keptLeaf ∧ path keptLeaf = path leaf := by
  obtain ⟨steps, nearest⟩ := Layout.nearestLeaf?_eq_some_iff.mp walked
  have alike (fewer : Nat) (less : fewer ≤ steps) :
      Option.Rel LookAlike (ancestor? fewer place) (ancestor? fewer kept) := by
    have above := linked.rel_ancestor? (linked.apply change) samePath.symm fewer
    cases reached : ancestor? fewer place with
    | none =>
        rw [reached] at above
        generalize ancestor? fewer kept = keptAbove at above ⊢
        cases above
        exact .none
    | some passed =>
        obtain ⟨further, rfl⟩ := Nat.exists_eq_add_of_le less
        have onWay : ancestor? further passed = some leaf := by
          rw [← nearest.reached, ancestor?_add, reached, Option.bind_some]
        have notSet : change.target? ≠ some (Path.segments (path passed), none) := fun isSet =>
          unmarked ⟨fewer, further, passed, reached, onWay, isSet⟩
        rw [reached] at above
        generalize ancestor? fewer kept = keptAbove at above ⊢
        cases above with
        | some same => exact .some ⟨same, (linked.typeMarker?_kept same.symm notSet).symm⟩
  obtain ⟨keptLeaf, keptNearest, alikeLeaf⟩ := nearest.transport alike
  exact ⟨keptLeaf, Layout.nearestLeaf?_eq_some_iff.mpr ⟨steps, keptNearest⟩, alikeLeaf.path.symm⟩

/-- A change leaves a decision of a rule that withholds access as it was, unless it adds the
metadata record of the node or sets the property of the rule there.  For a rule that grants
access this holds of the record of the leaf resource that the node lies in, if the change sets
no type marker on the way up to it. -/
theorem Built.decides_locally
    (built : store.Built)
    (change : Change)
    (place : store.Place)
    (matcher : MetadataMatcher)
    (now : Instant) :
    ∃ kept : (change.apply store).Place,
      (change.apply store).node? (path place) = some kept ∧
      (matcher.rule.access = .deny →
        ¬change.Disturbs store (recordRoute matcher.layout place) matcher.rule.property →
          matcher.applies now kept = matcher.applies now place) ∧
      (matcher.rule.access = .allow → ∀ leaf, matcher.layout.nearestLeaf? place = some leaf →
        ¬change.Disturbs store (recordRoute matcher.layout leaf) matcher.rule.property →
        ¬change.MarksBetween place leaf →
          matcher.applies now kept = matcher.applies now place) := by
  obtain ⟨kept, found, samePath⟩ := built.linked.exists_kept change place
  refine ⟨kept, found, ?_, ?_⟩
  · intro deny undisturbed
    rw [MetadataMatcher.applies_of_deny deny, MetadataMatcher.applies_of_deny deny]
    exact MetadataMatcher.denies_eq_of_reading?_eq
      (built.linked.reading?_kept samePath undisturbed)
  · intro allow leaf walked undisturbed unmarked
    obtain ⟨keptLeaf, keptWalked, sameLeaf⟩ :=
      built.linked.exists_nearestLeaf?_kept samePath walked unmarked
    have sameReading := built.linked.reading?_kept sameLeaf undisturbed
    rw [MetadataMatcher.applies_of_nearestLeaf? allow walked,
      MetadataMatcher.applies_of_nearestLeaf? allow keptWalked,
      MetadataMatcher.isSatisfied_eq_of_reading?_eq sameReading]

/-- Another property of the same record changes no decision on the asset, nor on a rendition
in it.  The record meets the condition before and after, so a rule applies and its negation does
not. -/
theorem Built.decides_locally_with_other_property :
    let store := replayed [.setTypeMarker "r/a" "dam:Asset",
      .insertProperty "r/a/c/m" "s" (.single "x"), .insert "r/a/p"]
    let change : Change := .insertProperty "r/a/c/m" "t" (.multiple ["y"])
    let layout : Layout :=
      { Layout.standard with root := "/r", contentName := "c", metadataName := "m" }
    let rule (access : Access) (negated : Bool) : MetadataRule :=
      ⟨access, negated, .text, .equal, "s", ["x"], "/r"⟩
    let asset : store.Place := ⟨⟨2, by decide +kernel⟩⟩
    let rendition : store.Place := ⟨⟨5, by decide +kernel⟩⟩
    layout.nearestLeaf? rendition = some asset ∧
    ∀ negated now,
      (MetadataMatcher.mk (rule .deny negated) layout).applies now asset = !negated ∧
      (MetadataMatcher.mk (rule .allow negated) layout).applies now rendition = !negated ∧
      (∃ kept : (change.apply store).Place, (change.apply store).node? (path asset) = some kept ∧
        (MetadataMatcher.mk (rule .deny negated) layout).applies now kept = !negated) ∧
      (∃ kept : (change.apply store).Place,
        (change.apply store).node? (path rendition) = some kept ∧
        (MetadataMatcher.mk (rule .allow negated) layout).applies now kept = !negated) := by
  intro store change layout rule asset rendition
  have built : store.Built := built_replayed _
  have undisturbed : ¬change.Disturbs store (recordRoute layout asset) "s" := by
    rintro (⟨_, notThere⟩ | isSet)
    · exact notThere ⟨⟨4, by decide +kernel⟩⟩ (by decide +kernel)
    · revert isSet
      decide +kernel
  have unmarked : ¬change.MarksBetween rendition asset := by
    rintro ⟨_, _, passed, _, _, isSet⟩
    simp [change, Change.target?] at isSet
  have inAsset : layout.nearestLeaf? rendition = some asset := by
    have isAbove : parent? rendition = some asset := by decide +kernel
    calc layout.nearestLeaf? rendition
      _ = layout.nearestLeaf? asset :=
          Layout.nearestLeaf?_of_parent? (by decide +kernel) (by decide +kernel) isAbove
            (by decide +kernel)
      _ = some asset := Layout.nearestLeaf?_of_isLeaf (by decide +kernel)
  let record : store.Place := ⟨⟨4, by decide +kernel⟩⟩
  have isRecord : layout.IsRecord asset record :=
    ⟨⟨⟨3, by decide +kernel⟩⟩, by decide +kernel, by decide +kernel⟩
  have recorded : (layout.metadata? asset).isSome = true :=
    Layout.isSome_metadata?_iff.mpr ⟨record, isRecord⟩
  have present : hasProperty record "s" = true := by decide +kernel
  have alone : hasSeveral record "s" = false := by decide +kernel
  have isValue : value? record "s" = some "x" := by decide +kernel
  refine ⟨inAsset, fun negated now => ?_⟩
  have satisfied (access : Access) :
      (MetadataMatcher.mk (rule access negated) layout).isSatisfied now asset = true :=
    MetadataMatcher.isSatisfied_of_alone isRecord present alone isValue
      (List.mem_singleton_self "x")
  have denies : (MetadataMatcher.mk (rule .deny negated) layout).applies now asset = !negated := by
    rw [MetadataMatcher.applies_of_deny rfl, MetadataMatcher.denies, satisfied, recorded,
      Bool.true_and, Bool.bne_true]
  have allows :
      (MetadataMatcher.mk (rule .allow negated) layout).applies now rendition = !negated := by
    calc (MetadataMatcher.mk (rule .allow negated) layout).applies now rendition
      _ = (negated != (MetadataMatcher.mk (rule .allow negated) layout).isSatisfied now asset) :=
          MetadataMatcher.applies_of_nearestLeaf? rfl inAsset
      _ = !negated := by rw [satisfied, Bool.bne_true]
  obtain ⟨kept, found, denied, _⟩ :=
    built.decides_locally change asset ⟨rule .deny negated, layout⟩ now
  obtain ⟨keptIn, foundIn, _, allowed⟩ :=
    built.decides_locally change rendition ⟨rule .allow negated, layout⟩ now
  exact ⟨denies, allows, ⟨kept, found, (denied rfl undisturbed).trans denies⟩,
    ⟨keptIn, foundIn, (allowed rfl asset inAsset undisturbed unmarked).trans allows⟩⟩

end Store
end ContentAccess

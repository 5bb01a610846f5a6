import ContentAccess.Proofs.Content.Descent

/-!
# What a change leaves as it was

A change of a store moves no node: every node is found at its path again, with the same nodes
above it.  It keeps the type marker of a node and the value of a property unless it sets just
that, and it adds no node but on its own way.
-/

namespace ContentAccess
namespace Store

open ContentNode

/-! ## Nodes at the same path -/

section SamePath

variable {first second : Store} {one : first.Place} {other : second.Place}

/-- Nodes at the same path have nodes at the same path above them. -/
theorem WellLinked.rel_parent?
    (firstLinked : first.WellLinked)
    (secondLinked : second.WellLinked)
    (samePath : path one = path other) :
    Option.Rel (fun above otherAbove => path above = path otherAbove)
      (parent? one) (parent? other) := by
  have sameSegments := congrArg Path.segments samePath
  cases oneAbove : parent? one with
  | none =>
      rw [firstLinked.parent?_eq_none_iff.mp oneAbove, firstLinked.segments_path_root]
        at sameSegments
      cases otherAbove : parent? other with
      | none => exact .none
      | some above =>
          rw [secondLinked.segments_path otherAbove] at sameSegments
          simp at sameSegments
  | some above =>
      rw [firstLinked.segments_path oneAbove] at sameSegments
      cases otherAbove : parent? other with
      | none =>
          rw [secondLinked.parent?_eq_none_iff.mp otherAbove, secondLinked.segments_path_root]
            at sameSegments
          simp at sameSegments
      | some further =>
          rw [secondLinked.segments_path otherAbove] at sameSegments
          refine .some ?_
          rw [firstLinked.path_eq_ofSegments, secondLinked.path_eq_ofSegments,
            List.append_inj_left' sameSegments rfl]

theorem WellLinked.rel_ancestor?
    (firstLinked : first.WellLinked)
    (secondLinked : second.WellLinked)
    (samePath : path one = path other)
    (steps : Nat) :
    Option.Rel (fun above otherAbove => path above = path otherAbove)
      (ancestor? steps one) (ancestor? steps other) := by
  induction steps generalizing one other with
  | zero => exact .some samePath
  | succ steps further =>
      rw [ancestor?, ancestor?]
      have above := firstLinked.rel_parent? secondLinked samePath
      generalize parent? one = oneAbove, parent? other = otherAbove at above ⊢
      cases above with
      | none => exact .none
      | some sameAbove => exact further sameAbove

end SamePath

/-! ## Nodes and routes -/

section Routes

variable {store : Store} {place child : store.Place} {route : List String} {name : String}

namespace WellLinked

/-- Without its last segment, the way to a node leads to the node above it. -/
theorem exists_parent?_of_segments_path
    (linked : store.WellLinked)
    (extended : Path.segments (path child) = route ++ [name]) :
    ∃ above, parent? child = some above ∧ Path.segments (path above) = route ∧
      ContentNode.name child = name := by
  cases isAbove : parent? child with
  | none =>
      rw [linked.parent?_eq_none_iff.mp isAbove, linked.segments_path_root] at extended
      simp at extended
  | some above =>
      rw [linked.segments_path isAbove] at extended
      obtain ⟨sameAbove, sameName⟩ := List.append_inj' extended rfl
      exact ⟨above, rfl, sameAbove, List.singleton_inj.mp sameName⟩

/-- A child stands one segment further. -/
theorem child?_eq_some_iff_segments
    (linked : store.WellLinked) :
    child? place name = some child ↔
      Path.segments (path child) = Path.segments (path place) ++ [name] := by
  rw [linked.child?_eq_some_iff]
  constructor
  · rintro ⟨isAbove, rfl⟩
    exact linked.segments_path isAbove
  · intro extended
    obtain ⟨above, isAbove, sameAbove, named⟩ := linked.exists_parent?_of_segments_path extended
    rw [← linked.eq_of_segments_path_eq sameAbove]
    exact ⟨isAbove, named⟩

end WellLinked

end Routes

/-! ## Changes -/

section Changes

variable {store : Store} {change : Change} {route : List String} {name : String}

theorem Change.typeMarkerAt?_of_target?_ne
    (notSet : change.target? ≠ some (route, none)) :
    change.typeMarkerAt? route = none :=
  Option.eq_none_iff_forall_ne_some.mpr fun typeMarker isSet =>
    notSet (Change.target?_of_typeMarkerAt? change typeMarker isSet)

theorem Change.valueAt?_of_target?_ne
    (notSet : change.target? ≠ some (route, some name)) :
    change.valueAt? route name = none :=
  Option.eq_none_iff_forall_ne_some.mpr fun value isSet =>
    notSet (Change.target?_of_valueAt? change value isSet)

/-- What a route already holds stays there, but for what the change sets. -/
theorem Change.exists_effect_some
    (change : Change)
    (route : List String)
    (former : Contents) :
    ∃ contents, change.effect route (some former) = some contents ∧
      contents.typeMarker = (change.typeMarkerAt? route).or former.typeMarker ∧
      ∀ name, contents.properties.get? name =
        (change.valueAt? route name).or (former.properties.get? name) := by
  unfold Change.effect
  split
  · refine ⟨_, rfl, ?_, fun name => ?_⟩
    · simp only [Option.getD_some, Contents.amended, Contents.typeMarker_listing]
    · simp only [Option.getD_some, Contents.amended, Contents.properties_listing,
        Properties.get?_insertAll]
      cases change with
      | insert path => rfl
      | setTypeMarker path typeMarker => rfl
      | insertProperty path present value =>
          by_cases own : Path.segments path = route <;>
            by_cases same : present = name <;>
            simp [Change.entryAt?, Change.valueAt?, Properties.valuesOf, own, same]
  · rename_i elsewhere
    have notOwn : change.route ≠ route := by
      rintro rfl
      exact elsewhere (List.prefix_refl _)
    refine ⟨former, rfl, ?_, fun name => ?_⟩
    · rw [Change.typeMarkerAt?_of_ne notOwn, Option.none_or]
    · rw [Change.valueAt?_of_ne notOwn, Option.none_or]

namespace WellLinked

/-- What a node holds stays with it, but for what the change sets. -/
theorem exists_contents?_apply
    (linked : store.WellLinked)
    (change : Change)
    (place : store.Place) :
    ∃ contents,
      (change.apply store).contents? (Path.segments (path place)) = some contents ∧
      contents.typeMarker =
        (change.typeMarkerAt? (Path.segments (path place))).or (typeMarker? place) := by
  obtain ⟨contents, isEffect, isMarked, _⟩ := change.exists_effect_some
    (Path.segments (path place))
    ⟨typeMarker? place, place.entry.properties, (children place).map ContentNode.name⟩
  rw [linked.contents?_apply, linked.contents?_path]
  exact ⟨contents, isEffect, isMarked⟩

/-- A node is found at its path again. -/
theorem exists_kept
    (linked : store.WellLinked)
    (change : Change)
    (place : store.Place) :
    ∃ kept : (change.apply store).Place,
      (change.apply store).node? (path place) = some kept ∧ path kept = path place := by
  have changed := linked.apply change
  obtain ⟨contents, holds, _⟩ := linked.exists_contents?_apply change place
  have there : ((change.apply store).node? (path place)).isSome := by
    rw [changed.isSome_node?_iff, holds]
    rfl
  obtain ⟨kept, found⟩ := Option.isSome_iff_exists.mp there
  exact ⟨kept, found, by rw [changed.path_of_node? found, ← linked.path_eq_ofSegments]⟩

/-- The type marker of a node stays unless it is set. -/
theorem typeMarker?_kept
    (linked : store.WellLinked)
    {place : store.Place}
    {kept : (change.apply store).Place}
    (samePath : path kept = path place)
    (notSet : change.target? ≠ some (Path.segments (path place), none)) :
    typeMarker? kept = typeMarker? place := by
  obtain ⟨contents, holds, isMarked⟩ := linked.exists_contents?_apply change place
  rw [← samePath, (linked.apply change).contents?_path kept] at holds
  rw [Change.typeMarkerAt?_of_target?_ne notSet, Option.none_or,
    ← Option.some.inj holds] at isMarked
  exact isMarked

end WellLinked

/-- What the node at a route has for a property, if there is a node. -/
def propertyAt? (store : Store) (route : List String) (name : String) :
    Option (Option PropertyValue) :=
  (store.contents? route).map fun contents => contents.properties.get? name

/-- The change adds the node at the route, or sets the property there. -/
def Change.Disturbs (store : Store) (route : List String) (name : String) (change : Change) :
    Prop :=
  (route <+: change.route ∧
    ∀ place : store.Place, Path.segments (ContentNode.path place) ≠ route) ∨
    change.target? = some (route, some name)

/-- A property stays as it is unless its node is added or it is set. -/
theorem WellLinked.propertyAt?_apply
    (linked : store.WellLinked)
    (undisturbed : ¬change.Disturbs store route name) :
    (change.apply store).propertyAt? route name = store.propertyAt? route name := by
  obtain ⟨notAdded, notSet⟩ := not_or.mp undisturbed
  rw [propertyAt?, propertyAt?, linked.contents?_apply]
  cases holds : store.contents? route with
  | none =>
      have notOnWay : ¬route <+: change.route := fun onWay =>
        notAdded ⟨onWay, linked.contents?_eq_none_iff.mp holds⟩
      rw [Change.effect, if_neg notOnWay]
  | some former =>
      obtain ⟨contents, isEffect, _, isValue⟩ := change.exists_effect_some route former
      rw [isEffect, Option.map_some, Option.map_some, isValue,
        Change.valueAt?_of_target?_ne notSet, Option.none_or]

end Changes

end Store
end ContentAccess
